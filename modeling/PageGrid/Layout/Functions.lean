import PageGrid.Expr.Context
import PageGrid.Layout.Basic

/-!
# Functions about the layout

Expressions in rules can ask the layout for the current page and the flow cursor, for the pages of
markers, and for the sizes of groups, all under the prefix `sd:`. Without a page the cursor is at the
first cell. A reference to an unknown marker fails, or, in a layout that is not strict, yields two
question marks and a warning.

## Main definitions

* `LayoutFunction` — the functions by name;
* `Layout.call` — their values;
* `Layout.extension` — the same, as expressions ask for them.
-/

namespace PageGrid

/-- The functions about the layout. -/
inductive LayoutFunction where
  | currentPage
  | currentRow
  | currentColumn
  | pageNumber
  | numberOfPages
  | groupWidth
  | groupHeight
  | even
  | odd
  deriving DecidableEq, Repr

namespace LayoutFunction

/-- The functions by name. -/
def names : List (String × LayoutFunction) :=
  [("sd:current-page", .currentPage), ("sd:current-row", .currentRow),
   ("sd:current-column", .currentColumn), ("sd:pagenumber", .pageNumber),
   ("sd:number-of-pages", .numberOfPages), ("sd:group-width", .groupWidth),
   ("sd:group-height", .groupHeight), ("sd:even", .even), ("sd:odd", .odd)]

/-- The function of a name. -/
def ofName? (name : String) : Option LayoutFunction :=
  (names.find? fun (n, _) => n = name).map (·.2)

/-- The least and the greatest number of arguments. -/
def arity : LayoutFunction → Nat × Nat
  | .currentPage | .numberOfPages => (0, 0)
  | .currentRow | .currentColumn => (0, 1)
  | .pageNumber | .groupWidth | .groupHeight | .even | .odd => (1, 1)

end LayoutFunction

/-- The whole part of a finite number, within sixty-four bits with a sign. -/
def wholePart (x : Float) : Int :=
  let n := if x < 0 then Decimal.ceilInt x else Decimal.floorInt x
  max (-(Nat.pow 2 63)) (min n (Nat.pow 2 63 - 1))

namespace Layout

/-- A count as a value. -/
def countValue (n : Nat) : Value := .number (Float.ofNat n)

/-- Whether the whole part of a number leaves the given remainder when halved. -/
def parity (d : Xml.Document) (v : Value) (remainder : Int) : Noted CallFault Value :=
  let x := v.toNumber d
  if Decimal.isFinite x then pure (.boolean (wholePart x % 2 == remainder))
  else .fail (.notFinite (v.toText d))

/-- A coordinate of the flow cursor of an area. -/
def cursorValue (l : Layout) (area : String) (part : Nat × Nat → Nat) : Noted CallFault Value :=
  match l.targetGrid? with
  | none => pure (countValue 1)
  | some grid =>
    match grid.cursor area with
    | .ok c => pure (countValue (part c))
    | .error _ => .fail (.unknownArea area)

/-- A side of a group in cells. -/
def groupCells (l : Layout) (name : String) (part : Group Float → Option Nat) :
    Noted CallFault Value :=
  match l.group? name with
  | none => .fail (.unknownGroup name)
  | some group =>
    match part group with
    | some n => pure (countValue n)
    | none => .fail (.openGroup name)

/-- The page of a marker. -/
def pageOfMarker (l : Layout) (name : String) : Noted CallFault Value :=
  match l.references.resolve? name with
  | some m => pure (countValue m.page)
  | none =>
    if l.strictReferences then .fail (.unknownMarker name)
    else do
      .note (.warning s!"Marker '{name}' is not defined, rerun to resolve it")
      return .string "??"

/-- The value of a function whose number of arguments is right. -/
def apply (l : Layout) (d : Xml.Document) (f : LayoutFunction) (args : List Value) :
    Noted CallFault Value :=
  let area := ((args.head?).map (Value.toText d)).getD pageArea
  match f, args with
  | .currentPage, _ => pure (countValue l.currentPageNumber)
  | .currentRow, _ => l.cursorValue area (·.2)
  | .currentColumn, _ => l.cursorValue area (·.1)
  | .pageNumber, v :: _ => l.pageOfMarker (v.toText d)
  | .numberOfPages, _ => pure (countValue (l.references.previousLastPage.getD l.pageCount))
  | .groupWidth, v :: _ => l.groupCells (v.toText d) Group.widthInCells
  | .groupHeight, v :: _ => l.groupCells (v.toText d) Group.heightInCells
  | .even, v :: _ => parity d v 0
  | .odd, v :: _ => parity d v 1
  | f, [] => .fail (.argumentCount f.arity.1 f.arity.2 0)

/-- The value of a function, or why it refuses its arguments. -/
def call (l : Layout) (d : Xml.Document) (f : LayoutFunction) (args : List Value) :
    Noted CallFault Value :=
  if f.arity.1 ≤ args.length ∧ args.length ≤ f.arity.2 then l.apply d f args
  else .fail (.argumentCount f.arity.1 f.arity.2 args.length)

/-- The functions about the layout as expressions ask for them. -/
def extension (l : Layout) (d : Xml.Document) (name : String) (args : List Value) :
    Option (Noted CallFault Value) :=
  (LayoutFunction.ofName? name).map fun f => l.call d f args

end Layout

end PageGrid
