import PageGrid.Session

/-!
# Attributes of rules

The value of an attribute is a template, unless the attribute holds an expression: `text?` and the typed
readers after it expand the value, `expression` and `nodes` take it as it is. An attribute that is missing
is no error of the typed readers.

## Main definitions

* `text?`, `text`, `textOr` — texts;
* `number?`, `cells?`, `position?`, `length?`, `extent?`, `flag` — typed values;
* `expression`, `nodes` — expressions;
* `lengths` — several extents in points, for which a page is opened only if one is in cells.
-/

namespace PageGrid.Attributes

open PageGrid.Action (stop)

/-- Stops because an attribute is missing. -/
def missing {α : Type} (rule : Rule) (name : String) : Action α :=
  stop (.missingAttribute rule.name name rule.line)

/-- Stops because the value of an attribute is faulty. -/
def invalid {α : Type} (rule : Rule) (name value : String) (fault : AttributeFault) : Action α :=
  stop (.invalidAttribute rule.name name value fault)

/-! ### Texts -/

/-- The expanded text of an attribute. -/
def text? (rule : Rule) (name : String) (focus : Focus) : Action (Option String) := do
  match rule.attribute? name with
  | some raw => some <$> Action.expand raw focus
  | none => return none

/-- The expanded text of an attribute that must be there. -/
def text (rule : Rule) (name : String) (focus : Focus) : Action String := do
  match ← text? rule name focus with
  | some s => return s
  | none => missing rule name

/-- The expanded text of an attribute, or a default. -/
def textOr (rule : Rule) (name : String) (focus : Focus) (default : String) : Action String :=
  return (← text? rule name focus).getD default

/-! ### Typed values -/

/-- The value of an attribute as read by a reader that may refuse it. -/
def read? {α : Type} (rule : Rule) (name : String) (focus : Focus)
    (reader : String → Except AttributeFault α) : Action (Option α) := do
  match ← text? rule name focus with
  | none => return none
  | some value =>
    match reader value with
    | .ok a => return some a
    | .error fault => invalid rule name value fault

/-- The value of a reader, or a fault. -/
def orFault {α : Type} (fault : AttributeFault) : Option α → Except AttributeFault α
  | some a => .ok a
  | none => .error fault

/-- A number. -/
def number? (rule : Rule) (name : String) (focus : Focus) : Action (Option Float) :=
  read? rule name focus fun value =>
    orFault .notANumber (Decimal.readFloat (Text.trimChars value.toList))

/-- A positive whole number of cells. -/
def cells? (rule : Rule) (name : String) (focus : Focus) : Action (Option Nat) :=
  read? rule name focus fun value =>
    orFault .notPositiveWhole
      ((Decimal.readNat countLimit (Text.trimChars value.toList)).filter (1 ≤ ·))

/-- A positive whole number of cells that must be there. -/
def cells (rule : Rule) (name : String) (focus : Focus) : Action Nat := do
  match ← cells? rule name focus with
  | some n => return n
  | none => missing rule name

/-- The greatest cell coordinate: sixty-four bits with a sign. -/
def positionLimit : Nat := Nat.pow 2 63 - 1

/-- A cell coordinate, which may be zero or negative to reach into the margins. -/
def position? (rule : Rule) (name : String) (focus : Focus) : Action (Option Int) :=
  read? rule name focus fun value =>
    orFault .notWhole (Decimal.readInt positionLimit (Text.trimChars value.toList))

/-- A length in points. -/
def length? (rule : Rule) (name : String) (focus : Focus) : Action (Option Float) :=
  read? rule name focus fun value => (readLength value).mapError .length

/-- A finite number of cells or a finite length. -/
def extent? (rule : Rule) (name : String) (focus : Focus) : Action (Option (Extent Float)) :=
  read? rule name focus fun value =>
    match readExtent value with
    | .error e => .error (.length e)
    | .ok extent =>
      let x := match extent with
        | .cells x => x
        | .length x => x
      if Decimal.isFinite x then .ok extent else .error .outOfRange

/-- A truth value, or a default. A faulty value is shown without the blanks around it. -/
def flag (rule : Rule) (name : String) (focus : Focus) (default : Bool) : Action Bool := do
  match (← text? rule name focus).map Text.trim with
  | none => return default
  | some value =>
    if value = "yes" ∨ value = "true" then return true
    else if value = "no" ∨ value = "false" then return false
    else invalid rule name value .notBoolean

/-! ### Expressions -/

/-- The expression that an attribute holds. -/
def expression (rule : Rule) (name : String) : Action String :=
  match rule.attribute? name with
  | some raw => return raw
  | none => missing rule name

/-- The nodes that the expression of an attribute selects. -/
def nodes (rule : Rule) (name : String) (focus : Focus) : Action (List Xml.Address) := do
  let raw ← expression rule name
  match ← Action.evaluate raw focus with
  | .nodes set => return set
  | v => invalid rule name raw (.notNodes v.describe)

/-! ### Extents in points -/

/-- The cells of a grid along a direction. -/
def axisOf {α : Type} (grid : Grid α) : Direction → Axis α
  | .horizontal => grid.horizontal
  | .vertical => grid.vertical

/-- The length of an extent on a grid. -/
def extentLength {α : Type} [Scalar α] (grid : Grid α) (direction : Direction) : Extent α → α
  | .length x => x
  | .cells n => (axisOf grid direction).extentLength n

/-- The extents of several attributes, in their order. -/
def extents (rule : Rule) (focus : Focus) :
    List (String × Direction) → Action (List (Direction × Option (Extent Float)))
  | [] => return []
  | (name, direction) :: rest => do
    let extent ← extent? rule name focus
    return (direction, extent) :: (← extents rule focus rest)

/-- Whether an extent is given in cells. -/
def isCells : Option (Extent Float) → Bool
  | some (.cells _) => true
  | _ => false

/-- The extent if it is a length. -/
def length : Extent Float → Option Float
  | .length x => some x
  | .cells _ => none

/-- The extents of several attributes in points. If one of them is in cells, there has to be a grid, and
a page is opened for it if necessary. -/
def lengths (rule : Rule) (focus : Focus) (names : List (String × Direction)) :
    Action (List (Option Float)) := do
  let found ← extents rule focus names
  if found.any fun (_, extent) => isCells extent then
    Action.ensureTarget focus
    let grid ← Action.targetGrid rule
    return found.map fun (direction, extent) => extent.map (extentLength grid direction)
  else return found.map fun (_, extent) => extent.bind length

end PageGrid.Attributes
