import PageGrid.Command.Values
import PageGrid.Grid.Flow

/-!
# Rules that place content

An object is placed at a position in points, at a cell, or in the flow of an area. An object that finds
no room in the flow of its page goes to a new page; one that finds none there either, or on a page whose
flow has not moved, overflows at the start of the cursor's row.
-/

namespace PageGrid.Command

/-! ### Flow -/

/-- Moves the flow of an area to the place of an object on the grid that content goes to; `none` if
there is no room. -/
def flowOnTarget (rule : Rule) (area : String) (columns rows : Nat) :
    Action (Option (Nat × Nat)) := do
  let grid ← Action.targetGrid rule
  let (grid, place) ← Action.ofExcept .grid (grid.flow columns rows area)
  Action.setTargetGrid grid
  return place

/-- Gives up the search for room: the object overflows at the start of the cursor's row. -/
def overflow (rule : Rule) (area : String) (columns rows : Nat) : Action (Nat × Nat) := do
  let grid ← Action.targetGrid rule
  let (_, row) ← Action.ofExcept .grid (grid.cursor area)
  Action.warn
    s!"No room for an object of {columns}x{rows} cells in area '{area}', it overflows"
  return (1, row)

/-- The place of an object in the flow of an area, on this page or on a new one; `none` if the object has
to overflow. -/
def flowPlace? (rule : Rule) (focus : Focus) (area : String) (columns rows : Nat) :
    Action (Option (Nat × Nat)) := do
  match ← flowOnTarget rule area columns rows with
  | some place => return some place
  | none =>
    let grid ← Action.targetGrid rule
    let atStart ← Action.ofExcept .grid (grid.atFlowStart area)
    if (← Action.layout).inGroup || atStart then return none
    else
      Action.finishPage
      Action.ensureTarget focus
      flowOnTarget rule area columns rows

/-- The place of an object in the flow of an area, or the place from which it overflows. -/
def flowPosition (rule : Rule) (focus : Focus) (area : String) (columns rows : Nat) :
    Action (Nat × Nat) := do
  match ← flowPlace? rule focus area columns rows with
  | some place => return place
  | none => overflow rule area columns rows

/-! ### Objects -/

/-- The only box of a list of items. -/
def singleBox (rule : Rule) (items : Items) : Action (ContentBox Float) :=
  match items.boxes with
  | [box] => return box
  | boxes => Action.refuse rule (.objectCount boxes.length)

/-- The box of a finished group. -/
def groupBox (rule : Rule) (name : String) : Action (ContentBox Float) := do
  match (← Action.layout).group? name with
  | none => Action.stop (.grid (.unknownGroup name))
  | some group =>
    match group.box? with
    | some box => return box
    | none => Action.refuse rule (.openGroup name)

/-- Places a box on the group or page that content goes to. -/
def placeBox (x y : Float) (box : ContentBox Float) : Action Unit :=
  Action.modifyLayout fun l => (l.place x y box).getD l

/-- The columns and rows that a box takes on a grid, at least one of each. -/
def cellsOf (grid : Grid Float) (box : ContentBox Float) : Nat × Nat :=
  (max (grid.horizontal.cellsFor box.width) 1, max (grid.vertical.cellsFor box.height) 1)

/-- The cell of an object: the given one, where the cursor stands in for a coordinate that is not given,
or else one in the flow of an area. -/
def cellFor (rule : Rule) (focus : Focus) (area : String) (column row : Option Int)
    (columns rows : Nat) : Action (Int × Int) := do
  if column.isSome || row.isSome then
    let grid ← Action.targetGrid rule
    let (cursorColumn, cursorRow) ← Action.ofExcept .grid (grid.cursor area)
    return (column.getD cursorColumn, row.getD cursorRow)
  else
    let (c, r) ← flowPosition rule focus area columns rows
    return ((c : Int), (r : Int))

/-- Marks a block of cells of an area's active frame on the grid that content goes to. -/
def markBlock (rule : Rule) (area : String) (x y : Int) (columns rows : Nat) : Action Unit := do
  let grid ← Action.targetGrid rule
  let (marked, breach) ← Action.ofExcept .grid (grid.allocateBlock x y columns rows area)
  Action.setTargetGrid marked
  Action.log (grid.breachNotices x y columns rows area breach)

/-- Places a box at a cell of an area's active frame, and marks a block of cells from there on if they are
to be kept free. The cell may be outside the frame, as far away as a word of sixty-four bits can tell. -/
def placeAtCell (rule : Rule) (area : String) (allocate : Bool) (x y : Int) (columns rows : Nat)
    (box : ContentBox Float) : Action Unit := do
  let grid ← Action.targetGrid rule
  let left ← Action.ofExcept .grid (grid.posX x area)
  let top ← Action.ofExcept .grid (grid.posY y area)
  if allocate then markBlock rule area x y columns rows
  placeBox left top box

/-- Places a box at a cell, given or found in the flow of an area. The number of cells is that on the grid
of the moment, before a new page may be opened. -/
def placeInCells (rule : Rule) (focus : Focus) (area : String) (allocate : Bool)
    (column row : Option Int) (box : ContentBox Float) : Action Unit := do
  let grid ← Action.targetGrid rule
  let (columns, rows) := cellsOf grid box
  let (x, y) ← cellFor rule focus area column row columns rows
  placeAtCell rule area allocate x y columns rows box

/-- Places a box at a position in points, which has both coordinates, or else in cells. -/
def placeByCoordinates (rule : Rule) (focus : Focus) (area : String) (allocate : Bool)
    (column row : Option Int) (box : ContentBox Float) : Option Float → Option Float → Action Unit
  | some x, some y => placeBox x y box
  | none, none => placeInCells rule focus area allocate column row box
  | _, _ => Action.refuse rule .halfPosition

/-- Places one object: a group, or the box that the rules below make. -/
def placeObject (children : Children) (rule : Rule) (focus : Focus) : Action Items := do
  let area ← Attributes.textOr rule "area" focus pageArea
  let allocate ← Attributes.flag rule "allocate" focus true
  let column ← Attributes.position? rule "column" focus
  let row ← Attributes.position? rule "row" focus
  let x ← Attributes.length? rule "x" focus
  let y ← Attributes.length? rule "y" focus
  let box ← match ← Attributes.text? rule "groupname" focus with
    | some name => groupBox rule name
    | none => singleBox rule (← children rule focus)
  Action.ensureTarget focus
  placeByCoordinates rule focus area allocate column row box x y
  return []

/-! ### Rows -/

/-- Moves the flow of an area to a fresh row, to its next frame if there is none, and to the next page if
there is no next frame. -/
def nextRow (_ : Children) (rule : Rule) (focus : Focus) : Action Items := do
  let area ← Attributes.textOr rule "area" focus pageArea
  let rows := (← Attributes.cells? rule "rows" focus).getD 1
  Action.ensureTarget focus
  let grid ← Action.targetGrid rule
  let (grid, moved) ← Action.ofExcept .grid (grid.nextRow area rows)
  let (grid, moved) ←
    if moved then pure (grid, true) else Action.ofExcept .grid (grid.advanceFrame area)
  Action.setTargetGrid grid
  if !moved && !(← Action.layout).inGroup then Action.finishPage
  return []

end PageGrid.Command
