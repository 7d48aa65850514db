import PageGrid.Grid.Allocation

/-!
# Flow

Objects without a position of their own follow the flow of an area. An object is tried at the cursor,
then at the start of a later row, then in the next frame. What is decided when no frame of the grid has
room is not a matter of the grid.

## Main definitions

* `Grid.flowFrom`, `Grid.flowInFrame` — the search in the active frame;
* `Grid.flow` — the search in the active frame and the frames after it.
-/

namespace PageGrid.Grid

variable {α : Type}

/-- Whether an object at a column would pass the last column of a frame. -/
def passesFrame (column columns frameWidth : Nat) : Bool :=
  decide (frameWidth < column + columns - 1)

/-- Where an object goes in the active frame of an area if its first row is searched for at a column. If
there is no room from that column on, the cursor moves to a fresh row and the search begins again at the
first column. -/
def flowFrom (g : Grid α) (columns rows column : Nat) (name : String) :
    Except (GridError α) (Grid α × Option (Nat × Nat)) := do
  match ← g.findRow columns rows column name with
  | some row => return (g, some (column, row))
  | none =>
    if column ≤ 1 then return (g, none)
    else
      let (g, moved) ← g.nextRow name 1
      if moved then return (g, (← g.findRow columns rows 1 name).map fun row => (1, row))
      else return (g, none)

/-- Where an object of some columns and rows goes in the active frame of an area. The cursor moves to a
fresh row if the object would pass the last column. -/
def flowInFrame (g : Grid α) (columns rows : Nat) (name : String) :
    Except (GridError α) (Grid α × Option (Nat × Nat)) := do
  let f ← g.frame name
  if 1 < f.cursorColumn && passesFrame f.cursorColumn columns f.width then
    let (g, _) ← g.nextRow name 1
    g.flowFrom columns rows 1 name
  else g.flowFrom columns rows f.cursorColumn name

/-- `flow` through at most `fuel` frames after the active one. -/
def flowThrough (columns rows : Nat) (name : String) :
    Nat → Grid α → Except (GridError α) (Grid α × Option (Nat × Nat))
  | 0, g => g.flowInFrame columns rows name
  | fuel + 1, g => do
    let (g, place) ← g.flowInFrame columns rows name
    match place with
    | some p => return (g, some p)
    | none =>
      let (g, advanced) ← g.advanceFrame name
      if advanced then flowThrough columns rows name fuel g else return (g, none)

/-- Where an object goes in the flow of an area, and the grid with the flow moved there; the place is
relative to the frame that is then active. -/
def flow (g : Grid α) (columns rows : Nat) (name : String) :
    Except (GridError α) (Grid α × Option (Nat × Nat)) := do
  let a ← g.area name
  flowThrough columns rows name a.later.length g

end PageGrid.Grid
