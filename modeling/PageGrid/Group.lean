import PageGrid.Content
import PageGrid.Grid.Basic

/-!
# Groups

A group is laid out away from the page, on a grid of its own, and is placed later as one box. Its size
is known once it is finished: from the origin of its grid to the farthest right and bottom edges of
its items, and at least zero.
-/

namespace PageGrid

/-- Content laid out on a private grid. -/
structure Group (α : Type) where
  name : String
  grid : Grid α
  /-- The placed items in the order of placement. -/
  items : List (PlacedItem α)
  /-- The size, once the group is finished. -/
  measured : Option (Size α)

namespace Group

variable {α : Type}

/-- A group without content. -/
def start (name : String) (grid : Grid α) : Group α := { name, grid, items := [], measured := none }

/-- The group with one more item. -/
def place (g : Group α) (item : PlacedItem α) : Group α := { g with items := g.items ++ [item] }

variable [Scalar α]

/-- The size of the content, measured from the origin. -/
def contentSize (items : List (PlacedItem α)) : Size α :=
  match extent items with
  | some r => ⟨Scalar.larger r.right 0, Scalar.larger r.bottom 0⟩
  | none => .zero

/-- The group with its size measured. -/
def finish (g : Group α) : Group α := { g with measured := some (contentSize g.items) }

/-- The measured width in cells. -/
def widthInCells (g : Group α) : Option Nat :=
  g.measured.map fun size => g.grid.horizontal.cellsFor size.width

/-- The measured height in cells. -/
def heightInCells (g : Group α) : Option Nat :=
  g.measured.map fun size => g.grid.vertical.cellsFor size.height

/-- The group as one box, once it is measured. -/
def box? (g : Group α) : Option (ContentBox α) :=
  g.measured.map fun size => .group size g.name g.items

end Group

end PageGrid
