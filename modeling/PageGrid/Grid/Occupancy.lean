/-!
# Occupancy of cells

Cells are marked in rectangular blocks, and a cell may be marked more than once: its occupancy is the
number of blocks that cover it. The number is not limited; it is that of a counter of thirty-two bits as
long as fewer than 2^32 blocks have been marked (`count_le_length`). Marks are never taken back. Keeping
the blocks rather than a table of cells makes marking cheap for blocks of any size, and makes the effect
of a mark on every cell of the grid evident: `count_mark`.
-/

namespace PageGrid

/-- A rectangle of cells, given by its first and last column and its first and last row. It is empty
if a last one is before the first. -/
structure Block where
  left : Nat
  top : Nat
  right : Nat
  bottom : Nat
  deriving DecidableEq, Repr

namespace Block

/-- Whether the block covers the cell. -/
def covers (b : Block) (column row : Nat) : Bool :=
  decide (b.left ≤ column ∧ column ≤ b.right ∧ b.top ≤ row ∧ row ≤ b.bottom)

/-- The cells of the block, row by row. -/
def cells (b : Block) : List (Nat × Nat) :=
  (List.range' b.top (b.bottom + 1 - b.top)).flatMap fun row =>
    (List.range' b.left (b.right + 1 - b.left)).map fun column => (column, row)

end Block

/-- The blocks that have been marked, the latest first. -/
structure Occupancy where
  blocks : List Block
  deriving DecidableEq, Repr

namespace Occupancy

/-- No cell is marked. -/
def empty : Occupancy := ⟨[]⟩

/-- Marks every cell of the block once more. -/
def mark (o : Occupancy) (b : Block) : Occupancy := ⟨b :: o.blocks⟩

/-- How often the cell has been marked; a free cell has not been marked. -/
def count (o : Occupancy) (column row : Nat) : Nat :=
  o.blocks.countP (·.covers column row)

/-- Whether the cell has not been marked. -/
def isFree (o : Occupancy) (column row : Nat) : Bool :=
  !o.blocks.any (·.covers column row)

/-- The cells of the block that no block of the list covers. -/
def uncovered (b : Block) (blocks : List Block) : List (Nat × Nat) :=
  b.cells.filter fun (column, row) => !blocks.any (·.covers column row)

/-- The number of cells that some block of the list covers. -/
def coveredCells : List Block → Nat
  | [] => 0
  | b :: bs => (uncovered b bs).length + coveredCells bs

/-- The number of marked cells. -/
def markedCells (o : Occupancy) : Nat := coveredCells o.blocks

/-- The occupancy of the first columns and rows as a picture: one digit per cell, where nine stands for
nine and more. -/
def picture (o : Occupancy) (columns rows : Nat) : List String :=
  (List.range' 1 rows).map fun row =>
    String.ofList ((List.range' 1 columns).map fun column =>
      Nat.digitChar (min (o.count column row) 9))

@[simp]
theorem count_empty (column row : Nat) : empty.count column row = 0 := rfl

theorem count_mark (o : Occupancy) (b : Block) (column row : Nat) :
    (o.mark b).count column row = o.count column row + if b.covers column row then 1 else 0 := by
  simp [mark, count, List.countP_cons]

/-- A cell is marked at most as often as there are blocks. -/
theorem count_le_length (o : Occupancy) (column row : Nat) : o.count column row ≤ o.blocks.length :=
  List.countP_le_length

theorem isFree_iff_count_eq_zero (o : Occupancy) (column row : Nat) :
    o.isFree column row = true ↔ o.count column row = 0 := by
  simp [isFree, count, List.countP_eq_zero]

end Occupancy

end PageGrid
