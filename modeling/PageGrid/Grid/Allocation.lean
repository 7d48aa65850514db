import PageGrid.Grid.Basic
import PageGrid.Log

/-!
# Free rows and allocation

Content flows through an area row by row: `findRow` looks for the first row, from the cursor on, where
a block of cells is entirely free, `nextRow` moves the cursor to a fresh row, and `allocateBlock` marks
the cells of a block and moves the cursor past it. The cells of a block that lie outside the grid are
not marked; the report names the edges that the block passes.

## Words

Rows and columns are counts of thirty-two bits. The search goes from the first row or column of a block to
the one behind its last, which can be one too many for a word, and only in a frame with as many rows or
columns as a count can be. Then nothing is searched, and whatever is in the way is not seen.

A position that is given by the user is a word of sixty-four bits with a sign, and stands here for the whole
number that it is. The sums of `allocateBlock` and of the offset of a position on the page are those of the
machine as long as the block ends within such words (`Frame.PositionFits.sums`); beyond that, a build that
checks its sums stops.

## Main definitions

* `wordRange` — the numbers of a run of rows or columns;
* `Grid.rowIsFree` — whether a run of cells in a row of a frame is free;
* `Grid.findRow`, `Grid.nextRow`, `Grid.allocateBlock` — the operations above;
* `Breach` — the edges that a block passes.
-/

namespace PageGrid

/-- The edges of the grid that a block passes. -/
structure Breach where
  left : Bool
  top : Bool
  right : Bool
  bottom : Bool
  deriving DecidableEq, Repr

namespace Breach

/-- The names of the passed edges. -/
def edges (b : Breach) : List String :=
  [(b.left, "left"), (b.top, "top"), (b.right, "right"), (b.bottom, "bottom")].filterMap
    fun (passed, name) => if passed then some name else none

/-- Whether no edge is passed. -/
def isInside (b : Breach) : Bool := !(b.left || b.top || b.right || b.bottom)

/-- No edge is passed. -/
def none : Breach := ⟨false, false, false, false⟩

end Breach

namespace Grid

variable {α : Type}

/-- Whether the cell, given by its grid column and row, is inside the grid and not marked. -/
def cellIsFree (g : Grid α) (column row : Int) : Bool :=
  decide (1 ≤ column ∧ 1 ≤ row ∧ column ≤ g.columns ∧ row ≤ g.rows) &&
    g.occupancy.isFree column.toNat row.toNat

/-- The numbers from `first` up to the sum of `first` and `count`, which it excludes. There are `count` of
them, unless the sum passes the limit of a word: then there are none. -/
def wordRange (first count : Nat) : List Nat := List.range' first (wordSum first count - first)

/-- Whether `count` cells from `column` on in a row of the frame are inside the frame and free. -/
def rowIsFree (g : Grid α) (f : Frame) (column count row : Nat) : Bool :=
  decide (1 ≤ column ∧ 1 ≤ row ∧ row ≤ f.height) && spansWithin column count f.width &&
    (wordRange column count).all fun c => g.cellIsFree (f.absoluteColumn c) (f.absoluteRow row)

/-- `rowIsFree` for the active frame of an area. -/
def fitsInRow (g : Grid α) (column count row : Nat) (name : String) : Except (GridError α) Bool :=
  (g.rowIsFree · column count row) <$> g.frame name

/-- Whether a block of cells of the frame, from a column and a row on, is inside the frame and
free. -/
def blockIsFree (g : Grid α) (f : Frame) (column columns row rows : Nat) : Bool :=
  (wordRange row rows).all fun r => g.rowIsFree f column columns r

/-- The first row of a frame, from its cursor on, where a block from the given column on is free. A
block has at least one column and one row. -/
def findRowIn (g : Grid α) (f : Frame) (columns rows column : Nat) : Option Nat :=
  let columns := max columns 1
  let rows := max rows 1
  if 1 ≤ column ∧ spansWithin column columns f.width ∧ rows ≤ f.height then
    let last := f.height - rows + 1
    (List.range' f.cursorRow (last + 1 - f.cursorRow)).find? fun r =>
      g.blockIsFree f column columns r rows
  else none

/-- `findRowIn` for the active frame of an area. -/
def findRow (g : Grid α) (columns rows column : Nat) (name : String) :
    Except (GridError α) (Option Nat) :=
  (g.findRowIn · columns rows column) <$> g.frame name

/-- Moves the flow of an area to the start of the next row that is free over the whole width of the
active frame, after skipping `rows - 1` rows; a cursor in the first column counts its own row as
used. If there is no such row the answer is `false` and the cursor stays below the skipped rows. -/
def nextRow (g : Grid α) (name : String) (rows : Nat) : Except (GridError α) (Grid α × Bool) :=
  g.frame name |>.map fun f =>
    let rows := max rows 1
    let skipped := if f.cursorColumn = 1 then rows else rows - 1
    let moved := f.withCursor 1 (min (f.cursorRow + skipped) countLimit)
    match g.findRowIn moved f.width 1 1 with
    | some row => (g.updateFrame name fun _ => moved.withCursor 1 row, true)
    | none => (g.updateFrame name fun _ => moved, false)

/-- A cursor coordinate from an unbounded one. -/
def clampCursor (n : Int) : Nat := min (max n 1).toNat countLimit

/-- The edges of the grid that a block of cells passes. A block without cells passes none. -/
def breach (g : Grid α) (left top : Int) (columns rows : Nat) : Breach :=
  if columns = 0 ∨ rows = 0 then .none
  else
    { left := decide (left < 1)
      top := decide (top < 1)
      right := decide ((g.columns : Int) < left + columns - 1)
      bottom := decide ((g.rows : Int) < top + rows - 1) }

/-- The part of a block of cells that is inside the grid, if there is one. -/
def clip? (g : Grid α) (left top : Int) (columns rows : Nat) : Option Block :=
  let first := max left 1
  let last := min (left + columns - 1) g.columns
  let highest := max top 1
  let lowest := min (top + rows - 1) g.rows
  if first ≤ last ∧ highest ≤ lowest ∧ columns ≠ 0 ∧ rows ≠ 0 then
    some ⟨first.toNat, highest.toNat, last.toNat, lowest.toNat⟩
  else none

/-- Marks the cells of a block at a position of an area's active frame, and moves the cursor behind
it: to the start of the row below the block if the block reaches over the last column of the frame,
else to the column after it. -/
def allocateBlock (g : Grid α) (x y : Int) (columns rows : Nat) (name : String) :
    Except (GridError α) (Grid α × Breach) :=
  g.frame name |>.map fun f =>
    let left := f.absoluteColumn x
    let top := f.absoluteRow y
    let occupancy :=
      match g.clip? left top columns rows with
      | some block => g.occupancy.mark block
      | none => g.occupancy
    let moved :=
      if x + columns > f.width then f.withCursor 1 (clampCursor (y + rows))
      else f.withCursor (clampCursor (x + columns)) (clampCursor y)
    ({ g with occupancy }.updateFrame name fun _ => moved, g.breach left top columns rows)

/-- What is reported about a block that passes edges of the grid. A group has no page to pass. -/
def breachNotices (g : Grid α) (x y : Int) (columns rows : Nat) (name : String) (b : Breach) :
    List LogEntry :=
  if g.groupScoped then []
  else b.edges.map fun edge =>
    .warning (s!"Object at {x},{y} ({columns}x{rows} cells) in area '{name}' exceeds the " ++
      s!"{edge} margin.")

end Grid

end PageGrid
