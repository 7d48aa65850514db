import Mathlib.Logic.Basic
import PageGrid.Proofs.Grid.Flow

/-!
# Free cells and marks

Places of the flow are relative to a frame, and marks are on cells of the grid. The search and the
marking both pass from the first to the second by the corner of the frame. Here the two are compared
on the cells of the grid: a block that the search gives covers free cells of its frame only, and
allocating a block marks exactly the cells of the grid that it covers, each once more.

The search looks at the cells up to the column and the row behind the block. Where one of these is too great
for a word, it looks at none; that can be only in a frame whose width or height is the limit itself.

## Main definitions

* `SumsFit` — the column and the row behind a block are counts;
* `Frame.Covers` — a block of cells at a place of a frame covers a cell of the grid;
* `Frame.Contains`, `Grid.HasCell` — the cells of a frame and of a grid;
* `FrameSpec.Holds` — a block ends inside a frame.

## Main results

* `Found.free` — the search gives free cells inside the frame and the grid;
* `count_allocateBlock` — the marks after a block has been allocated.
-/

namespace PageGrid

variable {α : Type}

/-- The block of columns and rows at a place of the frame covers the cell of the grid. -/
def Frame.Covers (f : Frame) (x y : Int) (columns rows column row : Nat) : Prop :=
  f.absoluteColumn x ≤ column ∧ (column : Int) < f.absoluteColumn x + columns ∧
    f.absoluteRow y ≤ row ∧ (row : Int) < f.absoluteRow y + rows

/-- The cell of the grid is a cell of the frame. -/
def Frame.Contains (f : Frame) (column row : Nat) : Prop :=
  f.column ≤ column ∧ column < f.column + f.width ∧ f.row ≤ row ∧ row < f.row + f.height

/-- The grid has a cell in the column and row. -/
def Grid.HasCell (g : Grid α) (column row : Nat) : Prop :=
  1 ≤ column ∧ column ≤ g.columns ∧ 1 ≤ row ∧ row ≤ g.rows

/-- A block of columns and rows at a place of the frame ends inside the frame. -/
structure FrameSpec.Holds (f : FrameSpec) (column columns row rows : Nat) : Prop where
  one_le : 1 ≤ column
  width : column + columns ≤ f.width + 1
  height : rows ≤ f.height
  bottom : row + rows ≤ f.height + 1

/-- The column and the row behind a block are counts, so that no sum of the search that looks at its cells
passes the limit of a word. A block has at least one column and one row. -/
structure SumsFit (place : Nat × Nat) (columns rows : Nat) : Prop where
  column : place.1 + max columns 1 ≤ countLimit
  row : place.2 + max rows 1 ≤ countLimit

instance (f : Frame) (x y : Int) (columns rows column row : Nat) :
    Decidable (f.Covers x y columns rows column row) :=
  inferInstanceAs (Decidable (_ ∧ _))

instance (g : Grid α) (column row : Nat) : Decidable (g.HasCell column row) :=
  inferInstanceAs (Decidable (_ ∧ _))

namespace Grid

variable {g g' : Grid α} {f : Frame} {name : String} {columns rows column row : Nat}

/-! ### The search for a row -/

theorem cellIsFree_natCast {c r : Nat} :
    g.cellIsFree c r = true ↔ g.HasCell c r ∧ g.occupancy.count c r = 0 := by
  simp only [cellIsFree, HasCell, Bool.and_eq_true, decide_eq_true_eq, Int.toNat_natCast,
    Occupancy.isFree_iff_count_eq_zero]
  omega

theorem wordRange_of_le {first count : Nat} (h : first + count ≤ countLimit) :
    wordRange first count = List.range' first count := by
  rw [wordRange, wordSum_of_le h, Nat.add_sub_cancel_left]

theorem mem_wordRange {first count n : Nat} :
    n ∈ wordRange first count ↔ first ≤ n ∧ n < wordSum first count := by
  rw [wordRange, List.mem_range'_1]
  omega

theorem rowIsFree_eq_true {count : Nat} :
    g.rowIsFree f column count row = true ↔
      1 ≤ column ∧ 1 ≤ row ∧ row ≤ f.height ∧ column + max count 1 - 1 ≤ f.width ∧
        ∀ c, column ≤ c → c < wordSum column count →
          g.cellIsFree (f.absoluteColumn c) (f.absoluteRow row) = true := by
  simp only [rowIsFree, spansWithin, Bool.and_eq_true, decide_eq_true_eq, List.all_eq_true,
    mem_wordRange, and_imp, and_assoc]

theorem blockIsFree_eq_true :
    g.blockIsFree f column columns row rows = true ↔
      ∀ r, row ≤ r → r < wordSum row rows → g.rowIsFree f column columns r = true := by
  simp only [blockIsFree, List.all_eq_true, mem_wordRange, and_imp]

/-- A block of one row, which is not the last that a word can count. -/
theorem blockIsFree_one (h : row < countLimit) :
    g.blockIsFree f column columns row 1 = g.rowIsFree f column columns row := by
  rw [blockIsFree, wordRange_of_le h]
  exact Bool.and_true _

/-- What the search for a row has looked at: from the cursor on, the block ends inside the frame and is
free. -/
theorem blockIsFree_of_findRowIn (h : g.findRowIn f columns rows column = some row) :
    f.cursorRow ≤ row ∧ f.Holds column (max columns 1) row (max rows 1) ∧
      g.blockIsFree f column (max columns 1) row (max rows 1) = true := by
  rw [findRowIn] at h
  dsimp only at h
  split at h
  · next hb =>
    obtain ⟨hone, hspan, hheight⟩ := hb
    rw [spansWithin, decide_eq_true_eq] at hspan
    have hmem := List.mem_of_find?_eq_some h
    rw [List.mem_range'_1] at hmem
    have hfree := List.find?_some h
    exact ⟨hmem.1, ⟨hone, by omega, hheight, by omega⟩, hfree⟩
  · cases h

/-- In a frame whose width and height are below the limit, no sum passes it. -/
theorem sumsFit_of_findRowIn (hw : f.width < countLimit) (hh : f.height < countLimit)
    (h : g.findRowIn f columns rows column = some row) : SumsFit (column, row) columns rows := by
  obtain ⟨-, hholds, -⟩ := blockIsFree_of_findRowIn h
  exact ⟨Nat.le_trans hholds.width hw, Nat.le_trans hholds.bottom hh⟩

section Place

variable (h : g.findRowIn f columns rows column = some row) (hfit : SumsFit (column, row) columns rows)

include h hfit

/-- The cells that the search has looked at are all those of the block. -/
theorem cellIsFree_of_findRowIn {c r : Nat} (hc : column ≤ c) (hc' : c < column + max columns 1)
    (hr : row ≤ r) (hr' : r < row + max rows 1) :
    g.cellIsFree (f.absoluteColumn c) (f.absoluteRow r) = true ∧ 1 ≤ r ∧ r ≤ f.height := by
  obtain ⟨-, -, hb⟩ := blockIsFree_of_findRowIn h
  have hrow := blockIsFree_eq_true.mp hb r hr (by rwa [wordSum_of_le hfit.row])
  obtain ⟨-, hone, hheight, -, hcells⟩ := rowIsFree_eq_true.mp hrow
  exact ⟨hcells c hc (by rwa [wordSum_of_le hfit.column]), hone, hheight⟩

/-- A place that the search gives is inside the grid, also for an object without columns or rows. -/
theorem one_le_of_findRowIn : 1 ≤ f.absoluteColumn column ∧ 1 ≤ f.absoluteRow row := by
  obtain ⟨hcell, -⟩ := cellIsFree_of_findRowIn h hfit (c := column) (r := row) (Nat.le_refl _)
    (by omega) (Nat.le_refl _) (by omega)
  simp only [cellIsFree, Bool.and_eq_true, decide_eq_true_eq] at hcell
  exact ⟨hcell.1.1, hcell.1.2.1⟩

/-- **The search gives free cells.** Every cell of a block that the search for a row gives is inside
the frame and the grid, and is not marked. -/
theorem free_of_findRowIn {c r : Nat} (hc : f.Covers column row columns rows c r) :
    f.Contains c r ∧ g.HasCell c r ∧ g.occupancy.count c r = 0 := by
  obtain ⟨-, hholds, -⟩ := blockIsFree_of_findRowIn h
  obtain ⟨hone, hwidth, -, -⟩ := hholds
  obtain ⟨hl, hr, ht, hd⟩ := hc
  simp only [Frame.absoluteColumn, Frame.absoluteRow] at hl hr ht hd
  have hfirst := (cellIsFree_of_findRowIn h hfit (c := column) (r := row) (Nat.le_refl _) (by omega)
    (Nat.le_refl _) (by omega)).2.1
  -- the cell's row and column, relative to the frame
  obtain ⟨r', hr'⟩ : ∃ r' : Nat, (r : Int) = f.row + r' - 1 := ⟨r + 1 - f.row, by omega⟩
  obtain ⟨c', hc'⟩ : ∃ c' : Nat, (c : Int) = f.column + c' - 1 := ⟨c + 1 - f.column, by omega⟩
  obtain ⟨hcell, hrow⟩ := cellIsFree_of_findRowIn h hfit (c := c') (r := r') (by omega) (by omega)
    (by omega) (by omega)
  simp only [Frame.absoluteColumn, Frame.absoluteRow, ← hr', ← hc'] at hcell
  refine ⟨?_, cellIsFree_natCast.mp hcell⟩
  rw [Frame.Contains]
  omega

end Place

/-- The same for a place of the flow. -/
theorem Found.free {p : Nat × Nat} (h : g.Found columns rows name p) (hfit : SumsFit p columns rows) :
    ∃ f, g.frame name = .ok f ∧ (1 ≤ f.absoluteColumn p.1 ∧ 1 ≤ f.absoluteRow p.2) ∧
      ∀ c r, f.Covers p.1 p.2 columns rows c r →
        f.Contains c r ∧ g.HasCell c r ∧ g.occupancy.count c r = 0 := by
  obtain ⟨f, hf, hrow⟩ := h
  exact ⟨f, hf, one_le_of_findRowIn hrow hfit, fun _ _ hc => free_of_findRowIn hrow hfit hc⟩

/-! ### Marking -/

variable {x y : Int} {breach : Breach}

/-- What `allocateBlock` does: it marks the part of the block inside the grid and moves the cursor
of the active frame. -/
theorem allocateBlock_eq_ok (h : g.allocateBlock x y columns rows name = .ok (g', breach)) :
    ∃ f f', g.frame name = .ok f ∧ f'.toFrameSpec = f.toFrameSpec ∧
      g' = { g with
        occupancy :=
          match g.clip? (f.absoluteColumn x) (f.absoluteRow y) columns rows with
          | some block => g.occupancy.mark block
          | none => g.occupancy }.updateFrame name fun _ => f' := by
  rw [allocateBlock] at h
  cases hf : g.frame name with
  | error e => simp [hf, Except.map] at h
  | ok f =>
    simp only [hf, Except.map, Except.ok.injEq, Prod.mk.injEq] at h
    refine ⟨f, _, rfl, ?_, h.1.symm⟩
    split <;> rfl

/-- The clipped block covers the cells of the grid that the block covers. -/
theorem count_clip (c r : Nat) :
    (match g.clip? (f.absoluteColumn x) (f.absoluteRow y) columns rows with
      | some block => g.occupancy.mark block
      | none => g.occupancy).count c r =
      g.occupancy.count c r + if g.HasCell c r ∧ f.Covers x y columns rows c r then 1 else 0 := by
  unfold clip? HasCell Frame.Covers
  dsimp only
  split
  · next block hb =>
    split at hb
    · cases hb
      rw [Occupancy.count_mark]
      congr 1
      simp only [Block.covers, decide_eq_true_eq]
      exact if_congr (by omega) rfl rfl
    · cases hb
  · next hb =>
    split at hb
    · cases hb
    · rw [if_neg (by omega), Nat.add_zero]

/-- **Marks after an allocation.** Every cell of the grid that the block covers is marked once more,
and no other cell is. -/
theorem count_allocateBlock (h : g.allocateBlock x y columns rows name = .ok (g', breach))
    (hf : g.frame name = .ok f) (c r : Nat) :
    g'.occupancy.count c r =
      g.occupancy.count c r + if g.HasCell c r ∧ f.Covers x y columns rows c r then 1 else 0 := by
  obtain ⟨f₁, f', hf₁, -, rfl⟩ := allocateBlock_eq_ok h
  obtain rfl : f₁ = f := Except.ok.inj (hf₁.symm.trans hf)
  exact count_clip c r

end Grid

end PageGrid
