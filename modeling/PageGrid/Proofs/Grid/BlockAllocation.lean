import Mathlib.Data.List.Nodup
import Mathlib.Data.List.ProdSigma
import Mathlib.Logic.Function.Basic
import PageGrid.Proofs.Grid.Reachable

/-!
# Allocating a block cell by cell

A block is allocated by clipping it to the grid and marking the rest at once, so that blocks of any size
cost the same. The plain way is to go through the cells of the block, to leave out those that are not on
the grid, and to count the others in a table. The two ways agree on every cell, also if the table has one
word for a cell, with the row in the high half and the column in the low half of the word. Counts of rows
and columns fit into half a word, so different cells of a grid have different words.

## Main definitions

* `Frame.blockCells` — the cells of a block;
* `Grid.tally` — the plain way;
* `Grid.Allocated` — what allocating a block does;
* `Frame.PositionFits` — the positions whose sums are those of the machine.

## Main results

* `Tabled.tally` — the two ways agree;
* `breach_eq_true` — which edges a block passes;
* `Frame.PositionFits.sums` — within words every sum is exact;
* `allocateBlock_plain` — what allocating a block does, for the grids that operations lead to.
-/

namespace PageGrid

variable {α : Type} {f : Frame} {x y : Int} {columns rows column row : Nat}

/-! ### The cells of a block -/

/-- The cells of a block at a place of the frame, row by row. They need not be cells of a grid. -/
def Frame.blockCells (f : Frame) (x y : Int) (columns rows : Nat) : List (Int × Int) :=
  (List.range rows ×ˢ List.range columns).map fun (j, i) =>
    (f.absoluteColumn (x + i), f.absoluteRow (y + j))

theorem Frame.mem_blockCells {p : Int × Int} :
    p ∈ f.blockCells x y columns rows ↔
      f.absoluteColumn x ≤ p.1 ∧ p.1 < f.absoluteColumn x + columns ∧
        f.absoluteRow y ≤ p.2 ∧ p.2 < f.absoluteRow y + rows := by
  obtain ⟨c, r⟩ := p
  simp only [blockCells, List.mem_map, List.mem_product, List.mem_range, Prod.exists, Prod.mk.injEq,
    absoluteColumn, absoluteRow]
  constructor
  · rintro ⟨j, i, ⟨hj, hi⟩, rfl, rfl⟩
    omega
  · rintro ⟨hl, hr, ht, hd⟩
    exact ⟨(r - (f.row + y - 1)).toNat, (c - (f.column + x - 1)).toNat, by omega⟩

theorem Frame.mem_blockCells_iff_covers :
    ((column : Int), (row : Int)) ∈ f.blockCells x y columns rows ↔
      f.Covers x y columns rows column row :=
  mem_blockCells

/-- No cell of a block comes twice. -/
theorem Frame.nodup_blockCells (f : Frame) (x y : Int) (columns rows : Nat) :
    (f.blockCells x y columns rows).Nodup := by
  refine List.Nodup.map ?_ (List.nodup_range.product List.nodup_range)
  rintro ⟨j, i⟩ ⟨j', i'⟩ h
  simp only [absoluteColumn, absoluteRow, Prod.mk.injEq] at h
  simp only [Prod.mk.injEq]
  omega

/-! ### Positions in words -/

/-- The first number that is too great for a word of sixty-four bits with a sign. -/
def signedBound : Int := 9223372036854775808

/-- The word of sixty-four bits with a sign that a sum becomes. -/
def signedWord (n : Int) : Int := (n + signedBound) % (2 * signedBound) - signedBound

theorem signedWord_of_lt {n : Int} (h : -signedBound ≤ n) (h' : n < signedBound) : signedWord n = n := by
  rw [signedWord]
  simp only [signedBound] at h h' ⊢
  omega

theorem signedWord_sub_one {n : Int} (h : -signedBound < n) (h' : n < signedBound) :
    signedWord (signedWord n - 1) = n - 1 := by
  rw [signedWord_of_lt (by omega) h', signedWord_of_lt (by omega) (by omega)]

/-- The position is a word other than the least one, and the block from there on ends within words, on the
grid as in its frame. -/
structure Frame.PositionFits (f : Frame) (x y : Int) (columns rows : Nat) : Prop where
  left : -signedBound < x
  top : -signedBound < y
  right : f.column + x + columns < signedBound
  bottom : f.row + y + rows < signedBound

/-- **Within words every sum is exact**: the corners of the block on the grid, and the column and the row
behind it in its frame. -/
theorem Frame.PositionFits.sums (h : f.PositionFits x y columns rows) (hc : 1 ≤ f.column) (hr : 1 ≤ f.row) :
    (signedWord (signedWord (f.column + x) - 1) = f.absoluteColumn x ∧
      signedWord (signedWord (f.absoluteColumn x + columns) - 1) = f.absoluteColumn x + columns - 1 ∧
      signedWord (x + columns) = x + columns) ∧
    signedWord (signedWord (f.row + y) - 1) = f.absoluteRow y ∧
      signedWord (signedWord (f.absoluteRow y + rows) - 1) = f.absoluteRow y + rows - 1 ∧
      signedWord (y + rows) = y + rows := by
  obtain ⟨hleft, htop, hright, hbottom⟩ := h
  simp only [absoluteColumn, absoluteRow]
  exact ⟨⟨signedWord_sub_one (by omega) (by omega), signedWord_sub_one (by omega) (by omega),
      signedWord_of_lt (by omega) (by omega)⟩,
    signedWord_sub_one (by omega) (by omega), signedWord_sub_one (by omega) (by omega),
    signedWord_of_lt (by omega) (by omega)⟩

namespace Grid

variable {g g' : Grid α} {name : String} {breach : Breach}

/-! ### A table of cells -/

/-- The word that a cell is addressed by. -/
def cellKey (column row : Nat) : Nat := row * (countLimit + 1) + column

theorem cellKey_inj {column' row' : Nat} (hc : column ≤ countLimit) (hc' : column' ≤ countLimit) :
    cellKey column row = cellKey column' row' ↔ column = column' ∧ row = row' := by
  rw [countLimit_eq] at hc hc'
  rw [cellKey, cellKey, countLimit_eq]
  omega

/-- The table has the marks of the cells. -/
def Tabled (table : Nat → Nat) (o : Occupancy) : Prop :=
  ∀ column row, column ≤ countLimit → row ≤ countLimit →
    table (cellKey column row) = o.count column row

/-- Counts the cells that are on the grid in a table, one after the other. -/
def tally (g : Grid α) (cells : List (Int × Int)) (table : Nat → Nat) : Nat → Nat :=
  cells.foldl (fun t (c, r) =>
    if 1 ≤ c ∧ c ≤ g.columns ∧ 1 ≤ r ∧ r ≤ g.rows then
      Function.update t (cellKey c.toNat r.toNat) (t (cellKey c.toNat r.toNat) + 1)
    else t) table

/-- One more cell counts where it is, if it is on the grid. -/
theorem tally_cons (hg : g.columns ≤ countLimit) (hc : column ≤ countLimit) (p : Int × Int)
    (cells : List (Int × Int)) (table : Nat → Nat) :
    ∃ t, g.tally (p :: cells) table = g.tally cells t ∧
      t (cellKey column row) = table (cellKey column row) +
        if g.HasCell column row ∧ p = (↑column, ↑row) then 1 else 0 := by
  refine ⟨_, List.foldl_cons .., ?_⟩
  obtain ⟨c, r⟩ := p
  dsimp only
  split
  · next hin =>
    obtain ⟨c, rfl⟩ := Int.eq_ofNat_of_zero_le (show 0 ≤ c by omega)
    obtain ⟨r, rfl⟩ := Int.eq_ofNat_of_zero_le (show 0 ≤ r by omega)
    have hkey : cellKey column row = cellKey c r ↔ column = c ∧ row = r :=
      cellKey_inj hc (by omega)
    rw [Int.toNat_natCast, Int.toNat_natCast, Function.update_apply]
    by_cases heq : column = c ∧ row = r
    · have hcell : g.HasCell c r := by
        rw [HasCell]
        omega
      obtain ⟨rfl, rfl⟩ := heq
      rw [if_pos rfl, if_pos ⟨hcell, rfl⟩]
    · rw [if_neg (mt hkey.mp heq), if_neg, Nat.add_zero]
      rintro ⟨-, h⟩
      rw [Prod.mk.injEq] at h
      omega
  · next hout =>
    rw [if_neg, Nat.add_zero]
    rintro ⟨hcell, h⟩
    rw [HasCell] at hcell
    rw [Prod.mk.injEq] at h
    omega

theorem tally_cellKey (hg : g.columns ≤ countLimit) (hc : column ≤ countLimit) (cells : List (Int × Int))
    (table : Nat → Nat) :
    g.tally cells table (cellKey column row) =
      table (cellKey column row) + if g.HasCell column row then cells.count (↑column, ↑row) else 0 := by
  induction cells generalizing table with
  | nil => simp [tally]
  | cons p cells ih =>
    obtain ⟨t, htally, ht⟩ := tally_cons hg hc p cells table
    rw [htally, ih, ht, List.count_cons]
    by_cases hcell : g.HasCell column row
    · simp only [hcell, true_and, if_true, beq_iff_eq]
      omega
    · simp [hcell]

/-! ### What allocating does -/

/-- The marks of all cells after a block has been allocated. -/
theorem count_eq_of_allocateBlock (h : g.allocateBlock x y columns rows name = .ok (g', breach))
    (hf : g.frame name = .ok f) (column row : Nat) :
    g'.occupancy.count column row = g.occupancy.count column row +
      if g.HasCell column row ∧ (↑column, ↑row) ∈ f.blockCells x y columns rows then 1 else 0 := by
  rw [count_allocateBlock h hf]
  simp only [Frame.mem_blockCells_iff_covers]

/-- **The two ways agree.** -/
theorem Tabled.tally {table : Nat → Nat} (ht : Tabled table g.occupancy) (hg : g.columns ≤ countLimit)
    (h : g.allocateBlock x y columns rows name = .ok (g', breach)) (hf : g.frame name = .ok f) :
    Tabled (g.tally (f.blockCells x y columns rows) table) g'.occupancy := by
  intro column row hc hr
  rw [tally_cellKey hg hc, ht column row hc hr, count_eq_of_allocateBlock h hf,
    (f.nodup_blockCells x y columns rows).count]
  by_cases hcell : g.HasCell column row <;> simp [hcell]

/-- A block passes an edge if one of its cells is beyond it. -/
theorem breach_eq_true (g : Grid α) (f : Frame) (x y : Int) (columns rows : Nat) :
    let b := g.breach (f.absoluteColumn x) (f.absoluteRow y) columns rows
    let cells := f.blockCells x y columns rows
    (b.left = true ↔ ∃ p ∈ cells, p.1 < 1) ∧ (b.top = true ↔ ∃ p ∈ cells, p.2 < 1) ∧
      (b.right = true ↔ ∃ p ∈ cells, (g.columns : Int) < p.1) ∧
      (b.bottom = true ↔ ∃ p ∈ cells, (g.rows : Int) < p.2) := by
  dsimp only
  rw [breach]
  split
  · next hempty =>
    have hnone : ∀ p, p ∉ f.blockCells x y columns rows := by
      intro p hp
      have hin := Frame.mem_blockCells.mp hp
      omega
    simp [Breach.none, hnone]
  · -- the corners are the cells that are the furthest to each side
    have hfirst : (f.absoluteColumn x, f.absoluteRow y) ∈ f.blockCells x y columns rows :=
      Frame.mem_blockCells.mpr (by dsimp only; omega)
    have hlast : (f.absoluteColumn x + columns - 1, f.absoluteRow y + rows - 1) ∈
        f.blockCells x y columns rows :=
      Frame.mem_blockCells.mpr (by dsimp only; omega)
    simp only [decide_eq_true_eq]
    refine ⟨⟨fun h => ⟨_, hfirst, h⟩, ?_⟩, ⟨fun h => ⟨_, hfirst, h⟩, ?_⟩, ⟨fun h => ⟨_, hlast, h⟩, ?_⟩,
      ⟨fun h => ⟨_, hlast, h⟩, ?_⟩⟩
    all_goals
      rintro ⟨p, hp, hbeyond⟩
      have hin := Frame.mem_blockCells.mp hp
      omega

/-- What allocating a block at a place of the active frame of an area does to the grid, and what is
reported. -/
structure Allocated (g : Grid α) (a : Area) (x y : Int) (columns rows : Nat) (g' : Grid α)
    (breach : Breach) : Prop where
  /-- Each cell of the grid that is one of the block is marked once more, and no other cell is. -/
  count : ∀ column row, g'.occupancy.count column row = g.occupancy.count column row +
    if g.HasCell column row ∧ (↑column, ↑row) ∈ a.active.blockCells x y columns rows then 1 else 0
  /-- Counting cell by cell comes to the same. -/
  tabled : ∀ table, Tabled table g.occupancy →
    Tabled (g.tally (a.active.blockCells x y columns rows) table) g'.occupancy
  left : breach.left = true ↔ ∃ p ∈ a.active.blockCells x y columns rows, p.1 < 1
  top : breach.top = true ↔ ∃ p ∈ a.active.blockCells x y columns rows, p.2 < 1
  right : breach.right = true ↔ ∃ p ∈ a.active.blockCells x y columns rows, (g.columns : Int) < p.1
  bottom : breach.bottom = true ↔ ∃ p ∈ a.active.blockCells x y columns rows, (g.rows : Int) < p.2
  /-- The cursor is behind the block, or at the start of the row below it, within the limits of cursors. No
  other frame changes. -/
  area : ∃ f : Frame, g'.area? a.name = some { a with active := f } ∧
    f.toFrameSpec = a.active.toFrameSpec ∧
    (f.cursorColumn : Int) =
      (if (a.active.width : Int) < x + columns then 1 else max 1 (min (x + columns) countLimit)) ∧
    (f.cursorRow : Int) =
      (if (a.active.width : Int) < x + columns then max 1 (min (y + rows) countLimit)
        else max 1 (min y countLimit))
  /-- No other area changes. -/
  others : ∀ n, n ≠ a.name → g'.area? n = g.area? n
  horizontal : g'.horizontal = g.horizontal
  vertical : g'.vertical = g.vertical
  margins : g'.margins = g.margins
  groupScoped : g'.groupScoped = g.groupScoped

theorem clampCursor_eq (n : Int) : (clampCursor n : Int) = max 1 (min n countLimit) := by
  have hlimit := one_le_countLimit
  rw [clampCursor]
  omega

/-- **Allocating a block.** There is always an answer, and it is that of the plain way. -/
theorem allocateBlock_plain {g : Grid Float} {name : String} {a : Area} (hg : g.Reachable)
    (ha : g.area? name = some a) (x y : Int) (columns rows : Nat) :
    ∃ g' breach, g.allocateBlock x y columns rows name = .ok (g', breach) ∧
      g.Allocated a x y columns rows g' breach := by
  have hf : g.frame name = .ok a.active := frame_eq_ok.mpr ⟨a, ha, rfl⟩
  obtain rfl := name_of_area? ha
  obtain ⟨g', hallocate⟩ : ∃ g', g.allocateBlock x y columns rows a.name =
      .ok (g', g.breach (a.active.absoluteColumn x) (a.active.absoluteRow y) columns rows) := by
    rw [allocateBlock, hf]
    exact ⟨_, rfl⟩
  obtain ⟨hleft, htop, hright, hbottom⟩ := g.breach_eq_true a.active x y columns rows
  obtain ⟨f, hf', hspec, hcursor⟩ := area?_allocateBlock ha hallocate
  obtain ⟨_, _, -, -, rfl⟩ := allocateBlock_eq_ok hallocate
  refine ⟨_, _, hallocate, count_eq_of_allocateBlock hallocate hf,
    fun table ht => ht.tally hg.bounded.columns.2 hallocate hf, hleft, htop, hright, hbottom, ⟨f, hf', hspec, ?_⟩,
    fun n hn => ?_, rfl, rfl, rfl, rfl⟩
  · obtain ⟨hpast, hcolumn, hrow⟩ | ⟨hpast, hcolumn, hrow⟩ := hcursor
    · rw [if_pos hpast, if_pos hpast, hcolumn, hrow, clampCursor_eq]
      exact ⟨rfl, rfl⟩
    · rw [if_neg (by omega), if_neg (by omega), hcolumn, hrow, clampCursor_eq, clampCursor_eq]
      exact ⟨rfl, rfl⟩
  · rw [area?_updateFrame, if_neg hn]
    rfl

/-- A block over the left and the lower edge of a page of ten columns and ten rows. Two of its columns and
two of its rows are on the page. -/
theorem allocateBlock_plain_edges :
    ∃ a g', tenByTen.area? pageArea = some a ∧
      tenByTen.allocateBlock (-1) 9 4 3 pageArea = .ok (g', ⟨true, false, false, true⟩) ∧
      g'.occupancy.picture 4 10 =
        ["0000", "0000", "0000", "0000", "0000", "0000", "0000", "0000", "1100", "1100"] ∧
      g'.cursor pageArea = .ok (3, 9) ∧
      tenByTen.Allocated a (-1) 9 4 3 g' ⟨true, false, false, true⟩ := by
  have ha : tenByTen.area? pageArea = some (.single pageArea ⟨1, 1, 10, 10⟩) := rfl
  obtain ⟨g', breach, hallocate, hall⟩ := allocateBlock_plain reachable_tenByTen ha (-1) 9 4 3
  cases hallocate
  exact ⟨_, _, ha, rfl, by decide +kernel, rfl, hall⟩

end Grid

end PageGrid
