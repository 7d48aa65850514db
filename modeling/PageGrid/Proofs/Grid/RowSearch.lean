import Mathlib.Order.Bounds.Basic
import PageGrid.Proofs.Grid.Reachable

/-!
# The search for a row

The search gives the least row from the cursor on where a block has room: all rows of the block are inside
the frame, and its cells are free there. A block has at least one column and one row. Going to the next row
gives the least row that is free over the whole width of the frame, below the rows that are skipped.

A search in machine words could go wrong where a sum passes the greatest word. `Grid.searchRow?` is the
search with every sum checked for this, and no check fails in a frame whose width and height are below the
limit. The limit itself is too much, since a run of rows or columns is given by its first one and the one
behind its last.

## Main definitions

* `Grid.roomyRows`, `Grid.freshRows` — the rows that are searched for;
* `Grid.searchRow?` — the search with checked sums.

## Main results

* `findRowIn_isLeast_roomyRows` — the search gives the least row with room;
* `searchRow?_eq_some` — no sum of the search passes the limit;
* `sumsFit_of_searchRow?` — where the checked search gives a place, none has passed it;
* `exists_nextRow_eq_ok` — where the cursor goes for the next row;
* `row_search_exact` — all of this for the grids that operations lead to.
-/

namespace PageGrid

namespace Grid

variable {α : Type} {g g' : Grid α} {f : Frame} {name : String} {columns rows column row : Nat}

/-! ### Rows with room -/

/-- The rows of the active frame of an area with room for a block from the given column on: the row is not
above the cursor, the block ends inside the frame, and its part in each of its rows is free. -/
def roomyRows (g : Grid α) (name : String) (f : Frame) (columns rows column : Nat) : Set Nat :=
  {r | f.cursorRow ≤ r ∧ r + max rows 1 - 1 ≤ f.height ∧
    ∀ k, r ≤ k → k ≤ r + max rows 1 - 1 → g.fitsInRow column (max columns 1) k name = .ok true}

/-- The rows of the active frame of an area that are free over its whole width, from the row on that is
behind the skipped ones. A cursor in the first column has used its row. -/
def freshRows (g : Grid α) (name : String) (f : Frame) (rows : Nat) : Set Nat :=
  {r | f.cursorRow + (max rows 1 - 1) + (if f.cursorColumn = 1 then 1 else 0) ≤ r ∧
    g.fitsInRow 1 f.width r name = .ok true}

theorem fitsInRow_eq_ok_true {count : Nat} (hf : g.frame name = .ok f) :
    g.fitsInRow column count row name = .ok true ↔ g.rowIsFree f column count row = true := by
  rw [fitsInRow, hf]
  change Except.ok _ = Except.ok _ ↔ _
  rw [Except.ok.injEq]

theorem mem_roomyRows (hf : g.frame name = .ok f) (hh : f.height < countLimit) :
    row ∈ g.roomyRows name f columns rows column ↔
      f.cursorRow ≤ row ∧ f.Holds column (max columns 1) row (max rows 1) ∧
        g.blockIsFree f column (max columns 1) row (max rows 1) = true := by
  rw [roomyRows, Set.mem_ofPred_eq, blockIsFree_eq_true]
  refine and_congr_right fun _ => ?_
  constructor
  · rintro ⟨hbottom, h⟩
    have hfree (k : Nat) (hle : row ≤ k) (hlt : k < row + max rows 1) :
        g.rowIsFree f column (max columns 1) k = true :=
      (fitsInRow_eq_ok_true hf).mp (h k hle (by omega))
    obtain ⟨hcolumn, hrow, -, hwidth, -⟩ := rowIsFree_eq_true.mp (hfree row (Nat.le_refl _) (by omega))
    exact ⟨⟨hcolumn, by omega, by omega, by omega⟩,
      fun k hle hlt => hfree k hle (Nat.lt_of_lt_of_le hlt (wordSum_le _ _))⟩
  · rintro ⟨⟨-, -, hheight, hbottom⟩, h⟩
    rw [wordSum_of_le (by omega)] at h
    exact ⟨by omega, fun k hle hlt => (fitsInRow_eq_ok_true hf).mpr (h k hle (by omega))⟩

/-- That the row to begin at is cut to the limit makes no difference, since no row of the frame is as
low. -/
theorem mem_freshRows (hf : g.frame name = .ok f) (hh : f.height < countLimit) :
    row ∈ g.freshRows name f rows ↔
      rowAfter f rows ≤ row ∧ f.Holds 1 f.width row 1 ∧ g.blockIsFree f 1 f.width row 1 = true := by
  have hcut (hrow : row ≤ f.height) :
      f.cursorRow + (max rows 1 - 1) + (if f.cursorColumn = 1 then 1 else 0) ≤ row ↔
        rowAfter f rows ≤ row := by
    rw [rowAfter]
    split <;> omega
  rw [freshRows, Set.mem_ofPred_eq, fitsInRow_eq_ok_true hf]
  constructor
  · rintro ⟨hle, hfree⟩
    obtain ⟨-, hone, hrow, -, -⟩ := rowIsFree_eq_true.mp hfree
    rw [blockIsFree_one (by omega)]
    exact ⟨(hcut hrow).mp hle, ⟨Nat.le_refl 1, by omega, by omega, by omega⟩, hfree⟩
  · rintro ⟨hle, ⟨-, -, -, hbottom⟩, hfree⟩
    rw [blockIsFree_one (by omega)] at hfree
    exact ⟨(hcut (Nat.le_of_succ_le_succ hbottom)).mpr hle, hfree⟩

/-- A block has at least one column and one row. -/
theorem findRowIn_max (g : Grid α) (f : Frame) (columns rows column : Nat) :
    g.findRowIn f (max columns 1) (max rows 1) column = g.findRowIn f columns rows column := by
  simp only [findRowIn, Nat.max_assoc, Nat.max_self]

/-- The search gives the least of the rows that it looks for, and nothing if there are none. -/
theorem findRowIn_isLeast {s : Set Nat} (hc : 1 ≤ columns) (hr : 1 ≤ rows)
    (hs : ∀ r, r ∈ s ↔
      f.cursorRow ≤ r ∧ f.Holds column columns r rows ∧ g.blockIsFree f column columns r rows = true) :
    (∀ row, g.findRowIn f columns rows column = some row ↔ IsLeast s row) ∧
      (g.findRowIn f columns rows column = none ↔ s = ∅) := by
  constructor
  · intro row
    rw [findRowIn_eq_some hc hr, IsLeast, mem_lowerBounds, hs, and_assoc, and_assoc]
    refine and_congr_right fun _ => and_congr_right fun hholds => and_congr_right fun _ => ?_
    constructor
    · intro h r hmem
      obtain ⟨hle, -, hfree⟩ := (hs r).mp hmem
      exact Nat.le_of_not_lt fun hlt => h r hle hlt hfree
    · intro h r hle hlt hfree
      obtain ⟨hone, hwidth, hheight, hbottom⟩ := hholds
      exact Nat.not_lt.mpr (h r ((hs r).mpr ⟨hle, ⟨hone, hwidth, hheight, by omega⟩, hfree⟩)) hlt
  · simp only [findRowIn_eq_none hc hr, Set.eq_empty_iff_forall_notMem, hs, not_and]

/-- **The search gives the least row with room.** -/
theorem findRowIn_isLeast_roomyRows (hf : g.frame name = .ok f) (hh : f.height < countLimit)
    (columns rows column : Nat) :
    (∀ row, g.findRowIn f columns rows column = some row ↔
        IsLeast (g.roomyRows name f columns rows column) row) ∧
      (g.findRowIn f columns rows column = none ↔ g.roomyRows name f columns rows column = ∅) := by
  rw [← findRowIn_max]
  exact findRowIn_isLeast (Nat.le_max_right _ _) (Nat.le_max_right _ _) fun r => mem_roomyRows hf hh

/-- **The search for a fresh row gives the least one.** -/
theorem findRowIn_isLeast_freshRows (hf : g.frame name = .ok f) (hw : 1 ≤ f.width)
    (hh : f.height < countLimit) (rows : Nat) :
    (∀ row, g.findRowIn (f.withCursor 1 (rowAfter f rows)) f.width 1 1 = some row ↔
        IsLeast (g.freshRows name f rows) row) ∧
      (g.findRowIn (f.withCursor 1 (rowAfter f rows)) f.width 1 1 = none ↔
        g.freshRows name f rows = ∅) := by
  refine findRowIn_isLeast hw (Nat.le_refl 1) fun r => ?_
  rw [mem_freshRows hf hh]
  exact Iff.rfl

/-! ### The next row -/

/-- **The next row.** There is always an answer. The cursor goes to the first column of the least fresh row,
or, if there is none, of a row that is not above its row before. -/
theorem exists_nextRow_eq_ok (hf : g.frame name = .ok f) (hw : 1 ≤ f.width) (hh : f.height < countLimit)
    (hrow : f.cursorRow ≤ countLimit) (rows : Nat) :
    ∃ moved row, g.nextRow name rows = .ok (g.updateFrame name (fun _ => f.withCursor 1 row), moved) ∧
      f.cursorRow ≤ row ∧ (moved = true → IsLeast (g.freshRows name f rows) row) ∧
      (moved = false ↔ g.freshRows name f rows = ∅) := by
  obtain ⟨⟨g', moved⟩, hnext⟩ := exists_nextRow hf rows
  obtain ⟨f', row, hf', rfl, hmoved⟩ := nextRow_eq_ok hnext
  obtain rfl := Except.ok.inj (hf.symm.trans hf')
  obtain ⟨hsome, hnone⟩ := findRowIn_isLeast_freshRows hf hw hh rows
  refine ⟨moved, row, hnext, ?_⟩
  obtain ⟨rfl, hfound⟩ | ⟨rfl, hfound, rfl⟩ := hmoved
  · have hleast := (hsome row).mp hfound
    have hle := hleast.1.1
    refine ⟨by omega, fun _ => hleast, nofun, fun hempty => ?_⟩
    exact absurd hleast.1 (hempty ▸ Set.notMem_empty row)
  · refine ⟨?_, nofun, fun _ => hnone.mp hfound, fun _ => rfl⟩
    rw [rowAfter]
    exact Nat.le_min.mpr ⟨Nat.le_add_right _ _, hrow⟩

/-! ### Checked sums -/

/-- The greatest word of sixty-four bits. -/
def longLimit : Nat := Nat.pow 2 64 - 1

/-- The greatest signed word of sixty-four bits. -/
def signedLimit : Nat := Nat.pow 2 63 - 1

/-- A sum, unless it passes the limit. -/
def sum? (limit a b : Nat) : Option Nat := if a + b ≤ limit then some (a + b) else none

/-- `spansWithin`, with words of sixty-four bits. -/
def spansWithin? (start cells limit : Nat) : Option Bool :=
  (sum? longLimit start (max cells 1)).map fun stop => decide (stop - 1 ≤ limit)

/-- `cellIsFree` for a cell of a frame, with signed words of sixty-four bits. -/
def cellIsFree? (g : Grid α) (f : Frame) (column row : Nat) : Option Bool := do
  let x ← sum? signedLimit f.column column
  let y ← sum? signedLimit f.row row
  return g.cellIsFree ((x : Int) - 1) ((y : Int) - 1)

/-- `rowIsFree`, with words of thirty-two bits for the columns. -/
def rowIsFree? (g : Grid α) (f : Frame) (column count row : Nat) : Option Bool := do
  if 1 ≤ column ∧ 1 ≤ row ∧ row ≤ f.height then
    if ← spansWithin? column count f.width then
      let stop ← sum? countLimit column count
      (List.range' column (stop - column)).allM fun c => g.cellIsFree? f c row
    else return false
  else return false

/-- `findRowIn`, with words of thirty-two bits for the rows. -/
def searchRow? (g : Grid α) (f : Frame) (columns rows column : Nat) : Option (Option Nat) := do
  let columns := max columns 1
  let rows := max rows 1
  if 1 ≤ column then
    if (← spansWithin? column columns f.width) && decide (rows ≤ f.height) then
      let last ← sum? countLimit (f.height - rows) 1
      (List.range' f.cursorRow (last + 1 - f.cursorRow)).findM? fun r => do
        let stop ← sum? countLimit r rows
        (List.range' r (stop - r)).allM fun k => g.rowIsFree? f column columns k
    else return none
  else return none

theorem sum?_eq_some {limit a b : Nat} (h : a + b ≤ limit) : sum? limit a b = some (a + b) :=
  if_pos h

/-- A test of all members that never fails. -/
theorem allM_eq_some {β : Type} {test : β → Option Bool} {p : β → Bool} {l : List β}
    (h : ∀ x ∈ l, test x = some (p x)) : l.allM test = some (l.all p) := by
  induction l with
  | nil => rfl
  | cons x l ih =>
    obtain ⟨hx, hl⟩ := List.forall_mem_cons.mp h
    rw [List.allM, hx, List.all_cons]
    cases p x with
    | true => simpa using ih hl
    | false => rfl

/-- A search with a test that never fails. -/
theorem findM?_eq_some {β : Type} {test : β → Option Bool} {p : β → Bool} {l : List β}
    (h : ∀ x ∈ l, test x = some (p x)) : l.findM? test = some (l.find? p) := by
  induction l with
  | nil => rfl
  | cons x l ih =>
    obtain ⟨hx, hl⟩ := List.forall_mem_cons.mp h
    rw [List.findM?, hx, List.find?_cons]
    cases p x with
    | true => rfl
    | false => simpa using ih hl

/-- Two counts make a word of sixty-four bits, also with a sign. -/
theorem add_le_limits {a b : Nat} (ha : a ≤ countLimit) (hb : b ≤ countLimit) :
    a + b ≤ longLimit ∧ a + b ≤ signedLimit := by
  have hlong : countLimit + countLimit ≤ longLimit := by decide
  have hsigned : countLimit + countLimit ≤ signedLimit := by decide
  omega

theorem spansWithin?_eq_some {start cells limit : Nat} (hs : start ≤ countLimit)
    (hc : max cells 1 ≤ countLimit) :
    spansWithin? start cells limit = some (spansWithin start cells limit) := by
  rw [spansWithin?, sum?_eq_some (add_le_limits hs hc).1]
  rfl

theorem cellIsFree?_eq_some (hf : f.column ≤ countLimit ∧ f.row ≤ countLimit)
    (hc : column ≤ countLimit) (hr : row ≤ countLimit) :
    g.cellIsFree? f column row = some (g.cellIsFree (f.absoluteColumn column) (f.absoluteRow row)) := by
  rw [cellIsFree?, sum?_eq_some (add_le_limits hf.1 hc).2, Option.bind_eq_bind, Option.bind_some,
    sum?_eq_some (add_le_limits hf.2 hr).2]
  rfl

theorem rowIsFree?_eq_some {count : Nat} (hf : f.column ≤ countLimit ∧ f.row ≤ countLimit)
    (hw : f.width < countLimit) (hh : f.height < countLimit) (hc : column ≤ countLimit)
    (hn : 1 ≤ count ∧ count ≤ countLimit) :
    g.rowIsFree? f column count row = some (g.rowIsFree f column count row) := by
  rw [rowIsFree?, rowIsFree]
  by_cases hin : 1 ≤ column ∧ 1 ≤ row ∧ row ≤ f.height
  · rw [if_pos hin, decide_eq_true hin, spansWithin?_eq_some hc (by omega)]
    by_cases hspan : spansWithin column count f.width = true
    · have hend : column + count ≤ f.width + 1 := by
        rw [spansWithin, decide_eq_true_eq] at hspan
        omega
      simp only [hspan, Option.bind_eq_bind, Option.bind_some, if_true, Bool.true_and]
      rw [sum?_eq_some (by omega), Option.bind_some, Nat.add_sub_cancel_left, wordRange_of_le (by omega)]
      refine allM_eq_some fun c hmem => ?_
      rw [List.mem_range'_1] at hmem
      exact cellIsFree?_eq_some hf (by omega) (by omega)
    · rw [Bool.eq_false_of_not_eq_true hspan]
      rfl
  · rw [if_neg hin, decide_eq_false hin]
    rfl

/-- **No sum of the search passes the limit** in a frame whose width and height are below it. -/
theorem searchRow?_eq_some (hf : f.column ≤ countLimit ∧ f.row ≤ countLimit)
    (hw : f.width < countLimit) (hh : f.height < countLimit) (hc : columns ≤ countLimit)
    (hcolumn : column ≤ countLimit) :
    g.searchRow? f columns rows column = some (g.findRowIn f columns rows column) := by
  have hcolumns : 1 ≤ max columns 1 ∧ max columns 1 ≤ countLimit :=
    ⟨Nat.le_max_right _ _, Nat.max_le.mpr ⟨hc, one_le_countLimit⟩⟩
  have hrows : 1 ≤ max rows 1 := Nat.le_max_right _ _
  rw [searchRow?, findRowIn]
  dsimp only
  by_cases hone : 1 ≤ column
  · rw [if_pos hone, spansWithin?_eq_some hcolumn (by omega), Option.bind_eq_bind, Option.bind_some]
    by_cases hguard : spansWithin column (max columns 1) f.width = true ∧ max rows 1 ≤ f.height
    · have htest : (spansWithin column (max columns 1) f.width && decide (max rows 1 ≤ f.height)) = true := by
        simpa using hguard
      rw [if_pos htest, if_pos ⟨hone, hguard⟩, sum?_eq_some (by omega), Option.bind_eq_bind,
        Option.bind_some]
      refine findM?_eq_some fun r hmem => ?_
      rw [List.mem_range'_1] at hmem
      rw [sum?_eq_some (by omega), Option.bind_eq_bind, Option.bind_some, Nat.add_sub_cancel_left,
        blockIsFree, wordRange_of_le (by omega)]
      exact allM_eq_some fun k _ => rowIsFree?_eq_some hf hw hh hcolumn hcolumns
    · have htest : ¬ (spansWithin column (max columns 1) f.width && decide (max rows 1 ≤ f.height)) = true := by
        simpa using hguard
      rw [if_neg htest, if_neg fun h => hguard h.2]
      rfl
  · rw [if_neg hone, if_neg fun h => hone h.1]
    rfl

theorem le_of_sum?_eq_some {limit a b n : Nat} (h : sum? limit a b = some n) : a + b ≤ limit ∧ n = a + b := by
  unfold sum? at h
  split at h
  · next hle => exact ⟨hle, (Option.some.inj h).symm⟩
  · cases h

/-- A test of all members that succeeds, succeeds for each of them. -/
theorem of_allM_eq_some_true {β : Type} {test : β → Option Bool} {l : List β} (h : l.allM test = some true)
    {x : β} (hx : x ∈ l) : test x = some true := by
  induction l with
  | nil => cases hx
  | cons y l ih =>
    rw [List.allM] at h
    obtain ⟨b, hb, h⟩ := Option.bind_eq_some_iff.mp h
    cases b with
    | false => cases h
    | true =>
      rcases List.mem_cons.mp hx with rfl | hx
      · exact hb
      · exact ih h hx

/-- What a search finds, passes the test. -/
theorem of_findM?_eq_some_some {β : Type} {test : β → Option Bool} {l : List β} {x : β}
    (h : l.findM? test = some (some x)) : test x = some true := by
  induction l with
  | nil => cases h
  | cons y l ih =>
    rw [List.findM?] at h
    obtain ⟨b, hb, h⟩ := Option.bind_eq_some_iff.mp h
    cases b with
    | false => exact ih h
    | true =>
      cases h
      exact hb

/-- **Where the checked search gives a place, no sum has passed the limit**, whatever the frame. -/
theorem sumsFit_of_searchRow? (h : g.searchRow? f columns rows column = some (some row)) :
    SumsFit (column, row) columns rows := by
  rw [searchRow?] at h
  split at h
  · obtain ⟨inside, -, h⟩ := Option.bind_eq_some_iff.mp h
    split at h
    · obtain ⟨last, -, h⟩ := Option.bind_eq_some_iff.mp h
      have hfound := of_findM?_eq_some_some h
      obtain ⟨stop, hstop, hrows⟩ := Option.bind_eq_some_iff.mp hfound
      obtain ⟨hrow, rfl⟩ := le_of_sum?_eq_some hstop
      -- the first row of the block has been looked at
      have hfirst : g.rowIsFree? f column (max columns 1) row = some true :=
        of_allM_eq_some_true hrows (List.mem_range'_1.mpr ⟨Nat.le_refl _, by omega⟩)
      rw [rowIsFree?] at hfirst
      split at hfirst
      · obtain ⟨inside, -, hfirst⟩ := Option.bind_eq_some_iff.mp hfirst
        cases inside with
        | false => cases hfirst
        | true =>
          obtain ⟨_, hcolumns, -⟩ := Option.bind_eq_some_iff.mp hfirst
          exact ⟨(le_of_sum?_eq_some hcolumns).1, hrow⟩
      · cases hfirst
    · cases h
  · cases h

/-! ### Reachable grids -/

/-- **Row search is exact.** -/
theorem row_search_exact {g : Grid Float} {name : String} {a : Area} (hg : g.Reachable)
    (ha : g.area? name = some a) (hw : a.active.width < countLimit)
    (hh : a.active.height < countLimit) :
    (∀ columns rows column, columns ≤ countLimit → column ≤ countLimit →
      ∃ found, g.findRow columns rows column name = .ok found ∧
        g.searchRow? a.active columns rows column = some found ∧
        (∀ row, found = some row ↔ IsLeast (g.roomyRows name a.active columns rows column) row) ∧
        (found = none ↔ g.roomyRows name a.active columns rows column = ∅)) ∧
    ∀ rows, ∃ moved row,
      g.nextRow name rows = .ok (g.updateFrame name (fun _ => a.active.withCursor 1 row), moved) ∧
      a.active.cursorRow ≤ row ∧
      (moved = true → IsLeast (g.freshRows name a.active rows) row) ∧
      (moved = false ↔ g.freshRows name a.active rows = ∅) := by
  have hf : g.frame name = .ok a.active := frame_eq_ok.mpr ⟨a, ha, rfl⟩
  obtain ⟨hcolumns, hrows, hframed, hcursors⟩ := hg.bounded
  have hheld := hframed name a ha a.active.toFrameSpec (by simp [Area.specs, Area.frames])
  simp only [holdsFrame, spansWithin, Bool.and_eq_true, decide_eq_true_eq] at hheld
  have hcorner : a.active.column ≤ countLimit ∧ a.active.row ≤ countLimit := by omega
  refine ⟨fun columns rows column hc hcolumn => ?_, fun rows => ?_⟩
  · exact ⟨_, findRow_of_frame hf columns rows column,
      searchRow?_eq_some hcorner hw hh hc hcolumn, findRowIn_isLeast_roomyRows hf hh columns rows column⟩
  · exact exists_nextRow_eq_ok hf (by omega) hh (hcursors name a ha) rows

/-- The area of a page of ten columns and ten rows whose cursor is behind a block in the corner. -/
def behindCorner : Area := ⟨pageArea, [], ⟨⟨1, 1, 10, 10⟩, 4, 1⟩, []⟩

/-- A page with a block of three columns and two rows in the corner. A block of eight columns and two rows
goes below it, and so does the cursor. -/
theorem row_search_exact_corner :
    ∃ g : Grid Float, g.Reachable ∧ g.area? pageArea = some behindCorner ∧
      g.findRow 8 2 1 pageArea = .ok (some 3) ∧
      g.searchRow? behindCorner.active 8 2 1 = some (some 3) ∧
      IsLeast (g.roomyRows pageArea behindCorner.active 8 2 1) 3 ∧
      g.nextRow pageArea 1 =
        .ok (g.updateFrame pageArea (fun _ => behindCorner.active.withCursor 1 3), true) ∧
      IsLeast (g.freshRows pageArea behindCorner.active 1) 3 := by
  let g : Grid Float :=
    { tenByTen with occupancy := Occupancy.empty.mark ⟨1, 1, 3, 2⟩, areas := [behindCorner] }
  have hallocate : tenByTen.allocateBlock 1 1 3 2 pageArea = .ok (g, .none) := rfl
  have hg : g.Reachable := .operation (.allocate hallocate) reachable_tenByTen
  have ha : g.area? pageArea = some behindCorner := rfl
  obtain ⟨hfind, hnext⟩ := row_search_exact hg ha (by decide) (by decide)
  have hthree : g.findRow 8 2 1 pageArea = .ok (some 3) := rfl
  obtain ⟨found, hfound, hchecked, hleast, -⟩ := hfind 8 2 1 (by decide) (by decide)
  obtain rfl := Except.ok.inj (hfound.symm.trans hthree)
  have hbelow : g.nextRow pageArea 1 =
      .ok (g.updateFrame pageArea (fun _ => behindCorner.active.withCursor 1 3), true) := rfl
  obtain ⟨moved, row, hmoved, -, hfresh, -⟩ := hnext 1
  obtain ⟨hgrid, rfl⟩ := Prod.mk.inj (Except.ok.inj (hmoved.symm.trans hbelow))
  obtain rfl : row = 3 := by
    have hcursor : (.ok (1, row) : Except (GridError Float) (Nat × Nat)) = .ok (1, 3) :=
      congrArg (·.cursor pageArea) hgrid
    exact (Prod.mk.inj (Except.ok.inj hcursor)).2
  exact ⟨g, hg, ha, hthree, hchecked, (hleast 3).mp rfl, hbelow, hfresh rfl⟩

end Grid

end PageGrid
