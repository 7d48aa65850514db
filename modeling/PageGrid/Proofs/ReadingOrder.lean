import PageGrid.Proofs.Grid.Search
import PageGrid.Proofs.UntouchedPage

/-!
# Reading order

Of two objects that the flow puts into one frame one after the other, the second should come after the
first: in a lower row, or further right in the same row. The cursor is behind the first object, and every
search from the cursor on goes further right or to a lower row, with one exception. If the second object
does not fit behind the first one, and if there is no fresh row for it, then the search begins again in
the row where the cursor is. An object of few columns can find room there, to the left of the first.

`reading_order_iff` says that this is the only exception. Whatever has been marked before, and whatever
else has been marked in between, the second object comes after the first one exactly if the flow does not
fall back, and if it falls back then it goes to the first column of the row of the first object.

## Main definitions

* `ReadsBefore` — reading order;
* `Grid.Passed` — the cursor is behind an object;
* `Grid.FallsBack` — the exception;
* `Command.InFlow` — an object that the flow puts into a frame of a page;
* `Command.flowBlocks` — the flow of several objects.

## Main results

* `Grid.Passed.inOrder` — places in a frame where the cursor is behind an object;
* `inFlow_of_placeInCells` — an object without a position is such an object, or overflows;
* `reading_order_iff` — the order of two such objects of a run;
* `flow_can_go_back` — six objects on a page, the last of which comes to the left of the one before.
-/

namespace PageGrid

/-- The first cell comes before the second one: it is in a higher row, or further left in the same row. -/
def ReadsBefore (p q : Nat × Nat) : Prop := p.2 < q.2 ∨ p.2 = q.2 ∧ p.1 < q.1

instance (p q : Nat × Nat) : Decidable (ReadsBefore p q) := inferInstanceAs (Decidable (_ ∨ _))

namespace Grid

variable {α : Type} {g g' : Grid α} {f : Frame} {name : String} {p q : Nat × Nat}
  {columns rows columns' rows' : Nat}

/-! ### Behind an object -/

/-- The numbers of columns and rows are below the limit of counts, so that no sum of the search passes it. -/
def Counted (g : Grid α) : Prop := g.columns < countLimit ∧ g.rows < countLimit

/-- The cursor of the frame is behind an object of some columns at a place of the frame: in the next
column of the same row, or, if the object reaches the last column, in the first column of a row below. The
last row that there can be has no row below. -/
structure Passed (g : Grid α) (f : Frame) (p : Nat × Nat) (columns : Nat) : Prop where
  counted : f.width < countLimit ∧ f.height < countLimit
  place : 1 ≤ p.1 ∧ p.1 ≤ f.width ∧ 1 ≤ p.2 ∧ p.2 ≤ countLimit
  nonempty : 1 ≤ columns
  taken : ¬ g.cellIsFree (f.absoluteColumn p.1) (f.absoluteRow p.2) = true
  cursor : f.cursorColumn = p.1 + columns ∧ f.cursorRow = p.2 ∨
    f.cursorColumn = 1 ∧ f.width < p.1 + columns ∧
      (p.2 < f.cursorRow ∨ f.cursorRow = p.2 ∧ f.height ≤ p.2)

/-- No cell becomes free. -/
theorem Grown.cellIsFree (h : g.Grown g') {c r : Int} (hfree : g'.cellIsFree c r = true) :
    g.cellIsFree c r = true := by
  simp only [Grid.cellIsFree, Grid.columns, Grid.rows, h.horizontal, h.vertical, Bool.and_eq_true,
    Occupancy.isFree_iff_count_eq_zero] at hfree ⊢
  have hle := h.count_le c.toNat r.toNat
  exact ⟨hfree.1, by omega⟩

theorem Grown.counted (h : g.Grown g') : g.Counted ↔ g'.Counted := by
  rw [Counted, Counted, Grid.columns, Grid.columns, Grid.rows, Grid.rows, h.horizontal, h.vertical]

theorem Passed.grown (hp : g.Passed f p columns) (h : g.Grown g') : g'.Passed f p columns :=
  { hp with taken := fun hfree => hp.taken (h.cellIsFree hfree) }

/-- The row of the object is not a fresh one. -/
theorem Passed.not_rowIsFree (hp : g.Passed f p columns) : ¬ g.rowIsFree f 1 f.width p.2 = true := by
  intro hrow
  obtain ⟨hleft, hright, -⟩ := hp.place
  obtain ⟨hwidth, -⟩ := hp.counted
  have hcells := (rowIsFree_eq_true.mp hrow).2.2.2.2
  rw [wordSum_of_le (by omega)] at hcells
  exact hp.taken (hcells p.1 hleft (by omega))

/-- If there is room at the start of the row, then the object is not there. -/
theorem Passed.one_lt (hp : g.Passed f p columns) (hc : 1 ≤ columns') (hr : 1 ≤ rows')
    (hholds : f.Holds 1 columns' p.2 rows') (hfree : g.blockIsFree f 1 columns' p.2 rows' = true) :
    1 < p.1 := by
  refine Nat.lt_of_le_of_ne hp.place.1 fun heq => hp.taken ?_
  obtain ⟨hcolumns, hrows⟩ := hp.counted
  obtain ⟨-, hwidth, -, hbottom⟩ := hholds
  have hrow := blockIsFree_eq_true.mp hfree p.2 (Nat.le_refl _) (by rw [wordSum_of_le] <;> omega)
  exact (rowIsFree_eq_true.mp hrow).2.2.2.2 p.1 (by omega) (by rw [wordSum_of_le] <;> omega)

/-- Where the cursor is not in the first column, it is in the row of the object, and there the fresh row is
looked for. -/
theorem Passed.cursor_of_one_lt (hp : g.Passed f p columns) (hcolumn : 1 < f.cursorColumn) :
    f.cursorColumn = p.1 + columns ∧ f.cursorRow = p.2 ∧ rowAfter f 1 = p.2 := by
  have hplace := hp.place
  obtain ⟨hcol, hrow⟩ | ⟨hcol, -⟩ := hp.cursor
  · rw [rowAfter, hrow, if_neg (by omega)]
    omega
  · omega

/-! ### The exception -/

/-- The flow goes back to the row of an object: the cursor has stayed in that row, the next object does
not fit behind it, no row from there on is fresh, and there is room at the start of that row. -/
structure FallsBack (g : Grid α) (f : Frame) (p : Nat × Nat) (columns columns' rows' : Nat) : Prop where
  row : f.cursorRow = p.2
  behind : f.width < p.1 + columns + columns' - 1
  fresh : ∀ row, p.2 ≤ row → ¬ g.rowIsFree f 1 f.width row = true
  start : g.blockIsFree f 1 columns' p.2 rows' = true

/-- What there is to be said about a place: where it is in reading order, and that only falling back puts
it elsewhere. -/
def InOrder (g : Grid α) (f : Frame) (p : Nat × Nat) (columns columns' rows' : Nat) (q : Nat × Nat) : Prop :=
  (ReadsBefore p q ↔ ¬ g.FallsBack f p columns columns' rows') ∧
    (¬ ReadsBefore p q → q = (1, p.2) ∧ 1 < p.1)

theorem inOrder_of_readsBefore (h : ReadsBefore p q) (hback : ¬ g.FallsBack f p columns columns' rows') :
    g.InOrder f p columns columns' rows' q :=
  ⟨⟨fun _ => hback, fun _ => h⟩, fun hn => absurd h hn⟩

/-- Falling back gives the start of the row. -/
theorem Passed.inOrder_of_fallsBack (hp : g.Passed f p columns) (hc : 1 ≤ columns') (hr : 1 ≤ rows')
    (hholds : f.Holds 1 columns' p.2 rows') (h : g.FallsBack f p columns columns' rows') :
    g.InOrder f p columns columns' rows' (1, p.2) := by
  have hlt := hp.one_lt hc hr hholds h.start
  have hn : ¬ ReadsBefore p (1, p.2) := by
    simp only [ReadsBefore]
    omega
  exact ⟨⟨fun hreads => absurd hreads hn, fun hback => absurd h hback⟩, fun _ => ⟨rfl, hlt⟩⟩

/-- A search from the first column on finds the start of the row where the flow falls back to, or else a
row below. -/
theorem Passed.inOrder_of_findRowIn (hp : g.Passed f p columns) (hc : 1 ≤ columns') (hr : 1 ≤ rows')
    {column row : Nat} (hrow : g.findRowIn (f.withCursor column p.2) columns' rows' 1 = some row)
    (hback : g.blockIsFree f 1 columns' p.2 rows' = true → g.FallsBack f p columns columns' rows') :
    g.InOrder f p columns columns' rows' (1, row) := by
  obtain ⟨hle, hholds, hfree, hfirst⟩ := (findRowIn_eq_some hc hr).mp hrow
  change p.2 ≤ row at hle
  rcases Nat.eq_or_lt_of_le hle with rfl | hlt
  · exact hp.inOrder_of_fallsBack hc hr hholds (hback hfree)
  · exact inOrder_of_readsBefore (.inl hlt) fun h => hfirst p.2 (Nat.le_refl _) hlt h.start

/-! ### The three ways to a place -/

/-- A place at the cursor or below is further right in the row of the object, or in a lower row. Only from the
last row that there can be does the flow fall back in this way. -/
theorem Passed.inOrder_of_behind (hp : g.Passed f p columns) (hc : 1 ≤ columns') (hr : 1 ≤ rows') {row : Nat}
    (hpasses : ¬ (1 < f.cursorColumn ∧ passesFrame f.cursorColumn columns' f.width = true))
    (hrow : g.findRowIn f columns' rows' f.cursorColumn = some row) :
    g.InOrder f p columns columns' rows' (f.cursorColumn, row) := by
  have hplace := hp.place
  have hcolumns := hp.nonempty
  have hle := ((findRowIn_eq_some hc hr).mp hrow).1
  obtain ⟨hcol, hcursor⟩ | ⟨hcol, hwidth, hcursor⟩ := hp.cursor
  · have hreads : ReadsBefore p (f.cursorColumn, row) := by
      simp only [ReadsBefore]
      omega
    refine inOrder_of_readsBefore hreads fun h => hpasses ⟨by omega, ?_⟩
    have hbehind := h.behind
    rw [passesFrame, decide_eq_true_eq]
    omega
  · rw [hcol] at hrow ⊢
    rcases hcursor with hlt | ⟨heq, hheight⟩
    · refine inOrder_of_readsBefore (.inl (by omega)) fun h => ?_
      have hback := h.row
      omega
    · -- the object is in the last row, and the cursor could not leave it
      have hrow' : g.findRowIn (f.withCursor f.cursorColumn p.2) columns' rows' 1 = some row := by
        rw [← heq]
        exact hrow
      refine hp.inOrder_of_findRowIn hc hr hrow' fun hstart => ⟨heq, by omega, fun row hle => ?_, hstart⟩
      rcases Nat.eq_or_lt_of_le hle with rfl | hlt
      · exact hp.not_rowIsFree
      · intro hfree
        have hin := (rowIsFree_eq_true.mp hfree).2.2.1
        omega

/-- A place in a fresh row or below is in a lower row. -/
theorem Passed.inOrder_of_fresh (hp : g.Passed f p columns) (hc : 1 ≤ columns') (hr : 1 ≤ rows')
    {start row : Nat} (hcolumn : 1 < f.cursorColumn)
    (hstart : g.findRowIn (f.withCursor 1 (rowAfter f 1)) f.width 1 1 = some start)
    (hrow : g.findRowIn (f.withCursor 1 start) columns' rows' 1 = some row) :
    g.InOrder f p columns columns' rows' (1, row) := by
  obtain ⟨-, -, hafter⟩ := hp.cursor_of_one_lt hcolumn
  have hwidth : 1 ≤ f.width := Nat.le_trans hp.place.1 hp.place.2.1
  obtain ⟨hle, hholds, hfree, -⟩ := (findRowIn_eq_some hwidth (Nat.le_refl 1)).mp hstart
  change rowAfter f 1 ≤ start at hle
  replace hfree : g.rowIsFree f 1 f.width start = true := by
    rwa [blockIsFree_one (Nat.lt_of_le_of_lt (Nat.le_of_succ_le_succ hholds.bottom) hp.counted.2)] at hfree
  have hne : start ≠ p.2 := by
    rintro rfl
    exact hp.not_rowIsFree hfree
  have hbelow := ((findRowIn_eq_some hc hr).mp hrow).1
  change start ≤ row at hbelow
  exact inOrder_of_readsBefore (.inl (by omega)) fun h => h.fresh start (by omega) hfree

/-- Without a fresh row the flow falls back, or there is a place in a lower row. -/
theorem Passed.inOrder_of_back (hp : g.Passed f p columns) (hc : 1 ≤ columns') (hr : 1 ≤ rows') {row : Nat}
    (hcolumn : 1 < f.cursorColumn) (hpasses : passesFrame f.cursorColumn columns' f.width = true)
    (hnone : g.findRowIn (f.withCursor 1 (rowAfter f 1)) f.width 1 1 = none)
    (hrow : g.findRowIn (f.withCursor 1 (rowAfter f 1)) columns' rows' 1 = some row) :
    g.InOrder f p columns columns' rows' (1, row) := by
  obtain ⟨hcol, hcursor, hafter⟩ := hp.cursor_of_one_lt hcolumn
  have hwidth : 1 ≤ f.width := Nat.le_trans hp.place.1 hp.place.2.1
  rw [passesFrame, decide_eq_true_eq] at hpasses
  rw [hafter] at hnone hrow
  refine hp.inOrder_of_findRowIn hc hr hrow fun hstart => ⟨hcursor, by omega, fun row hle => ?_, hstart⟩
  intro hfree
  obtain ⟨-, hone, hheight, -⟩ := rowIsFree_eq_true.mp hfree
  obtain ⟨-, hrows⟩ := hp.counted
  rw [← blockIsFree_one (by omega)] at hfree
  have hholds : f.Holds 1 f.width row 1 := ⟨Nat.le_refl 1, by omega, by omega, by omega⟩
  exact (findRowIn_eq_none hwidth (Nat.le_refl 1)).mp hnone row hle hholds hfree

/-- **Places behind an object.** A place in a frame whose cursor is behind an object comes after the
object in reading order, unless the flow falls back. -/
theorem Passed.inOrder (hp : g.Passed f p columns) (hc : 1 ≤ columns') (hr : 1 ≤ rows')
    (h : g.PlaceInFrame f columns' rows' q) : g.InOrder f p columns columns' rows' q := by
  cases h with
  | behind hpasses hrow => exact hp.inOrder_of_behind hc hr hpasses hrow
  | fresh hcolumn hstart hrow => exact hp.inOrder_of_fresh hc hr hcolumn hstart hrow
  | back hcolumn hpasses hnone hrow => exact hp.inOrder_of_back hc hr hcolumn hpasses hnone hrow

/-! ### The cursor after an allocation -/

/-- Allocating a block moves the cursor of the active frame and no other: to the row below the block if the
block reaches the last column, and else to the column after it. -/
theorem area?_allocateBlock {a : Area} {x y : Int} {breach : Breach} (ha : g.area? name = some a)
    (h : g.allocateBlock x y columns rows name = .ok (g', breach)) :
    ∃ f, g'.area? name = some (a.updateActive fun _ => f) ∧ f.toFrameSpec = a.active.toFrameSpec ∧
      ((a.active.width : Int) < x + columns ∧ f.cursorColumn = 1 ∧
          f.cursorRow = clampCursor (y + rows) ∨
        x + columns ≤ a.active.width ∧ f.cursorColumn = clampCursor (x + columns) ∧
          f.cursorRow = clampCursor y) := by
  rw [allocateBlock, frame_eq_ok.mpr ⟨a, ha, rfl⟩] at h
  simp only [Except.map, Except.ok.injEq, Prod.mk.injEq] at h
  obtain ⟨rfl, -⟩ := h
  have harea (o : Occupancy) (f : Frame) :
      ({ g with occupancy := o }.updateFrame name fun _ => f).area? name =
        some (a.updateActive fun _ => f) := by
    rw [area?_updateFrame, if_pos rfl]
    exact Option.map_eq_some_iff.mpr ⟨a, ha, rfl⟩
  refine ⟨_, harea _ _, ?_, ?_⟩
  · split <;> rfl
  · split
    · next hpast => exact .inl ⟨hpast, rfl, rfl⟩
    · next hpast => exact .inr ⟨Int.not_lt.mp hpast, rfl, rfl⟩

/-- The frames of a framed grid are not larger than the grid. -/
theorem Framed.active_le (hg : g.Framed) {a : Area} (ha : g.area? name = some a) :
    1 ≤ a.active.column ∧ 1 ≤ a.active.row ∧ a.active.width ≤ g.columns ∧ a.active.height ≤ g.rows := by
  have hheld := hg name a ha a.active.toFrameSpec (by simp [Area.specs, Area.frames])
  simp only [holdsFrame, spansWithin, Bool.and_eq_true, decide_eq_true_eq] at hheld
  omega

/-- **Behind an object.** Where a block has been found free and is allocated, the cursor is behind it. -/
theorem passed_of_allocateBlock {a : Area} {breach : Breach} (hg : g.Framed)
    (ha : g.area? name = some a) (hc : 1 ≤ columns) (hr : 1 ≤ rows)
    (hfound : g.findRowIn a.active columns rows p.1 = some p.2)
    (h : g.allocateBlock p.1 p.2 columns rows name = .ok (g', breach)) :
    ∃ f, g'.area? name = some (a.updateActive fun _ => f) ∧
      (g'.Counted → g'.Passed f p columns) := by
  obtain ⟨hcolumn, hrow, hwidth, hheight⟩ := hg.active_le ha
  obtain ⟨f, hf, hspec, hcursor⟩ := area?_allocateBlock ha h
  refine ⟨f, hf, fun hn => ?_⟩
  obtain ⟨hcolumns, hrows⟩ := (grown_allocateBlock h).counted.mpr hn
  have hfit := sumsFit_of_findRowIn (Nat.lt_of_le_of_lt hwidth hcolumns) (Nat.lt_of_le_of_lt hheight hrows) hfound
  obtain ⟨-, ⟨honeColumn, hright, -, hbottom⟩, -⟩ := (findRowIn_eq_some hc hr).mp hfound
  have honeRow := (cellIsFree_of_findRowIn hfound hfit (c := p.1) (r := p.2) (Nat.le_refl _) (by omega)
    (Nat.le_refl _) (by omega)).2.1
  -- the first cell of the block is marked
  have hcovers : a.active.Covers p.1 p.2 columns rows (a.active.column + p.1 - 1)
      (a.active.row + p.2 - 1) := by
    simp only [Frame.Covers, Frame.absoluteColumn, Frame.absoluteRow]
    omega
  have hcount := count_allocateBlock h (frame_eq_ok.mpr ⟨a, ha, rfl⟩) (a.active.column + p.1 - 1)
    (a.active.row + p.2 - 1)
  rw [if_pos ⟨(free_of_findRowIn hfound hfit hcovers).2.1, hcovers⟩] at hcount
  refine ⟨by rw [hspec]; omega, by rw [hspec]; omega, hc, ?_, ?_⟩
  · rw [Frame.absoluteColumn, Frame.absoluteRow, hspec,
      show (a.active.column : Int) + p.1 - 1 = (a.active.column + p.1 - 1 : Nat) by omega,
      show (a.active.row : Int) + p.2 - 1 = (a.active.row + p.2 - 1 : Nat) by omega]
    intro hfree
    have hzero := (cellIsFree_natCast.mp hfree).2
    omega
  · rw [hspec]
    simp only [clampCursor] at hcursor
    omega

end Grid

/-- The area of a name on the open page. -/
def Layout.areaOnPage? (l : Layout) (name : String) : Option Area := l.page.bind (·.grid.area? name)

theorem Layout.areaOnPage?_of_page {l : Layout} {page : Page Float} (hp : l.page = some page)
    (name : String) : l.areaOnPage? name = page.grid.area? name := by
  rw [areaOnPage?, hp]
  rfl

namespace Command

variable {setting : Setting} {rule : Rule} {focus : Focus} {s t u : Session} {area : String}
  {columns rows number frame : Nat} {place : Nat × Nat}

/-! ### Objects in the flow of a page -/

/-- An object of some columns and rows that the flow of an area puts on a page, and whose block is marked,
from the session in which it begins to the one that it leaves, with the number of the page, the frame, and
the place in the frame. -/
inductive InFlow (area : String) (columns rows : Nat) (s t : Session) : Nat → Nat → Nat × Nat → Prop
  | intro {setting : Setting} {rule : Rule} {focus : Focus} {place : Nat × Nat} {u : Session}
      {page : Page Float} {a : Area} : 1 ≤ columns → 1 ≤ rows →
      (flowPlace? rule focus area columns rows).runWith setting s = (.ok (some place), u) →
      u.layout.openGroups = [] → u.layout.page = some page → page.grid.area? area = some a →
      (markBlock rule area place.1 place.2 columns rows).runWith setting u = (.ok (), t) →
        InFlow area columns rows s t page.number a.current place

theorem InFlow.reaches (h : InFlow area columns rows s t number frame place) :
    s.layout.Reaches t.layout := by
  obtain ⟨-, -, hplace, -, -, -, hmark⟩ := h
  exact ((tame_flowPlace? _ _ _ _ _).reaches hplace).trans ((tame_markBlock _ _ _ _ _ _).reaches hmark)

theorem InFlow.nonempty (h : InFlow area columns rows s t number frame place) :
    1 ≤ columns ∧ 1 ≤ rows := by
  obtain ⟨hc, hr, -⟩ := h
  exact ⟨hc, hr⟩

/-- It leaves the cursor behind it. -/
theorem InFlow.passed (h : InFlow area columns rows s t number frame place) (hs : s.layout.Reachable) :
    ∃ page a, t.layout.page = some page ∧ page.number = number ∧ page.grid.area? area = some a ∧
      a.current = frame ∧ (page.grid.Counted → page.grid.Passed a.active place columns) := by
  cases h with
  | @intro setting rule focus place u page a hc hr hplace ho hp ha hmark =>
    have hg := Layout.targetGrid?_of_page ho hp
    have hf := Grid.frame_eq_ok.mpr ⟨a, ha, rfl⟩
    obtain ⟨g, hg', f, hf', hrow⟩ := (flowPlace?_exit hplace).found
    obtain rfl := Option.some.inj (hg.symm.trans hg')
    obtain rfl := Except.ok.inj (hf.symm.trans hf')
    obtain ⟨g', breach, entries, hallocate, hrun⟩ :=
      runWith_markBlock setting rule place.1 place.2 columns rows hg hf
    obtain rfl := congrArg Prod.snd (hmark.symm.trans hrun)
    have hp' : (u.layout.setTargetGrid g').page = some { page with grid := g' } :=
      Layout.page_setTargetGrid ho hp g'
    have hframed := (hs.trans ((tame_flowPlace? _ _ _ _ _).reaches hplace)).framed hp
    obtain ⟨f, hf, hpassed⟩ := Grid.passed_of_allocateBlock hframed ha hc hr hrow hallocate
    exact ⟨_, _, hp', rfl, hf, rfl, hpassed⟩

/-- On a page that has been opened before, it comes from a search on that page. -/
theorem InFlow.flow (h : InFlow area columns rows s t number frame place)
    (hle : number ≤ s.layout.pageCount) :
    ∃ page g a, s.layout.page = some page ∧ page.number = number ∧
      page.grid.flow columns rows area = .ok (g, some place) ∧ g.area? area = some a ∧
      a.current = frame := by
  cases h with
  | @intro setting rule focus place u page a hc hr hplace ho hp ha hmark =>
    cases flowPlace?_exit hplace with
    | @here g g' _ hg hflow =>
      have ho' : s.layout.openGroups = [] := by
        rw [← Layout.inGroup_eq_false, Layout.inGroup_setTargetGrid] at ho
        exact Layout.inGroup_eq_false.mp ho
      obtain ⟨page', hp', rfl⟩ := Layout.page_of_targetGrid? ho' hg
      obtain rfl := Option.some.inj ((Layout.page_setTargetGrid ho' hp' g').symm.trans hp)
      exact ⟨page', g', a, hp', rfl, hflow, ha, rfl⟩
    | @nextPage p page' g g' type _ _ ho' hp' _ _ _ hpage hflow hlog =>
      rw [hlog.layout_eq] at hp
      obtain rfl := Option.some.inj hp
      have hnumber := Layout.number_of_ofType hpage
      change page'.number ≤ s.layout.pageCount at hle
      omega

/-- A box is placed without a change of the grid. -/
theorem areaOnPage?_placeBox {left top : Float} {box : ContentBox Float}
    (h : (placeBox left top box).runWith setting s = (.ok (), t)) (name : String) :
    t.layout.areaOnPage? name = s.layout.areaOnPage? name := by
  rw [placeBox, Action.runWith_modifyLayout, Prod.mk.injEq] at h
  obtain ⟨-, rfl⟩ := h
  simp only [Layout.areaOnPage?, Layout.place]
  split
  · rfl
  · next page _ hp => simp [hp, Page.place]
  · rfl

/-- An object that is placed in the flow of a page is such an object, unless it overflows. -/
theorem inFlow_of_placeInCells {box : ContentBox Float} (ho : s.layout.openGroups = [])
    (h : (placeInCells rule focus area true none none box).runWith setting s = (.ok (), t)) :
    ∃ g, s.layout.targetGrid? = some g ∧
      ((∃ u, (flowPlace? rule focus area (cellsOf g box).1 (cellsOf g box).2).runWith setting s =
          (.ok none, u)) ∨
        ∃ v number frame place,
          InFlow area (cellsOf g box).1 (cellsOf g box).2 s v number frame place ∧
          v.layout.Reaches t.layout ∧ t.layout.areaOnPage? area = v.layout.areaOnPage? area) := by
  obtain ⟨g, hg, hover | ⟨place, u, page, a, v, left, top, hplace, ho', hpage, ha, hmark, h⟩⟩ :=
    placeInCells_exit ho h
  · exact ⟨g, hg, .inl hover⟩
  · have hin : InFlow area (cellsOf g box).1 (cellsOf g box).2 s v page.number a.current place :=
      .intro (Nat.le_max_right _ _) (Nat.le_max_right _ _) hplace ho' hpage ha hmark
    exact ⟨g, hg, .inr ⟨v, _, _, place, hin, (tame_placeBox left top box).reaches h,
      areaOnPage?_placeBox h area⟩⟩

/-- **Reading order.** Of two objects that the flow of an area puts one after the other into one frame of a
page, in any run and whatever other commands do in between that leave the flow of the area alone, the second
one comes after the first one in reading order, except where the flow falls back to the row of the first
one; there it puts the second one into the first column, to the left of the first. The numbers of columns and
rows of the page are below the limit of counts, thirty-two bits. -/
theorem reading_order_iff {s₁ t₁ s₂ t₂ : Session} {columns₁ rows₁ columns₂ rows₂ : Nat}
    {place₁ place₂ : Nat × Nat} (hs : s₁.layout.Reachable)
    (h₁ : InFlow area columns₁ rows₁ s₁ t₁ number frame place₁)
    (hr : t₁.layout.Reaches s₂.layout)
    (hkept : s₂.layout.areaOnPage? area = t₁.layout.areaOnPage? area)
    (h₂ : InFlow area columns₂ rows₂ s₂ t₂ number frame place₂)
    (hn : ∀ page, s₂.layout.page = some page → page.grid.Counted) :
    ∃ page a, s₂.layout.page = some page ∧ page.number = number ∧ page.grid.area? area = some a ∧
      (ReadsBefore place₁ place₂ ↔
        ¬ page.grid.FallsBack a.active place₁ columns₁ columns₂ rows₂) ∧
      (¬ ReadsBefore place₁ place₂ → place₂ = (1, place₁.2) ∧ 1 < place₁.1) := by
  obtain ⟨page₁, a, hp₁, rfl, ha, rfl, hpassed⟩ := h₁.passed hs
  have hsince := (((hs.trans h₁.reaches).numbered).grownSince hp₁).reaches hr
  obtain ⟨page₂, g, b, hp₂, hnumber, hflow, hb, hframe⟩ := h₂.flow hsince.opened
  have hgrown := hsince.grown page₂ hp₂ hnumber
  rw [Layout.areaOnPage?_of_page hp₁, Layout.areaOnPage?_of_page hp₂, ha] at hkept
  refine ⟨page₂, a, hp₂, hnumber, hkept, ?_⟩
  obtain hplace | ⟨c, hc, hlt⟩ := Grid.placeInFrame_or_later_of_flow hkept hflow
  · have hpassed := (hpassed (hgrown.counted.mpr (hn page₂ hp₂))).grown hgrown
    exact hpassed.inOrder h₂.nonempty.1 h₂.nonempty.2 hplace
  · obtain rfl := Option.some.inj (hb.symm.trans hc)
    omega

/-! ### Objects on the first page -/

theorem inFlow_withBlock (hc : 1 ≤ columns) (hr : 1 ≤ rows)
    (h : (flowPlace? (.bare "PlaceObject" [] []) .root pageArea columns rows).runWith .bare s =
      (.ok (some place), u))
    (ho : u.layout.openGroups = [])
    (hp : (u.layout.page.map fun page =>
      (page.number, (page.grid.area? pageArea).map Area.current)) = some (number, some frame)) :
    InFlow pageArea columns rows s (withBlock s place columns rows) number frame place := by
  obtain ⟨t, ht⟩ := exists_markBlock_of_flowPlace? h
  obtain ⟨page, hpage, heq⟩ := Option.map_eq_some_iff.mp hp
  obtain ⟨rfl, hcurrent⟩ := Prod.mk.inj heq
  obtain ⟨a, ha, rfl⟩ := Option.map_eq_some_iff.mp hcurrent
  rw [withBlock, h, ht]
  exact .intro hc hr h ho hpage ha ht

theorem reaches_withBlock (s : Session) (place : Nat × Nat) (columns rows : Nat) :
    s.layout.Reaches (withBlock s place columns rows).layout := by
  have hflow : Action.Tame False (flowPlace? (.bare "PlaceObject" [] []) .root pageArea columns rows) :=
    tame_flowPlace? _ _ _ _ _
  have hmark : Action.Tame False
      (markBlock (.bare "PlaceObject" [] []) pageArea place.1 place.2 columns rows) :=
    tame_markBlock _ _ _ _ _ _
  exact (hflow .bare s).reaches.trans (hmark .bare _).reaches

/-- The first page with four blocks: the first row is full, the second one has a block of eight columns, and
the column behind it is taken down to the row before the last. -/
def nineRows : Session :=
  withBlock (withBlock (withBlock (withBlock .firstPage (1, 1) 8 1) (9, 1) 1 9) (10, 1) 1 1) (1, 2) 8 1

theorem counted_of_page {l : Layout}
    (h : (l.page.map fun page => (page.grid.columns, page.grid.rows)) = some (10, 10)) :
    ∀ page, l.page = some page → page.grid.Counted := by
  intro page hp
  rw [hp] at h
  obtain ⟨hcolumns, hrows⟩ := Prod.mk.inj (Option.some.inj h)
  rw [Grid.Counted, hcolumns, hrows]
  decide

theorem reading_order_iff_firstPage :
    -- two objects in one row
    (∃ t₁ t₂ page a, InFlow pageArea 3 2 .firstPage t₁ 1 0 (1, 1) ∧ InFlow pageArea 4 1 t₁ t₂ 1 0 (4, 1) ∧
      t₁.layout.page = some page ∧ page.grid.area? pageArea = some a ∧
      ¬ page.grid.FallsBack a.active (1, 1) 3 4 1) ∧
    -- two objects in the last row
    ∃ t₁ t₂ page a, InFlow pageArea 1 1 nineRows t₁ 1 0 (9, 10) ∧
      InFlow pageArea 2 1 t₁ t₂ 1 0 (1, 10) ∧
      t₁.layout.page = some page ∧ page.grid.area? pageArea = some a ∧
      page.grid.FallsBack a.active (9, 10) 1 2 1 := by
  have h₁ : InFlow pageArea 3 2 .firstPage (withBlock .firstPage (1, 1) 3 2) 1 0 (1, 1) :=
    inFlow_withBlock (by decide) (by decide) (Action.runWith_of_toOption (by decide +kernel))
      (List.isEmpty_iff.mp (by decide +kernel)) (by decide +kernel)
  have h₂ : InFlow pageArea 4 1 (withBlock .firstPage (1, 1) 3 2)
      (withBlock (withBlock .firstPage (1, 1) 3 2) (4, 1) 4 1) 1 0 (4, 1) :=
    inFlow_withBlock (by decide) (by decide) (Action.runWith_of_toOption (by decide +kernel))
      (List.isEmpty_iff.mp (by decide +kernel)) (by decide +kernel)
  have h₃ : InFlow pageArea 1 1 nineRows (withBlock nineRows (9, 10) 1 1) 1 0 (9, 10) :=
    inFlow_withBlock (by decide) (by decide) (Action.runWith_of_toOption (by decide +kernel))
      (List.isEmpty_iff.mp (by decide +kernel)) (by decide +kernel)
  have h₄ : InFlow pageArea 2 1 (withBlock nineRows (9, 10) 1 1)
      (withBlock (withBlock nineRows (9, 10) 1 1) (1, 10) 2 1) 1 0 (1, 10) :=
    inFlow_withBlock (by decide) (by decide) (Action.runWith_of_toOption (by decide +kernel))
      (List.isEmpty_iff.mp (by decide +kernel)) (by decide +kernel)
  have hnine : nineRows.layout.Reachable :=
    ((((Layout.reachable_firstPage.trans (reaches_withBlock _ _ _ _)).trans
      (reaches_withBlock _ _ _ _)).trans (reaches_withBlock _ _ _ _)).trans (reaches_withBlock _ _ _ _))
  obtain ⟨page₁, a₁, hp₁, -, ha₁, hreads, -⟩ := reading_order_iff Layout.reachable_firstPage h₁ .refl rfl h₂
    (counted_of_page (by decide +kernel))
  obtain ⟨page₂, a₂, hp₂, -, ha₂, hback, -⟩ := reading_order_iff hnine h₃ .refl rfl h₄
    (counted_of_page (by decide +kernel))
  refine ⟨⟨_, _, page₁, a₁, h₁, h₂, hp₁, ha₁, hreads.mp (by decide)⟩, ?_⟩
  by_cases hfalls : page₂.grid.FallsBack a₂.active (9, 10) 1 2 1
  · exact ⟨_, _, page₂, a₂, h₃, h₄, hp₂, ha₂, hfalls⟩
  · exact absurd (hback.mpr hfalls) (by decide)

/-- The flow of several objects of given columns and rows, up to one that overflows; the answer is their
places. -/
def flowBlocks (rule : Rule) (focus : Focus) (area : String) :
    List (Nat × Nat) → Action (List (Nat × Nat))
  | [] => return []
  | (columns, rows) :: rest => do
    match ← flowPlace? rule focus area columns rows with
    | none => return []
    | some place =>
      markBlock rule area place.1 place.2 columns rows
      return place :: (← flowBlocks rule focus area rest)

/-- On a page where nothing but objects in the flow of its only frame are placed, all of them on this page and
none of them overflowing, an object can come to the left of the one before. -/
theorem flow_can_go_back :
    ¬ ∀ (setting : Setting) (rule : Rule) (focus : Focus) (area : String) (s t : Session)
        (page : Page Float) (a : Area) (sizes places : List (Nat × Nat)),
      s.layout.Reachable → s.layout.openGroups = [] → s.layout.page = some page → page.Untouched →
      page.grid.area? area = some a → a.later = [] → (∀ size ∈ sizes, 1 ≤ size.1 ∧ 1 ≤ size.2) →
      (flowBlocks rule focus area sizes).runWith setting s = (.ok places, t) →
      places.length = sizes.length → t.layout.pageCount = s.layout.pageCount →
        ∀ before place₁ place₂ after, places = before ++ place₁ :: place₂ :: after →
          ReadsBefore place₁ place₂ := by
  intro h
  have hpage : (Session.firstPage.layout.page.map fun page =>
      (page.items.isEmpty, page.grid.occupancy, page.grid.areas)) =
      some (true, .empty, [.single pageArea ⟨1, 1, 10, 10⟩]) := by
    decide +kernel
  obtain ⟨page, hp, heq⟩ := Option.map_eq_some_iff.mp hpage
  obtain ⟨hitems, hmarks, hareas⟩ : _ ∧ _ ∧ _ := by simpa using heq
  have huntouched : page.Untouched :=
    ⟨hitems, fun c r _ => by rw [hmarks]; rfl, by rw [hareas]; decide⟩
  have ha : page.grid.area? pageArea = some (.single pageArea ⟨1, 1, 10, 10⟩) := by
    rw [Grid.area?, hareas]
    decide
  let sizes := [(8, 1), (1, 9), (1, 1), (8, 1), (1, 1), (2, 1)]
  let run := (flowBlocks (.bare "PlaceObject" [] []) .root pageArea sizes).runWith .bare .firstPage
  have hrun : (run.1.toOption, run.2.layout.pageCount) =
      (some [(1, 1), (9, 1), (10, 1), (1, 2), (9, 10), (1, 10)], Session.firstPage.layout.pageCount) := by
    decide +kernel
  obtain ⟨hplaces, hcount⟩ := Prod.mk.inj hrun
  have hback := h .bare (.bare "PlaceObject" [] []) .root pageArea .firstPage run.2 page _ sizes _
    Layout.reachable_firstPage (List.isEmpty_iff.mp (by decide +kernel)) hp huntouched ha rfl (by decide)
    (Action.runWith_of_toOption hplaces) rfl hcount [(1, 1), (9, 1), (10, 1), (1, 2)] (9, 10) (1, 10) [] rfl
  exact absurd hback (by decide)

end Command

end PageGrid
