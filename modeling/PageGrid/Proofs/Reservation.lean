import PageGrid.Proofs.FlowPlacement

/-!
# The cells that a box reserves

The number of cells that a box takes is counted on the grid that content goes to when its placement
begins. The block is marked on the grid that content goes to once the place is known. The two have
the same axes unless the flow turns the page in between, and the new page may have another grid:
other margins from its page type, or other cells from the grid settings.

So the block need not cover the box, and `reserved_cells_iff` says when it does: if no page was
opened, or if the new page, which is known from the layout before the placement and from the page
type that its data selects, counts as many cells.

## Main definitions

* `Command.Reservation` — how a box comes to its block.

## Main results

* `reservation_of_placeInCells` — every placement that marks cells is one;
* `reserved_cells_iff` — when the block is that of the box on the grid on which it is marked;
* `reserves_too_few_cells` — that it need not be.
-/

namespace PageGrid.Command

variable {setting : Setting} {rule : Rule} {focus : Focus} {s t u : Session} {area : String}
  {columns rows : Nat} {column row : Option Int} {box : ContentBox Float}

/-- How a box comes to its block: its cells are counted on the grid `counted`, its place is found,
and the block is marked on the grid `landing` of the session `u`. -/
structure Reservation (setting : Setting) (rule : Rule) (focus : Focus) (area : String)
    (column row : Option Int) (box : ContentBox Float) (s u t : Session)
    (counted landing : Grid Float) : Prop where
  before : s.layout.targetGrid? = some counted
  after : u.layout.targetGrid? = some landing
  placed : ∃ x y marked breach left top entries,
    (cellFor rule focus area column row (cellsOf counted box).1 (cellsOf counted box).2).runWith
      setting s = (.ok (x, y), u) ∧
    landing.allocateBlock x y (cellsOf counted box).1 (cellsOf counted box).2 area =
      .ok (marked, breach) ∧
    t = Session.logging { u with
      layout := ((u.layout.setTargetGrid marked).place left top box).getD
        (u.layout.setTargetGrid marked) } entries

/-- **Every placement that marks cells is a reservation.** -/
theorem reservation_of_placeInCells
    (h : (placeInCells rule focus area true column row box).runWith setting s = (.ok (), t)) :
    ∃ u counted landing,
      Reservation setting rule focus area column row box s u t counted landing := by
  obtain ⟨counted, hcounted, h⟩ := Action.targetGrid_bind_eq_ok.mp h
  obtain ⟨⟨x, y⟩, u, hcell, h⟩ := Action.runWith_bind_eq_ok.mp h
  obtain ⟨landing, hlanding, h⟩ := Action.targetGrid_bind_eq_ok.mp h
  obtain ⟨left, -, h⟩ := Action.ofExcept_bind_eq_ok.mp h
  obtain ⟨top, -, h⟩ := Action.ofExcept_bind_eq_ok.mp h
  obtain ⟨_, v, hmark, h⟩ := Action.runWith_bind_eq_ok.mp h
  obtain ⟨landing', hlanding', hmark⟩ := Action.targetGrid_bind_eq_ok.mp hmark
  obtain rfl := Option.some.inj (hlanding.symm.trans hlanding')
  obtain ⟨⟨marked, breach⟩, hblock, hmark⟩ := Action.ofExcept_bind_eq_ok.mp hmark
  cases hmark
  cases h
  exact ⟨u, counted, landing, hcounted, hlanding, x, y, marked, breach, left, top, _, hcell, hblock,
    rfl⟩

/-! ### When the counts agree -/

theorem cellsOf_congr {g g' : Grid Float} (hh : g'.horizontal = g.horizontal)
    (hv : g'.vertical = g.vertical) (box : ContentBox Float) : cellsOf g' box = cellsOf g box := by
  rw [cellsOf, hh, hv, cellsOf]

/-- A new page of a declared type is open, on which only the flow has moved. -/
def OnNewPage (l l' : Layout) (page : Page Float) : Prop :=
  ∃ type ∈ l.pageTypes.types,
    Page.ofType (l.pageCount + 1) type l.pageSize l.gridSettings = .ok page ∧
    ∃ g, page.grid.FlowMoved g ∧ l'.targetGrid? = some g

/-- The page is the same, or a new one. -/
theorem FlowPlace.same_or_new {place : Option (Nat × Nat)}
    (h : FlowPlace area columns rows s place u) {g g' : Grid Float}
    (hg : s.layout.targetGrid? = some g) (hg' : u.layout.targetGrid? = some g') :
    u.layout.pageCount = s.layout.pageCount ∧ g.FlowMoved g' ∨
      u.layout.pageCount = s.layout.pageCount + 1 ∧ ∃ page, OnNewPage s.layout u.layout page := by
  have hsame {g₁ g₂ : Grid Float} (hg₁ : s.layout.targetGrid? = some g₁)
      (hu : u.layout = s.layout.setTargetGrid g₂) (hm : g₁.FlowMoved g₂) :
      u.layout.pageCount = s.layout.pageCount ∧ g.FlowMoved g' := by
    rw [hu, Layout.targetGrid?_setTargetGrid g₂ hg] at hg'
    obtain rfl := Option.some.inj hg'
    obtain rfl := Option.some.inj (hg.symm.trans hg₁)
    exact ⟨by rw [hu, Layout.pageCount_setTargetGrid], hm⟩
  cases h with
  | here hg₁ hflow => exact .inl (hsame hg₁ rfl (Grid.flow_eq_ok hflow).1)
  | overflow hg₁ hflow => exact .inl (hsame hg₁ rfl (Grid.flow_eq_ok hflow).1)
  | @nextPage p page g₁ g₂ type _ _ ho _ _ _ hm hpage hflow hlog =>
    refine .inr ?_
    rw [hlog.layout_eq]
    exact ⟨rfl, page, type, hm, hpage, g₂, (Grid.flow_eq_ok hflow).1,
      Layout.targetGrid?_of_page (p := { page with grid := g₂ }) ho rfl⟩

/-- The same for an object whose cell may be given. -/
theorem cellFor_same_or_new {cell : Int × Int} {g g' : Grid Float}
    (h : (cellFor rule focus area column row columns rows).runWith setting s = (.ok cell, u))
    (hg : s.layout.targetGrid? = some g) (hg' : u.layout.targetGrid? = some g') :
    u.layout.pageCount = s.layout.pageCount ∧ g.FlowMoved g' ∨
      u.layout.pageCount = s.layout.pageCount + 1 ∧ ∃ page, OnNewPage s.layout u.layout page := by
  rw [cellFor] at h
  split at h
  · obtain ⟨g₁, hg₁, h⟩ := Action.targetGrid_bind_eq_ok.mp h
    obtain ⟨_, -, h⟩ := Action.ofExcept_bind_eq_ok.mp h
    cases h
    obtain rfl := Option.some.inj (hg.symm.trans hg')
    exact .inl ⟨rfl, refl_of Grid.FlowMoved g⟩
  · obtain ⟨_, v, hflow, h⟩ := Action.runWith_bind_eq_ok.mp h
    cases h
    obtain ⟨place, t, hplace, hflow⟩ := Action.runWith_bind_eq_ok.mp hflow
    have hu : u.layout = t.layout := by
      cases place with
      | some place =>
        cases hflow
        rfl
      | none => exact (quiet_overflow rule area columns rows).layout_eq hflow
    rw [hu] at hg' ⊢
    exact (flowPlace?_exit hplace).same_or_new hg hg'

/-- **Which cells are reserved.** The block is marked on the grid `landing` with the number of cells
that the box takes on the grid `counted`. These are the cells that it takes on the grid where it is
marked exactly if no page has been opened in between, or the box takes as many cells on the new
page. -/
theorem reserved_cells_iff
    (h : (placeInCells rule focus area true column row box).runWith setting s = (.ok (), t)) :
    ∃ u counted landing,
      Reservation setting rule focus area column row box s u t counted landing ∧
      (cellsOf counted box = cellsOf landing box ↔
        u.layout.pageCount = s.layout.pageCount ∨
          ∃ page, OnNewPage s.layout u.layout page ∧
            cellsOf counted box = cellsOf page.grid box) := by
  obtain ⟨u, counted, landing, hr⟩ := reservation_of_placeInCells h
  refine ⟨u, counted, landing, hr, ?_⟩
  obtain ⟨x, y, _, _, _, _, _, hcell, -, -⟩ := hr.placed
  have hnew {page : Page Float} (hp : OnNewPage s.layout u.layout page) :
      cellsOf landing box = cellsOf page.grid box := by
    obtain ⟨_, _, _, g, hm, hg⟩ := hp
    obtain rfl := Option.some.inj (hr.after.symm.trans hg)
    exact cellsOf_congr hm.horizontal hm.vertical box
  obtain ⟨hcount, hm⟩ | ⟨hcount, page, hp⟩ := cellFor_same_or_new hcell hr.before hr.after
  · exact ⟨fun _ => .inl hcount, fun _ => (cellsOf_congr hm.horizontal hm.vertical box).symm⟩
  · constructor
    · exact fun heq => .inr ⟨page, hp, heq.trans (hnew hp)⟩
    · rintro (hsame | ⟨page', hp', heq⟩)
      · omega
      · exact heq.trans (hnew hp').symm

/-- A box of five columns in the flow of the first page. -/
theorem reserved_cells_iff_firstPage :
    ∃ u counted landing t,
      Reservation .bare (.bare "PlaceObject" [] []) .root pageArea none none (.filled ⟨50, 10⟩ none)
        .firstPage u t counted landing ∧
      (cellsOf counted (.filled ⟨50, 10⟩ none) = cellsOf landing (.filled ⟨50, 10⟩ none) ↔
        u.layout.pageCount = Session.firstPage.layout.pageCount ∨
          ∃ page, OnNewPage Session.firstPage.layout u.layout page ∧
            cellsOf counted (.filled ⟨50, 10⟩ none) =
              cellsOf page.grid (.filled ⟨50, 10⟩ none)) := by
  have hrun : ((placeInCells (.bare "PlaceObject" [] []) .root pageArea true none none
      (.filled ⟨50, 10⟩ none)).runWith .bare .firstPage).1.toOption = some () := by
    decide +kernel
  obtain ⟨u, counted, landing, h⟩ := reserved_cells_iff (Action.runWith_of_toOption hrun)
  exact ⟨u, counted, landing, _, h⟩

/-- A first page that is full, where the cells of later pages are half as wide. -/
def narrowCellsNext : Session :=
  ((Interpreter.execute 1 (.bare "SetGrid" [("width", "5pt")] []) .root).runWith .bare
      ((placeInCells (.bare "PlaceObject" [] []) .root pageArea true none none
        (.filled ⟨100, 100⟩ none)).runWith .bare .firstPage).2).2

/-- A box that takes ten columns on the new page gets five of them. -/
theorem reserves_too_few_cells :
    (narrowCellsNext.layout.targetGrid?.map (cellsOf · (.filled ⟨50, 10⟩ none))) = some (5, 1) ∧
    let t := ((placeInCells (.bare "PlaceObject" [] []) .root pageArea true none none
      (.filled ⟨50, 10⟩ none)).runWith .bare narrowCellsNext).2
    (t.layout.targetGrid?.map fun g => (cellsOf g (.filled ⟨50, 10⟩ none),
      (List.range' 1 10).map fun column => g.occupancy.count column 1)) =
      some ((10, 1), [1, 1, 1, 1, 1, 0, 0, 0, 0, 0]) := by
  decide +kernel

end PageGrid.Command
