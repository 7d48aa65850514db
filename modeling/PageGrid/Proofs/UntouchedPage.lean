import PageGrid.Proofs.Overflow

/-!
# Untouched pages

A page on which nothing has happened is as good as a new one, so the flow has no reason to leave it.
It leaves it all the same if the area has several frames and the object fits none of them. The search
ends in the last frame, and whether the flow has moved is asked only then, so that the flow counts as
having moved although the object has not been placed and nothing else has happened. In an area with one
frame the object overflows on the page, as it should.

`untouched_page_turned_iff` says what becomes of an untouched page for every object and every area.
That the frames of the areas are inside the grid, without which size alone would not decide, is what
page types guarantee and no change of a grid undoes.

## Main definitions

* `Page.Untouched` — no items, no marks, and no flow that has moved;
* `Grid.Framed` — the frames of all areas are inside the grid;
* `Command.StaysOpen` — a page is still open, and no page has been handed out.

## Main results

* `Layout.Reachable.framed` — the grids of pages are framed;
* `untouched_page_turned_iff` — when the flow turns an untouched page;
* `untouched_page_can_be_turned` — a page of two frames where it does.
-/

namespace PageGrid

/-- Nothing has been placed on the page, none of its cells is marked, and no flow has moved. -/
structure Page.Untouched {α : Type} (p : Page α) : Prop where
  items : p.items = []
  marks : p.grid.Unmarked
  flows : ∀ a ∈ p.grid.areas, a.atStart = true

/-! ### The frames of the areas -/

/-- The frames of every area are inside the grid. -/
def Grid.Framed {α : Type} (g : Grid α) : Prop :=
  ∀ name a, g.area? name = some a → ∀ f ∈ a.specs, g.holdsFrame f = true

namespace Grid

variable {α : Type} {g g' : Grid α}

theorem Fresh.framed (h : g.Fresh) : g.Framed := fun _ a ha =>
  List.forall_mem_map.mpr (h.areas a (List.mem_of_find?_eq_some ha)).inside

theorem FlowMoved.framed (h : FlowMoved g g') (hg : g.Framed) : g'.Framed := by
  intro name a ha f hf
  obtain ⟨b, hb, hspecs⟩ := h.specs_of_area? ha
  have hheld := hg name b hb f (hspecs ▸ hf)
  rwa [holdsFrame, ← h.columns, ← h.rows] at hheld

/-- Changes of a grid leave the frames inside. -/
theorem Change.framed (h : g.Change g') (hg : g.Framed) : g'.Framed := by
  cases h with
  | flow h => exact (flow_eq_ok h).1.framed hg
  | nextRow h => exact (flowMoved_nextRow h).framed hg
  | advanceFrame h => exact (flowMoved_advanceFrame h).framed hg
  | allocate h =>
    obtain ⟨f, f', hf, hspec, rfl⟩ := allocateBlock_eq_ok h
    exact (flowMoved_updateFrame hf hspec).framed hg

end Grid

/-- **The frames of every page of a run are inside its grid.** -/
theorem Layout.Reachable.framed {l : Layout} (h : l.Reachable) {page : Page Float}
    (hp : l.page = some page) : page.grid.Framed :=
  h.pageGrid (fun hpage => (Grid.fresh_ofType hpage).framed) Grid.Change.framed page hp

namespace Command

variable {setting : Setting} {rule : Rule} {focus : Focus} {s t : Session} {area : String}
  {columns rows : Nat} {page : Page Float} {g : Grid Float}

/-! ### Where the page stays open -/

/-- The page is still open, perhaps with marks and another flow, and no page has been handed out. -/
def StaysOpen (page : Page Float) (s t : Session) : Prop :=
  t.layout.finished = s.layout.finished ∧ ∃ g, t.layout.page = some { page with grid := g }

theorem staysOpen_setTargetGrid (ho : s.layout.openGroups = []) (hp : s.layout.page = some page)
    (g : Grid Float) : StaysOpen page s { s with layout := s.layout.setTargetGrid g } :=
  ⟨Layout.finished_setTargetGrid g, g, Layout.page_setTargetGrid ho hp g⟩

theorem StaysOpen.finished_ne (h : StaysOpen page s t) :
    t.layout.finished ≠ s.layout.finished ++ [page.finish] := by
  rw [h.1]
  simp

/-- The flow finds a place on the page. -/
theorem flowPosition_eq_place {place : Nat × Nat} (ho : s.layout.openGroups = [])
    (hp : s.layout.page = some page)
    (hflow : page.grid.flow columns rows area = .ok (g, some place)) :
    (flowPlace? rule focus area columns rows).runWith setting s =
        (.ok (some place), { s with layout := s.layout.setTargetGrid g }) ∧
      (flowPosition rule focus area columns rows).runWith setting s =
        (.ok place, { s with layout := s.layout.setTargetGrid g }) := by
  have hfirst : (flowPlace? rule focus area columns rows).runWith setting s =
      (.ok (some place), { s with layout := s.layout.setTargetGrid g }) := by
    rw [flowPlace?, Action.runWith_bind_of_ok
      (flowOnTarget_eq_ok.mpr ⟨page.grid, g, Layout.targetGrid?_of_page ho hp, hflow, rfl⟩)]
    rfl
  refine ⟨hfirst, ?_⟩
  rw [flowPosition, Action.runWith_bind_of_ok hfirst]
  rfl

/-- An object that overflows where the flow has not moved begins at the top left. -/
theorem flowPosition_eq_overflow (ho : s.layout.openGroups = []) (hp : s.layout.page = some page)
    (hflow : page.grid.flow columns rows area = .ok (g, none))
    (hstart : g.atFlowStart area = .ok true) :
    ∃ t, (flowPosition rule focus area columns rows).runWith setting s = (.ok (1, 1), t) ∧
      t.layout = s.layout.setTargetGrid g := by
  have hcursor : g.cursor area = .ok (1, 1) := by
    obtain ⟨a, ha, hatStart⟩ := Grid.atFlowStart_eq_ok.mp hstart
    simp only [Area.atStart, Bool.and_eq_true, beq_iff_eq] at hatStart
    rw [Grid.cursor, Grid.frame_eq_ok.mpr ⟨a, ha, rfl⟩]
    simp [Functor.map, Except.map, hatStart]
  have hgrid : (Action.targetGrid rule).runWith setting
      { s with layout := s.layout.setTargetGrid g } =
        (.ok g, { s with layout := s.layout.setTargetGrid g }) :=
    Action.runWith_targetGrid_eq_ok.mpr
      ⟨Layout.targetGrid?_setTargetGrid g (Layout.targetGrid?_of_page ho hp), rfl⟩
  rw [flowPosition, Action.runWith_bind_of_ok (flowPlace?_eq_none ho hp hflow hstart)]
  dsimp only
  rw [overflow, Action.runWith_bind_of_ok hgrid,
    Action.runWith_bind_of_ok (Action.runWith_ofExcept_eq_ok.mpr ⟨hcursor, rfl⟩)]
  exact ⟨_, rfl, rfl⟩

/-! ### Where the page is turned -/

/-- No page has been handed out. -/
def FinishesNone (s : Session) (_ : Option Fault) (t : Session) : Prop :=
  t.layout.finished = s.layout.finished

instance : Session.Sequential FinishesNone where
  refl _ := rfl
  stop _ _ _ := rfl
  trans h h' := Eq.trans h' h

theorem finishesNone_of_quiet {α : Type} {x : Action α} (h : Action.Quiet x) :
    Action.Within FinishesNone x :=
  h.mono fun hs => congrArg Layout.finished hs.remarked.logged.layout_eq

theorem finishesNone_ensureTarget (focus : Focus) :
    Action.Within FinishesNone (Action.ensureTarget focus) := by
  intro setting s
  have hexit := Action.ensureTarget_exit focus setting s
  generalize (Action.ensureTarget focus).runWith setting s = x at hexit ⊢
  obtain ⟨r, t⟩ := x
  cases hexit with
  | present => rfl
  | opened _ _ ho hl =>
    obtain ⟨page, -, rfl⟩ := Layout.openPage_eq_ok.mp ho
    rw [FinishesNone, hl.logged.layout_eq]
  | failed _ _ hl => exact congrArg Layout.finished hl.logged.layout_eq

theorem finishesNone_flowOnTarget (rule : Rule) (area : String) (columns rows : Nat) :
    Action.Within FinishesNone (flowOnTarget rule area columns rows) := by
  refine (finishesNone_of_quiet (Action.quiet_targetGrid rule)).bind fun grid => ?_
  refine (finishesNone_of_quiet (Action.quiet_ofExcept _ _ nofun)).bind fun (grid, place) => ?_
  exact Action.Within.bind (fun _ s => Layout.finished_setTargetGrid (l := s.layout) grid)
    fun _ => .pure place

/-- After the search for a place nothing happens but remarks about an overflow. -/
theorem flowPosition_eq_bind (rule : Rule) (focus : Focus) (area : String) (columns rows : Nat) :
    ∃ f : Option (Nat × Nat) → Action (Nat × Nat), (∀ place, Action.Quiet (f place)) ∧
      flowPosition rule focus area columns rows =
        flowPlace? rule focus area columns rows >>= f := by
  refine ⟨_, fun place => ?_, rfl⟩
  cases place with
  | some place => exact .pure place
  | none => exact quiet_overflow rule area columns rows

/-- Where the flow gives up and has moved, the search comes to the end of the page. -/
theorem flowPlace?_eq_turn (setting : Setting) (rule : Rule) (focus : Focus)
    (ho : s.layout.openGroups = []) (hp : s.layout.page = some page)
    (hflow : page.grid.flow columns rows area = .ok (g, none))
    (hstart : g.atFlowStart area = .ok false) :
    (flowPlace? rule focus area columns rows).runWith setting s =
      (Action.finishPage >>= fun _ => Action.ensureTarget focus >>= fun _ =>
        flowOnTarget rule area columns rows).runWith setting
          { s with layout := s.layout.setTargetGrid g } := by
  have htarget := Layout.targetGrid?_of_page ho hp
  have hfirst : (flowOnTarget rule area columns rows).runWith setting s =
      (.ok none, { s with layout := s.layout.setTargetGrid g }) :=
    flowOnTarget_eq_ok.mpr ⟨page.grid, g, htarget, hflow, rfl⟩
  have hgrid : (Action.targetGrid rule).runWith setting
      { s with layout := s.layout.setTargetGrid g } =
        (.ok g, { s with layout := s.layout.setTargetGrid g }) :=
    Action.runWith_targetGrid_eq_ok.mpr ⟨Layout.targetGrid?_setTargetGrid g htarget, rfl⟩
  have hgroup : (s.layout.setTargetGrid g).inGroup = false := by
    rw [Layout.inGroup_setTargetGrid, Layout.inGroup_eq_false.mpr ho]
  rw [flowPlace?, Action.runWith_bind_of_ok hfirst]
  dsimp only
  rw [Action.runWith_bind_of_ok hgrid,
    Action.runWith_bind_of_ok (Action.runWith_ofExcept_eq_ok.mpr ⟨hstart, rfl⟩),
    Action.layout_bind, hgroup]
  rfl

/-- The page is handed out, and no other page is, whether or not the next page can be opened and has room. -/
theorem finished_flowPosition (ho : s.layout.openGroups = []) (hp : s.layout.page = some page)
    (hflow : page.grid.flow columns rows area = .ok (g, none))
    (hstart : g.atFlowStart area = .ok false)
    (htaken : setting.sink.takes s.layout.finished page.finish = true) :
    ((flowPosition rule focus area columns rows).runWith setting s).2.layout.finished =
      s.layout.finished ++ [page.finish] := by
  have htaken : (s.layout.setTargetGrid g).isTaken setting.sink = true := by
    rw [Layout.isTaken_setTargetGrid, Layout.isTaken_of_page hp, htaken]
  have hfinish : (s.layout.setTargetGrid g).finishPage.finished =
      s.layout.finished ++ [page.finish] := by
    rw [Layout.finishPage_setTargetGrid ho hp]
  obtain ⟨f, hquiet, hf⟩ := flowPosition_eq_bind rule focus area columns rows
  -- what comes after the end of the page
  let next := Action.ensureTarget focus >>= fun _ => flowOnTarget rule area columns rows
  have hrest : Action.Within FinishesNone (next >>= f) :=
    ((finishesNone_ensureTarget focus).bind fun _ =>
      finishesNone_flowOnTarget rule area columns rows).bind fun place =>
        finishesNone_of_quiet (hquiet place)
  have hturn : (flowPlace? rule focus area columns rows).runWith setting s =
      next.runWith setting { s with layout := (s.layout.setTargetGrid g).finishPage } := by
    rw [flowPlace?_eq_turn setting rule focus ho hp hflow hstart,
      Action.runWith_bind_of_ok (Action.runWith_finishPage_of_taken htaken)]
  have hrun : (flowPosition rule focus area columns rows).runWith setting s =
      (next >>= f).runWith setting { s with layout := (s.layout.setTargetGrid g).finishPage } := by
    rw [hf, Action.runWith_bind, Action.runWith_bind next, hturn]
  rw [hrun, ← hfinish]
  exact hrest setting _

/-- The page is refused, and the search stops without it. -/
theorem flowPosition_of_refused (rule : Rule) (focus : Focus) (ho : s.layout.openGroups = [])
    (hp : s.layout.page = some page) (hflow : page.grid.flow columns rows area = .ok (g, none))
    (hstart : g.atFlowStart area = .ok false)
    (hrefused : setting.sink.takes s.layout.finished page.finish = false) :
    ∃ t, (flowPlace? rule focus area columns rows).runWith setting s =
        (.error (.ofCause .fileAccess), t) ∧
      (flowPosition rule focus area columns rows).runWith setting s =
        (.error (.ofCause .fileAccess), t) ∧
      t.layout.page = none ∧ t.layout.finished = s.layout.finished := by
  have hrefused : (s.layout.setTargetGrid g).isTaken setting.sink = false := by
    rw [Layout.isTaken_setTargetGrid, Layout.isTaken_of_page hp, hrefused]
  have hturn := flowPlace?_eq_turn setting rule focus ho hp hflow hstart
  rw [Action.runWith_bind, Action.runWith_finishPage_of_refused hrefused] at hturn
  refine ⟨_, hturn, ?_, rfl, Layout.finished_setTargetGrid g⟩
  rw [flowPosition, Action.runWith_bind, hturn]

/-! ### The flow on an untouched page -/

/-- What becomes of an open page and an object without a position: the area is missing, or the object
is placed at the top left of a frame, or it overflows from the top left of the only frame, or the page
is handed out and taken, or refused. -/
inductive FlowExit (sink : PageSink) (area : String) (columns rows : Nat) (page : Page Float) (s : Session) :
    Except Fault (Option (Nat × Nat)) → Except Fault (Nat × Nat) × Session → Prop
  | missing {found} : page.grid.area? area = none →
      FlowExit sink area columns rows page s found (.error (.ofCause (.grid (.unknownArea area))), s)
  | placed {a t} : page.grid.area? area = some a → (∃ f ∈ a.specs, f.Fits columns rows) →
      StaysOpen page s t → FlowExit sink area columns rows page s (.ok (some (1, 1))) (.ok (1, 1), t)
  | overflow {a f t} : page.grid.area? area = some a → a.specs = [f] → ¬ f.Fits columns rows →
      StaysOpen page s t → FlowExit sink area columns rows page s (.ok none) (.ok (1, 1), t)
  | turned {a found placed} : page.grid.area? area = some a → 2 ≤ a.specs.length →
      (∀ f ∈ a.specs, ¬ f.Fits columns rows) → sink.takes s.layout.finished page.finish = true →
      placed.2.layout.finished = s.layout.finished ++ [page.finish] →
        FlowExit sink area columns rows page s found placed
  | refused {a t} : page.grid.area? area = some a → 2 ≤ a.specs.length →
      (∀ f ∈ a.specs, ¬ f.Fits columns rows) → sink.takes s.layout.finished page.finish = false →
      t.layout.page = none → t.layout.finished = s.layout.finished →
        FlowExit sink area columns rows page s (.error (.ofCause .fileAccess))
          (.error (.ofCause .fileAccess), t)

/-- **Exits.** -/
theorem flowPosition_exit_of_untouched (setting : Setting) (rule : Rule) (focus : Focus)
    (area : String) (columns rows : Nat) (hs : s.layout.Reachable) (hg : s.layout.inGroup = false)
    (hp : s.layout.page = some page) (hu : page.Untouched) :
    FlowExit setting.sink area columns rows page s
      ((flowPlace? rule focus area columns rows).runWith setting s).1
      ((flowPosition rule focus area columns rows).runWith setting s) := by
  have ho := Layout.inGroup_eq_false.mp hg
  cases ha : page.grid.area? area with
  | none =>
    have hgrid : (Action.targetGrid rule).runWith setting s = (.ok page.grid, s) :=
      Action.runWith_targetGrid_eq_ok.mpr ⟨Layout.targetGrid?_of_page ho hp, rfl⟩
    have hflow : page.grid.flow columns rows area = .error (.unknownArea area) := by
      rw [Grid.flow, Grid.area, ha]
      rfl
    have hplaced : (flowPosition rule focus area columns rows).runWith setting s =
        (.error (.ofCause (.grid (.unknownArea area))), s) := by
      rw [flowPosition, flowPlace?, flowOnTarget, bind_assoc, bind_assoc,
        Action.runWith_bind_of_ok hgrid, hflow]
      rfl
    rw [hplaced]
    exact .missing ha
  | some a =>
    obtain ⟨g, ⟨hfits, hflow⟩ | ⟨hnone, hflow, hstop⟩⟩ := Grid.flow_of_unmarked columns rows hu.marks
      (hs.framed hp area a ha) ha (hu.flows a (List.mem_of_find?_eq_some ha))
    · obtain ⟨hfound, hplaced⟩ := flowPosition_eq_place ho hp hflow
      rw [hfound, hplaced]
      exact .placed ha hfits (staysOpen_setTargetGrid ho hp g)
    · by_cases hone : a.specs.length = 1
      · rw [decide_eq_true hone] at hstop
        obtain ⟨f, hf⟩ := List.length_eq_one_iff.mp hone
        obtain ⟨t, hplaced, hlayout⟩ := flowPosition_eq_overflow ho hp hflow hstop
        rw [flowPlace?_eq_none ho hp hflow hstop, hplaced]
        refine .overflow ha hf (hnone f (by simp [hf])) ?_
        rw [StaysOpen, hlayout]
        exact staysOpen_setTargetGrid ho hp g
      · rw [decide_eq_false hone] at hstop
        have hpos : 0 < a.specs.length := List.length_pos_iff.mpr (by simp [Area.specs, Area.frames])
        cases htakes : setting.sink.takes s.layout.finished page.finish with
        | true =>
          exact .turned ha (by omega) hnone htakes (finished_flowPosition ho hp hflow hstop htakes)
        | false =>
          obtain ⟨t, hfound, hplaced, hpage, hfinished⟩ :=
            flowPosition_of_refused rule focus ho hp hflow hstop htakes
          rw [hfound, hplaced]
          exact .refused ha (by omega) hnone htakes hpage hfinished

/-- **When an untouched page is turned.** Outside groups the flow hands an untouched page out, with
nothing on it, exactly if the area has several frames and the object fits none of them, and the page is lost
then if the sink refuses it. Otherwise the page stays open: an object that fits a frame is placed there at
the top left, and one that does not fit the only frame of its area overflows from its top left. -/
theorem untouched_page_turned_iff (setting : Setting) (rule : Rule) (focus : Focus) (area : String)
    (columns rows : Nat) (s : Session) (page : Page Float) (hs : s.layout.Reachable)
    (hg : s.layout.inGroup = false) (hp : s.layout.page = some page) (hu : page.Untouched) :
    let found := (flowPlace? rule focus area columns rows).runWith setting s
    let placed := (flowPosition rule focus area columns rows).runWith setting s
    (placed.2.layout.finished = s.layout.finished ++ [page.finish] ↔
      setting.sink.takes s.layout.finished page.finish = true ∧
        ∃ a, page.grid.area? area = some a ∧ 2 ≤ a.specs.length ∧
          ∀ f ∈ a.specs, ¬ f.Fits columns rows) ∧
    (∀ a, page.grid.area? area = some a → (∃ f ∈ a.specs, f.Fits columns rows) →
      found.1 = .ok (some (1, 1)) ∧ placed.1 = .ok (1, 1) ∧ StaysOpen page s placed.2) ∧
    (∀ a f, page.grid.area? area = some a → a.specs = [f] → ¬ f.Fits columns rows →
      found.1 = .ok none ∧ placed.1 = .ok (1, 1) ∧ StaysOpen page s placed.2) ∧
    (page.grid.area? area = none → placed.2 = s) ∧
    (∀ a, page.grid.area? area = some a → 2 ≤ a.specs.length →
      (∀ f ∈ a.specs, ¬ f.Fits columns rows) →
        setting.sink.takes s.layout.finished page.finish = false →
          found.1 = .error (.ofCause .fileAccess) ∧ placed.1 = .error (.ofCause .fileAccess) ∧
            placed.2.layout.page = none ∧ placed.2.layout.finished = s.layout.finished) := by
  intro found placed
  have hexit := flowPosition_exit_of_untouched setting rule focus area columns rows hs hg hp hu
  change FlowExit setting.sink area columns rows page s found.1 placed at hexit
  generalize found.1 = found, placed = placed at hexit ⊢
  cases hexit with
  | missing ha =>
    rw [ha]
    simp
  | placed ha hfits hstays =>
    obtain ⟨f, hf, hfit⟩ := hfits
    rw [ha]
    refine ⟨⟨fun h => absurd h hstays.finished_ne, ?_⟩, fun _ _ _ => ⟨rfl, rfl, hstays⟩, ?_, nofun, ?_⟩
    · rintro ⟨-, _, ⟨⟩, -, hnone⟩
      exact absurd hfit (hnone f hf)
    · rintro _ f' ⟨⟩ hspecs hnone
      rw [hspecs, List.mem_singleton] at hf
      exact absurd (hf ▸ hfit) hnone
    · rintro _ ⟨⟩ - hnone
      exact absurd hfit (hnone f hf)
  | overflow ha hspecs hnone hstays =>
    rw [ha]
    refine ⟨⟨fun h => absurd h hstays.finished_ne, ?_⟩, ?_, fun _ _ _ _ _ => ⟨rfl, rfl, hstays⟩,
      nofun, ?_⟩
    · rintro ⟨-, _, ⟨⟩, htwo, -⟩
      simp [hspecs] at htwo
    · rintro _ ⟨⟩ ⟨f, hf, hfit⟩
      rw [hspecs, List.mem_singleton] at hf
      exact absurd (hf ▸ hfit) hnone
    · rintro _ ⟨⟩ htwo
      simp [hspecs] at htwo
  | turned ha htwo hnone htakes hturned =>
    rw [ha]
    refine ⟨⟨fun _ => ⟨htakes, _, rfl, htwo, hnone⟩, fun _ => hturned⟩, ?_, ?_, nofun,
      fun _ _ _ _ hrefused => ?_⟩
    · rintro _ ⟨⟩ ⟨f, hf, hfit⟩
      exact absurd hfit (hnone f hf)
    · rintro _ f ⟨⟩ hspecs -
      simp [hspecs] at htwo
    · cases htakes.symm.trans hrefused
  | refused ha htwo hnone hrefuses hpage hfinished =>
    rw [ha]
    refine ⟨⟨fun h => ?_, fun h => ?_⟩, ?_, ?_, nofun, fun _ _ _ _ _ => ⟨rfl, rfl, hpage, hfinished⟩⟩
    · simp [hfinished] at h
    · cases hrefuses.symm.trans h.1
    · rintro _ ⟨⟩ ⟨f, hf, hfit⟩
      exact absurd hfit (hnone f hf)
    · rintro _ f ⟨⟩ hspecs -
      simp [hspecs] at htwo

/-! ### An area of two columns -/

/-- Pages with an area of two frames side by side, each half as wide as the page. -/
def twoColumns : PageType Float :=
  ⟨"columns", "true()", .all 10, [⟨"text", [⟨1, 1, 5, 10⟩, ⟨6, 1, 5, 10⟩]⟩]⟩

/-- The start of a layout with these pages. -/
def columnsLayout : Layout :=
  { Layout.tenByTen with pageTypes := Layout.tenByTen.pageTypes.register twoColumns }

/-- A session of this layout with its first page. -/
def columnsPage : Session :=
  ((Action.ensureTarget .root).runWith .bare (.start columnsLayout)).2

theorem reachable_columnsPage : columnsPage.layout.Reachable := by
  rw [columnsPage]
  have hregister : Layout.tenByTen.Reaches columnsLayout :=
    .single (.change (.register .tenByTen twoColumns))
  have htame : Action.Tame False (Action.ensureTarget .root) := Action.tame_ensureTarget .root
  exact (Layout.reachable_tenByTen.trans hregister).trans
    (htame .bare (.start columnsLayout)).reaches

theorem page_columnsPage :
    ∃ page, columnsPage.layout.page = some page ∧ page.Untouched ∧
      page.grid.area? "text" = some ⟨"text", [], .ofSpec ⟨1, 1, 5, 10⟩, [.ofSpec ⟨6, 1, 5, 10⟩]⟩ ∧
      page.grid.area? pageArea = some (.single pageArea ⟨1, 1, 10, 10⟩) := by
  have hpage : columnsPage.layout.page.map
      (fun page => (page.items.isEmpty, page.grid.occupancy, page.grid.areas)) =
      some (true, .empty, [⟨"text", [], .ofSpec ⟨1, 1, 5, 10⟩, [.ofSpec ⟨6, 1, 5, 10⟩]⟩,
        .single pageArea ⟨1, 1, 10, 10⟩]) := by
    decide +kernel
  obtain ⟨page, hp, heq⟩ := Option.map_eq_some_iff.mp hpage
  obtain ⟨hitems, hmarks, hareas⟩ : _ ∧ _ ∧ _ := by simpa using heq
  refine ⟨page, hp, ⟨hitems, fun c r _ => by rw [hmarks]; rfl, ?_⟩, ?_, ?_⟩
  · rw [hareas]
    decide
  · rw [Grid.area?, hareas]
    decide
  · rw [Grid.area?, hareas]
    decide

theorem untouched_page_turned_iff_columnsPage :
    let run (area : String) (columns rows : Nat) :=
      (flowPosition (.bare "PlaceObject" [] []) .root area columns rows).runWith .bare columnsPage
    ∃ page, columnsPage.layout.Reachable ∧ columnsPage.layout.inGroup = false ∧
      columnsPage.layout.page = some page ∧ page.Untouched ∧
      -- too wide for both columns
      (run "text" 6 1).2.layout.finished = columnsPage.layout.finished ++ [page.finish] ∧
      -- as wide as a column
      StaysOpen page columnsPage (run "text" 5 1).2 ∧
      -- too wide for the whole page, which is one frame
      (run pageArea 11 1).1 = .ok (1, 1) ∧ StaysOpen page columnsPage (run pageArea 11 1).2 ∧
      (run "margin" 1 1).2 = columnsPage := by
  dsimp only
  obtain ⟨page, hp, hu, htext, hwhole⟩ := page_columnsPage
  have hg : columnsPage.layout.inGroup = false := by decide +kernel
  have hmargin : page.grid.area? "margin" = none := by
    have h : (columnsPage.layout.page.bind (·.grid.area? "margin")).isNone = true := by
      decide +kernel
    rw [hp] at h
    exact Option.isNone_iff_eq_none.mp h
  have hrun (area : String) (columns rows : Nat) := untouched_page_turned_iff .bare
    (.bare "PlaceObject" [] []) .root area columns rows columnsPage page reachable_columnsPage hg hp hu
  have hoverflow := (hrun pageArea 11 1).2.2.1 _ ⟨1, 1, 10, 10⟩ hwhole (by decide) (by decide)
  have hturned := (hrun "text" 6 1).1.mpr ⟨rfl, _, htext, by decide, by decide⟩
  have hplaced := (hrun "text" 5 1).2.1 _ htext ⟨_, .head _, by decide⟩
  refine ⟨page, reachable_columnsPage, hg, hp, hu, hturned, hplaced.2.2, hoverflow.2.1, hoverflow.2.2,
    (hrun "margin" 1 1).2.2.2.1 hmargin⟩

/-- An untouched page can be handed out with nothing on it. -/
theorem untouched_page_can_be_turned :
    ¬ ∀ (setting : Setting) (rule : Rule) (focus : Focus) (area : String) (columns rows : Nat)
        (s : Session) (page : Page Float),
      s.layout.Reachable → s.layout.inGroup = false → s.layout.page = some page → page.Untouched →
        ((flowPosition rule focus area columns rows).runWith setting s).2.layout.finished =
          s.layout.finished := by
  intro h
  obtain ⟨page, hp, hu, -, -⟩ := page_columnsPage
  have hkept := congrArg List.length (h .bare (.bare "PlaceObject" [] []) .root "text" 6 1 columnsPage
    page reachable_columnsPage (by decide +kernel) hp hu)
  revert hkept
  decide +kernel

end Command

end PageGrid
