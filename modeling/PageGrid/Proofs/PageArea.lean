import PageGrid.Proofs.Effect
import PageGrid.Proofs.Grid.Reachable
import PageGrid.Proofs.Grid.TypeArea

/-!
# The area of the whole page

Every grid is built with an area that covers it, and content goes to this area unless another one is named.
The name of the area is a name like any other: a page type may declare an area under it, and then the frames
that it gives take the place of the one that covers the grid. So the area covers the grid of a page unless
the last area that its type declares under the name has other frames. Nobody declares areas on the grids of
groups, and their area always covers them.

Once a grid is there, nothing changes the frames of its areas: content moves cursors and goes on to later
frames, and it leaves marks.

## Main definitions

* `Grid.specs?` — the frames of an area by its name;
* `Grid.PageAreaSpans` — the page area is one frame that covers the grid;
* `lastDeclared?` — the frames that a page type declares for an area;
* `Grid.SameFrames` — two grids have the same cells and the same frames;
* `Layout.OpenedFrom` — the page has the areas of a type that had been declared.

## Main results

* `Grid.specs?_ofType` — the areas of a new page;
* `Layout.Reachable.openedFrom` — the open page has the areas with which it was opened;
* `Layout.Reachable.pageAreaSpans` — the page area of groups;
* `page_area_spans_iff` — both, for the layouts of runs.
-/

namespace PageGrid

variable {α : Type}

/-- The frames that are declared for an area; the last declaration under a name counts. -/
def lastDeclared? (areas : List AreaDefinition) (name : String) : Option (List FrameSpec) :=
  (areas.reverse.find? (·.name = name)).map (·.frames)

theorem lastDeclared?_cons (a : AreaDefinition) (areas : List AreaDefinition) (name : String) :
    lastDeclared? (a :: areas) name =
      (lastDeclared? areas name).or (if name = a.name then some a.frames else none) := by
  rw [lastDeclared?, List.reverse_cons, List.find?_append, Option.map_or]
  congr 1
  by_cases hname : name = a.name
  · simp [hname]
  · simp [hname, Ne.symm hname]

namespace Grid

variable {g g' : Grid α} {name : String}

/-! ### The frames of areas -/

/-- The frames of an area, without their cursors. -/
def specs? (g : Grid α) (name : String) : Option (List FrameSpec) := (g.area? name).map Area.specs

/-- The frame that covers the grid. -/
def whole (g : Grid α) : FrameSpec := ⟨1, 1, g.columns, g.rows⟩

/-- The page area consists of one frame, which covers the grid. -/
def PageAreaSpans (g : Grid α) : Prop := g.specs? pageArea = some [g.whole]

/-- The cells and the frames of all areas are the same. -/
structure SameFrames (g g' : Grid α) : Prop where
  whole : g'.whole = g.whole
  specs : ∀ name, g'.specs? name = g.specs? name

instance : IsPreorder (Grid α) SameFrames where
  refl _ := ⟨rfl, fun _ => rfl⟩
  trans _ _ _ h h' := ⟨h'.whole.trans h.whole, fun name => (h'.specs name).trans (h.specs name)⟩

theorem SameFrames.spans (h : SameFrames g g') (hg : g.PageAreaSpans) : g'.PageAreaSpans := by
  rw [PageAreaSpans, h.specs, h.whole]
  exact hg

theorem FlowMoved.sameFrames (h : FlowMoved g g') : SameFrames g g' := by
  have hcolumns : g'.columns = g.columns := congrArg Axis.count h.horizontal
  have hrows : g'.rows = g.rows := congrArg Axis.count h.vertical
  exact ⟨by rw [Grid.whole, hcolumns, hrows, Grid.whole], h.specs⟩

theorem sameFrames_allocateBlock {x y : Int} {columns rows : Nat} {breach : Breach}
    (h : g.allocateBlock x y columns rows name = .ok (g', breach)) : SameFrames g g' := by
  obtain ⟨f, f', hf, hspec, rfl⟩ := allocateBlock_eq_ok h
  obtain ⟨a, ha, rfl⟩ := frame_eq_ok.mp hf
  refine ⟨rfl, fun n => ?_⟩
  rw [specs?, area?_updateFrame]
  split
  · next hn =>
    subst hn
    change ((g.area? n).map _).map Area.specs = (g.area? n).map Area.specs
    rw [ha]
    exact congrArg some (a.specs_updateActive hspec)
  · rfl

/-- **What commands do to a grid** keeps the frames. -/
theorem Change.sameFrames (h : Change g g') : SameFrames g g' := by
  cases h with
  | flow h => exact (flow_eq_ok h).1.sameFrames
  | nextRow h => exact (flowMoved_nextRow h).sameFrames
  | advanceFrame h => exact (flowMoved_advanceFrame h).sameFrames
  | allocate h => exact sameFrames_allocateBlock h

/-! ### The frames of new grids -/

theorem specs?_build (horizontal vertical : Axis α) (margins : Margins α) (groupScoped : Bool) (n : String) :
    (build horizontal vertical margins groupScoped).specs? n =
      if n = pageArea then some [(build horizontal vertical margins groupScoped).whole] else none := by
  by_cases hn : n = pageArea
  · subst hn
    rfl
  · simp [specs?, area?, build, Area.single, hn, Ne.symm hn]

theorem pageAreaSpans_groupGrid [Scalar α] (g : Grid α) : g.groupGrid.PageAreaSpans :=
  (specs?_build _ _ _ _ pageArea).trans (if_pos rfl)

theorem specs?_defineArea {frames : List FrameSpec} (h : g.defineArea name frames = .ok g') (n : String) :
    g'.specs? n = if n = name then some frames else g.specs? n := by
  obtain ⟨a, ha, -, rfl⟩ := defineArea_eq_ok h
  have hframes : a.specs = frames := by
    cases frames with
    | nil => cases ha
    | cons f fs =>
      cases ha
      simp [Area.specs, Area.frames, Frame.ofSpec, Function.comp_def]
  rw [specs?, area?_defineArea ha]
  split
  · rw [Option.map_some, hframes]
  · rfl

theorem whole_defineArea {frames : List FrameSpec} (h : g.defineArea name frames = .ok g') :
    g'.whole = g.whole := by
  obtain ⟨a, -, -, rfl⟩ := defineArea_eq_ok h
  rfl

/-- Of the areas that are defined under a name, the last one is there. By induction on the areas, from the
last one on. -/
theorem specs?_foldlM {areas : List AreaDefinition}
    (h : areas.foldlM (fun g a => g.defineArea a.name a.frames) g = .ok g') :
    g'.whole = g.whole ∧ ∀ n, g'.specs? n = (lastDeclared? areas n).or (g.specs? n) := by
  induction areas generalizing g with
  | nil =>
    cases h
    exact ⟨rfl, fun n => rfl⟩
  | cons a rest ih =>
    obtain ⟨g₁, h₁, h⟩ := bind_eq_ok.mp h
    obtain ⟨hwhole, hspecs⟩ := ih h
    refine ⟨hwhole.trans (whole_defineArea h₁), fun n => ?_⟩
    rw [hspecs, specs?_defineArea h₁, lastDeclared?_cons, Option.or_assoc]
    by_cases hn : n = a.name
    · rw [if_pos hn, if_pos hn, Option.some_or]
    · rw [if_neg hn, if_neg hn, Option.none_or]

/-- **The areas of a new page** are those that its type declares, and the page area. -/
theorem specs?_ofType {number : Nat} {type : PageType Float} {size : Size Float}
    {settings : GridSettings Float} {page : Page Float}
    (h : Page.ofType number type size settings = .ok page) (n : String) :
    page.grid.specs? n =
      (lastDeclared? type.areas n).or (if n = pageArea then some [page.grid.whole] else none) := by
  obtain ⟨g₀, h₀, h⟩ := bind_eq_ok.mp h
  obtain ⟨g₁, h₁, h⟩ := bind_eq_ok.mp h
  cases h
  obtain ⟨-, horizontal, vertical, -, -, -, rfl⟩ := forPage_eq_ok_iff.mp h₀
  obtain ⟨hwhole, hspecs⟩ := specs?_foldlM h₁
  rw [hspecs, specs?_build, hwhole]

end Grid

/-! ### Layouts -/

namespace Layout

variable {l : Layout} {p : Page Float}

/-- The page was opened for a type that had been declared, and has the areas with which it was opened. -/
def OpenedFrom (l : Layout) (type : PageType Float) (p : Page Float) : Prop :=
  ∃ (m : Layout) (opened : Page Float), m.Reachable ∧ m.Reaches l ∧ type ∈ m.pageTypes.types ∧
    Page.ofType (m.pageCount + 1) type m.pageSize m.gridSettings = .ok opened ∧
    p.pageType = type.name ∧ opened.grid.SameFrames p.grid

/-- **Where the open page comes from.** By induction on the steps, of which each keeps the frames of a page
that was there. -/
theorem Reachable.openedFrom (h : l.Reachable) (hp : l.page = some p) : ∃ type, l.OpenedFrom type p := by
  obtain ⟨size, margins, settings, references, strict, nextId, h⟩ := h
  induction h generalizing p with
  | refl => cases hp
  | @tail m l hm hstep ih =>
    have hreachable : m.Reachable := ⟨size, margins, settings, references, strict, nextId, hm⟩
    obtain ⟨p₀, hp₀, hname, hgrid⟩ | ⟨type, htype, hopened⟩ := hstep.page_origin hp
    · have hsame : p₀.grid.SameFrames p.grid := by
        obtain hgrid | hgrid := hgrid
        · exact hgrid ▸ refl_of Grid.SameFrames p.grid
        · exact hgrid.sameFrames
      obtain ⟨type, k, opened, hk, hkm, htype, hopened, hname₀, hsame₀⟩ := ih hp₀
      exact ⟨type, k, opened, hk, hkm.tail hstep, htype, hopened, hname.trans hname₀,
        trans_of Grid.SameFrames hsame₀ hsame⟩
    · exact ⟨type, m, p, hreachable, .single hstep, htype, hopened, pageType_of_ofType hopened,
        refl_of Grid.SameFrames p.grid⟩

/-- The page has the areas that its type declares, and the page area. -/
theorem OpenedFrom.specs? {type : PageType Float} (h : l.OpenedFrom type p) (n : String) :
    p.grid.specs? n =
      (lastDeclared? type.areas n).or (if n = pageArea then some [p.grid.whole] else none) := by
  obtain ⟨m, opened, -, -, -, hopened, -, hsame⟩ := h
  rw [hsame.specs, Grid.specs?_ofType hopened, hsame.whole]

/-! ### Groups -/

/-- **The page area of a group** covers its grid. -/
theorem Reachable.pageAreaSpans (h : l.Reachable) : ∀ g ∈ l.groupGrids, g.PageAreaSpans := by
  obtain ⟨size, margins, settings, references, strict, nextId, h⟩ := h
  induction h with
  | refl => nofun
  | tail _ hstep ih =>
    exact hstep.forall_groupGrids (fun {g} _ => g.pageAreaSpans_groupGrid)
      (fun hchange hg => hchange.sameFrames.spans hg) ih

end Layout

/-! ### Content without an area -/

/-- The cells of a page area that covers the grid are those of the grid. -/
theorem Grid.PageAreaSpans.cells {g : Grid Float} (h : g.PageAreaSpans) :
    g.frameWidth pageArea = .ok g.columns ∧
      ∀ column row, g.posX column pageArea = .ok (g.margins.left + g.horizontal.offset column) ∧
        g.posY row pageArea = .ok (g.margins.top + g.vertical.offset row) := by
  obtain ⟨a, ha, hspecs⟩ := Option.map_eq_some_iff.mp h
  have hactive : a.active.toFrameSpec = g.whole := by
    have hmem : a.active.toFrameSpec ∈ a.specs := List.mem_map_of_mem (by simp [Area.frames])
    rw [hspecs] at hmem
    exact List.mem_singleton.mp hmem
  have hframe : g.frame pageArea = .ok a.active := frame_eq_ok.mpr ⟨a, ha, rfl⟩
  have hcolumn : a.active.column = 1 := congrArg FrameSpec.column hactive
  have hrow : a.active.row = 1 := congrArg FrameSpec.row hactive
  have hwidth : a.active.width = g.columns := congrArg FrameSpec.width hactive
  refine ⟨?_, fun column row => ⟨?_, ?_⟩⟩
  · rw [frameWidth, hframe]
    exact congrArg Except.ok hwidth
  · have hat : a.active.absoluteColumn column = column := by rw [Frame.absoluteColumn, hcolumn]; omega
    rw [posX, hframe]
    exact congrArg (fun c => Except.ok (g.margins.left + g.horizontal.offset c)) hat
  · have hat : a.active.absoluteRow row = row := by rw [Frame.absoluteRow, hrow]; omega
    rw [posY, hframe]
    exact congrArg (fun r => Except.ok (g.margins.top + g.vertical.offset r)) hat

/-- A block of text without a width is as wide as the page area. -/
theorem Command.defaultWidth_eq_ok {rule : Rule} {focus : Focus} {setting : Setting} {s t : Session}
    {width : Float} (h : (defaultWidth rule focus).runWith setting s = (.ok width, t)) :
    ∃ g columns, t.layout.targetGrid? = some g ∧ g.frameWidth pageArea = .ok columns ∧
      width = g.horizontal.span columns := by
  obtain ⟨_, u, -, h⟩ := Action.runWith_bind_eq_ok.mp h
  obtain ⟨g, hg, h⟩ := Action.targetGrid_bind_eq_ok.mp h
  obtain ⟨columns, hcolumns, h⟩ := Action.ofExcept_bind_eq_ok.mp h
  cases h
  exact ⟨g, columns, hg, hcolumns, rfl⟩

/-- **The page area** covers the grids of all groups. On the open page of a run its frames are those that the
type of the page declares for it last, and it covers the grid unless the type declares other ones. Where it
covers the grid, content that names no area uses all cells: a cell of the area is the cell of the grid, and a
block of text is as wide as all columns. -/
theorem page_area_spans_iff {l : Layout} (h : l.Reachable) :
    (∀ p, l.page = some p → ∃ type, l.OpenedFrom type p ∧
      (∀ name, p.grid.specs? name = (lastDeclared? type.areas name).or
        (if name = pageArea then some [p.grid.whole] else none)) ∧
      (p.grid.PageAreaSpans ↔
        ∀ frames, lastDeclared? type.areas pageArea = some frames → frames = [p.grid.whole])) ∧
    (∀ g ∈ l.groupGrids, g.PageAreaSpans) ∧
    (∀ g : Grid Float, g.PageAreaSpans → g.frameWidth pageArea = .ok g.columns ∧
      ∀ column row, g.posX column pageArea = .ok (g.margins.left + g.horizontal.offset column) ∧
        g.posY row pageArea = .ok (g.margins.top + g.vertical.offset row)) ∧
    ∀ (rule : Rule) (focus : Focus) (setting : Setting) (s t : Session) (width : Float),
      t.layout = l → (Command.defaultWidth rule focus).runWith setting s = (.ok width, t) →
      ∃ g, l.targetGrid? = some g ∧ (g.PageAreaSpans → width = g.horizontal.span g.columns) := by
  refine ⟨fun p hp => ?_, h.pageAreaSpans, fun g hg => hg.cells, fun rule focus setting s t width ht hrun => ?_⟩
  · obtain ⟨type, hfrom⟩ := h.openedFrom hp
    refine ⟨type, hfrom, hfrom.specs?, ?_⟩
    rw [Grid.PageAreaSpans, hfrom.specs?, if_pos rfl]
    cases lastDeclared? type.areas pageArea <;> simp
  · obtain ⟨g, columns, hg, hcolumns, rfl⟩ := Command.defaultWidth_eq_ok hrun
    refine ⟨g, ht ▸ hg, fun hspans => ?_⟩
    obtain rfl := Except.ok.inj (hcolumns.symm.trans hspans.cells.1)
    rfl

/-! ### A page area of another size -/

/-- Rules that declare a page type with a small area under the name of the page area, lay out a group, and
place a box without naming an area. -/
def redeclaringPageArea : List Rule :=
  [.bare "Pagetype" [("name", "small"), ("test", "true()")]
      [.bare "PositioningArea" [("name", "_page")]
        [.bare "PositioningFrame" [("column", "3"), ("row", "3"), ("width", "2"), ("height", "2")] []]],
    .bare "Group" [("name", "g")] [.bare "Contents" [] []],
    .bare "PlaceObject" [] [.bare "Box" [("width", "1"), ("height", "1")] []]]

/-- The session after these rules. -/
def Session.smallPageArea : Session :=
  ((Interpreter.executeAll (Interpreter.execute 3) .root redeclaringPageArea).runWith .bare
    (.start .tenByTen)).2

theorem reachable_smallPageArea : Session.smallPageArea.layout.Reachable := by
  rw [Session.smallPageArea]
  have htame : Action.Tame True
      (Interpreter.executeAll (Interpreter.execute 3) .root redeclaringPageArea) :=
    Interpreter.tame_executeAll (Interpreter.tame_execute 3) .root redeclaringPageArea
  exact Layout.reachable_tenByTen.trans (htame .bare (.start .tenByTen)).reaches

/-- There are a page and a group, and the box is in the third column and row of the page. -/
theorem page_smallPageArea :
    ∃ p, Session.smallPageArea.layout.page = some p ∧ p.grid.specs? pageArea = some [⟨3, 3, 2, 2⟩] ∧
      p.grid.whole = ⟨1, 1, 10, 10⟩ ∧ p.items.map (fun i => (i.x == 30 && i.y == 30)) = [true] := by
  have hpage : Session.smallPageArea.layout.page.map (fun p => (p.grid.specs? pageArea, p.grid.whole,
      p.items.map fun i => (i.x == 30 && i.y == 30))) =
        some (some [⟨3, 3, 2, 2⟩], ⟨1, 1, 10, 10⟩, [true]) := by
    decide +kernel
  generalize Session.smallPageArea.layout.page = found at hpage ⊢
  obtain ⟨p, hp, heq⟩ := Option.map_eq_some_iff.mp hpage
  obtain ⟨hspecs, heq⟩ := Prod.mk.inj heq
  obtain ⟨hwhole, hitems⟩ := Prod.mk.inj heq
  exact ⟨p, hp, hspecs, hwhole, hitems⟩

/-- On this page the area is the one that its type declares, while the area of the group covers its grid. -/
theorem page_area_spans_iff_smallPageArea :
    ∃ p type g, Session.smallPageArea.layout.page = some p ∧
      Session.smallPageArea.layout.OpenedFrom type p ∧
      lastDeclared? type.areas pageArea = some [⟨3, 3, 2, 2⟩] ∧ g ∈ Session.smallPageArea.layout.groupGrids ∧
      g.frameWidth pageArea = .ok g.columns := by
  obtain ⟨hpages, hgroups, hcells, -⟩ := page_area_spans_iff reachable_smallPageArea
  obtain ⟨p, hp, hspecs, hwhole, -⟩ := page_smallPageArea
  obtain ⟨type, hfrom, hareas, -⟩ := hpages p hp
  have hnonempty : Session.smallPageArea.layout.groupGrids.isEmpty = false := by decide +kernel
  generalize Session.smallPageArea.layout = l at hp hgroups hfrom hnonempty ⊢
  obtain ⟨g, hg⟩ := List.exists_mem_of_ne_nil _ (List.isEmpty_eq_false_iff.mp hnonempty)
  refine ⟨p, type, g, hp, hfrom, ?_, hg, (hcells g (hgroups g hg)).1⟩
  have hdeclared := (hareas pageArea).symm.trans hspecs
  rw [if_pos rfl, hwhole] at hdeclared
  cases hfound : lastDeclared? type.areas pageArea with
  | none =>
    rw [hfound] at hdeclared
    exact absurd hdeclared (by decide)
  | some frames =>
    rw [hfound] at hdeclared
    exact hdeclared

/-- The page area of a run need not cover the page. A box that names no area is then put into the corner of
the small area, and not of the page. -/
theorem page_area_can_be_small :
    ∃ (l : Layout) (p : Page Float), l.Reachable ∧ l.page = some p ∧ ¬ p.grid.PageAreaSpans ∧
      p.items.map (fun i => (i.x == 30 && i.y == 30)) = [true] := by
  obtain ⟨p, hp, hspecs, hwhole, hitems⟩ := page_smallPageArea
  refine ⟨_, p, reachable_smallPageArea, hp, fun hspans => ?_, hitems⟩
  rw [Grid.PageAreaSpans, hspecs, hwhole] at hspans
  exact absurd hspans (by decide)

end PageGrid
