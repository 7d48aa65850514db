import Mathlib.Logic.Relation
import PageGrid.Layout.Basic
import PageGrid.Proofs.Grid.FreeCells

/-!
# How a layout changes

Commands change the layout in few ways, each of which is one operation with a guard: a page is
opened only if there is nothing that content can go to, and finished only outside groups, as it is lost
there if it is refused. `Change` lists these ways apart from groups, which begin and end around the rules
below them; `Step` adds the two ends of a group. A state of a run is one that steps lead to, so what steps
keep holds at every point of every run, whatever rules are applied in which order.

For the pages it is enough to know what a step does to the open page, which `Step.pageStep` says
once for all steps. Pages are numbered as they are opened, so a page is known by its number, and
while it is open its marks only grow.

## Main definitions

* `Grid.Change`, `Layout.Change`, `Layout.Step` — one change;
* `Layout.Reaches` — any number of changes;
* `Layout.Reachable` — the layouts that a run can have;
* `Layout.PageStep` — what a change does to the open page;
* `Layout.groupGrids` — the grids of all groups;
* `Layout.GrownSince` — the marks of a page have grown since an earlier state.

## Main results

* `Step.page_origin` — where the open page comes from;
* `Step.forall_groupGrids` — what one step does to the grids of groups;
* `Reachable.pageGrid` — what new pages have and changes of a grid keep holds of the open page;
* `Reachable.numbered` — the open page is the one that was opened last;
* `GrownSince.reaches` — marks on a page are never taken back.
-/

namespace PageGrid

/-! ### Changes of a grid -/

namespace Grid

variable {α : Type} {g g' : Grid α}

/-- A change that a command makes to a grid. -/
inductive Change : Grid α → Grid α → Prop
  | flow {g g' : Grid α} {columns rows : Nat} {area : String} {place : Option (Nat × Nat)} :
      g.flow columns rows area = .ok (g', place) → Change g g'
  | nextRow {g g' : Grid α} {area : String} {rows : Nat} {moved : Bool} :
      g.nextRow area rows = .ok (g', moved) → Change g g'
  | advanceFrame {g g' : Grid α} {area : String} {moved : Bool} :
      g.advanceFrame area = .ok (g', moved) → Change g g'
  | allocate {g g' : Grid α} {x y : Int} {columns rows : Nat} {area : String} {breach : Breach} :
      g.allocateBlock x y columns rows area = .ok (g', breach) → Change g g'

/-- The second grid has the cells of the first one and at least its marks. -/
structure Grown (g g' : Grid α) : Prop where
  horizontal : g'.horizontal = g.horizontal
  vertical : g'.vertical = g.vertical
  count_le : ∀ column row, g.occupancy.count column row ≤ g'.occupancy.count column row

instance : IsPreorder (Grid α) Grown where
  refl _ := ⟨rfl, rfl, fun _ _ => Nat.le_refl _⟩
  trans _ _ _ h h' :=
    ⟨h'.horizontal.trans h.horizontal, h'.vertical.trans h.vertical,
      fun c r => Nat.le_trans (h.count_le c r) (h'.count_le c r)⟩

theorem FlowMoved.grown (h : FlowMoved g g') : Grown g g' := by
  refine ⟨h.horizontal, h.vertical, fun c r => ?_⟩
  exact Nat.le_of_eq (congrArg (·.count c r) h.occupancy.symm)

theorem grown_allocateBlock {x y : Int} {columns rows : Nat} {area : String} {breach : Breach}
    (h : g.allocateBlock x y columns rows area = .ok (g', breach)) : Grown g g' := by
  obtain ⟨f, f', hf, -, hg⟩ := allocateBlock_eq_ok h
  refine ⟨hg ▸ rfl, hg ▸ rfl, fun c r => ?_⟩
  rw [count_allocateBlock h hf]
  exact Nat.le_add_right _ _

/-- Marks on a grid are never taken back. -/
theorem Change.grown (h : Change g g') : Grown g g' := by
  cases h with
  | flow h => exact (flow_eq_ok h).1.grown
  | nextRow h => exact (flowMoved_nextRow h).grown
  | advanceFrame h => exact (flowMoved_advanceFrame h).grown
  | allocate h => exact grown_allocateBlock h

end Grid

namespace Layout

variable {l l' : Layout}

/-! ### Changes of a layout -/

/-- A change that a command makes to the layout, other than beginning or ending a group. -/
inductive Change : Layout → Layout → Prop
  | setGrid (l : Layout) (settings : GridSettings Float) :
      Change l { l with gridSettings := settings }
  | record (l : Layout) (element mode : String) (rule : Rule) :
      Change l { l with patterns := l.patterns.record element mode rule }
  | register (l : Layout) (type : PageType Float) :
      Change l { l with pageTypes := l.pageTypes.register type }
  | mark (l : Layout) (name : String) (isTarget : Bool) (shift : Option Float) :
      Change l (l.setMarker name isTarget shift).2
  | openPage {l l' : Layout} {type : PageType Float} :
      l.hasTarget = false → type ∈ l.pageTypes.types → l.openPage type = .ok l' → Change l l'
  | finishPage {l : Layout} : l.inGroup = false → Change l l.finishPage
  | losePage {l : Layout} : l.inGroup = false → Change l { l with page := none }
  | grid {l : Layout} {g g' : Grid Float} :
      l.targetGrid? = some g → g.Change g' → Change l (l.setTargetGrid g')
  | place {l l' : Layout} {x y : Float} {box : ContentBox Float} :
      l.place x y box = some l' → Change l l'

/-- A change that a command makes to the layout. -/
inductive Step : Layout → Layout → Prop
  | change {l l' : Layout} : Change l l' → Step l l'
  | startGroup {l l' : Layout} {name : String} : l.startGroup name = .ok l' → Step l l'
  | endGroup (l : Layout) : Step l l.endGroup.2

/-- The second layout comes from the first one by any number of changes. -/
abbrev Reaches : Layout → Layout → Prop := Relation.ReflTransGen Step

/-- A layout that a run can have: one that the start of a layout reaches. -/
def Reachable (l : Layout) : Prop :=
  ∃ pageSize margins gridSettings references strictReferences nextId,
    Reaches (start pageSize margins gridSettings references strictReferences nextId) l

theorem Reachable.trans (h : l.Reachable) (h' : l.Reaches l') : l'.Reachable := by
  obtain ⟨size, margins, settings, references, strict, nextId, h⟩ := h
  exact ⟨size, margins, settings, references, strict, nextId, h.trans h'⟩

/-! ### The grid that content goes to -/

theorem inGroup_eq_false : l.inGroup = false ↔ l.openGroups = [] := by
  simp [inGroup]

theorem inGroup_eq_true : l.inGroup = true ↔ ∃ group outer, l.openGroups = group :: outer := by
  cases hg : l.openGroups <;> simp [inGroup, hg]

theorem hasTarget_eq_false : l.hasTarget = false ↔ l.openGroups = [] ∧ l.page = none := by
  simp [hasTarget, inGroup]

theorem targetGrid?_of_page {p : Page Float} (hg : l.openGroups = []) (hp : l.page = some p) :
    l.targetGrid? = some p.grid := by
  simp [targetGrid?, hg, hp]

theorem targetGrid?_eq_some {g : Grid Float} :
    l.targetGrid? = some g ↔
      (∃ group outer, l.openGroups = group :: outer ∧ group.grid = g) ∨
        l.openGroups = [] ∧ ∃ p, l.page = some p ∧ p.grid = g := by
  cases hg : l.openGroups <;> simp [targetGrid?, hg]

/-- Outside groups, the content goes to the open page. -/
theorem page_of_targetGrid? {g : Grid Float} (hg : l.openGroups = [])
    (h : l.targetGrid? = some g) : ∃ p, l.page = some p ∧ p.grid = g := by
  obtain ⟨_, _, hcons, -⟩ | ⟨-, hp⟩ := targetGrid?_eq_some.mp h
  · simp [hg] at hcons
  · exact hp

theorem targetGrid?_setTargetGrid {g : Grid Float} (g' : Grid Float)
    (h : l.targetGrid? = some g) : (l.setTargetGrid g').targetGrid? = some g' := by
  obtain ⟨group, outer, hg, -⟩ | ⟨hg, p, hp, -⟩ := targetGrid?_eq_some.mp h
  · simp [setTargetGrid, targetGrid?, hg]
  · simp [setTargetGrid, targetGrid?, hg, hp]

theorem setTargetGrid_setTargetGrid (g g' : Grid Float) :
    (l.setTargetGrid g).setTargetGrid g' = l.setTargetGrid g' := by
  cases hg : l.openGroups with
  | cons group outer => simp [setTargetGrid, hg]
  | nil => simp [setTargetGrid, hg, Function.comp_def]

theorem page_setTargetGrid {p : Page Float} (hg : l.openGroups = []) (hp : l.page = some p)
    (g : Grid Float) : (l.setTargetGrid g).page = some { p with grid := g } := by
  simp [setTargetGrid, hg, hp]

@[simp] theorem pageCount_setTargetGrid (g : Grid Float) :
    (l.setTargetGrid g).pageCount = l.pageCount := by
  rw [setTargetGrid]
  split <;> rfl

@[simp] theorem finished_setTargetGrid (g : Grid Float) :
    (l.setTargetGrid g).finished = l.finished := by
  rw [setTargetGrid]
  split <;> rfl

@[simp] theorem inGroup_setTargetGrid (g : Grid Float) :
    (l.setTargetGrid g).inGroup = l.inGroup := by
  cases hg : l.openGroups <;> simp [setTargetGrid, inGroup, hg]

/-! ### Opening and finishing a page -/

@[simp] theorem page_finishPage : l.finishPage.page = none := by
  rw [finishPage]
  split
  · rfl
  · next h => exact h

@[simp] theorem pageCount_finishPage : l.finishPage.pageCount = l.pageCount := by
  rw [finishPage]
  split <;> rfl

theorem isTaken_of_page {p : Page Float} (hp : l.page = some p) (sink : PageSink) :
    l.isTaken sink = sink.takes l.finished p.finish := by
  simp [isTaken, hp]

/-- A sink does not see the grid of a page. -/
@[simp] theorem isTaken_setTargetGrid (g : Grid Float) (sink : PageSink) :
    (l.setTargetGrid g).isTaken sink = l.isTaken sink := by
  rw [setTargetGrid]
  split
  · rfl
  · cases hp : l.page <;> simp [isTaken, hp, Page.finish]

/-- What is finished is the page with its items, whatever becomes of its grid before. -/
theorem finishPage_setTargetGrid {p : Page Float} (hg : l.openGroups = []) (hp : l.page = some p)
    (g : Grid Float) : (l.setTargetGrid g).finishPage =
      { l with page := none, finished := l.finished ++ [p.finish] } := by
  simp [setTargetGrid, finishPage, Page.finish, hg, hp]

theorem number_of_ofType {number : Nat} {type : PageType Float} {size : Size Float}
    {settings : GridSettings Float} {page : Page Float}
    (h : Page.ofType number type size settings = .ok page) : page.number = number := by
  obtain ⟨g₀, -, h⟩ := bind_eq_ok.mp h
  obtain ⟨g₁, -, h⟩ := bind_eq_ok.mp h
  cases h
  rfl

theorem openPage_eq_ok {type : PageType Float} :
    l.openPage type = .ok l' ↔
      ∃ page, Page.ofType (l.pageCount + 1) type l.pageSize l.gridSettings = .ok page ∧
        { l with page := some page, pageCount := l.pageCount + 1 } = l' :=
  map_eq_ok

/-! ### What a change does to the open page -/

/-- What a change does to the open page and the number of pages. -/
inductive PageStep : Layout → Layout → Prop
  | kept {l l' : Layout} : l'.page = l.page → l'.pageCount = l.pageCount → PageStep l l'
  | filled {l l' : Layout} {p p' : Page Float} :
      l.page = some p → l'.page = some p' → p'.number = p.number → p.grid.Grown p'.grid →
        l'.pageCount = l.pageCount → PageStep l l'
  | finished {l l' : Layout} : l'.page = none → l'.pageCount = l.pageCount → PageStep l l'
  | opened {l l' : Layout} {p : Page Float} :
      l.page = none → l'.page = some p → p.number = l.pageCount + 1 →
        l'.pageCount = l.pageCount + 1 → PageStep l l'

theorem pageStep_openPage {type : PageType Float} (hp : l.page = none)
    (h : l.openPage type = .ok l') : PageStep l l' := by
  obtain ⟨page, hpage, rfl⟩ := openPage_eq_ok.mp h
  exact .opened hp rfl (number_of_ofType hpage) rfl

theorem pageStep_setTargetGrid {g g' : Grid Float} (h : l.targetGrid? = some g) (hg : g.Grown g') :
    PageStep l (l.setTargetGrid g') := by
  obtain ⟨group, outer, ho, -⟩ | ⟨ho, p, hp, rfl⟩ := targetGrid?_eq_some.mp h
  · exact .kept (by simp [setTargetGrid, ho]) (pageCount_setTargetGrid g')
  · exact .filled hp (page_setTargetGrid ho hp g') rfl hg (pageCount_setTargetGrid g')

theorem pageStep_place {x y : Float} {box : ContentBox Float} (h : l.place x y box = some l') :
    PageStep l l' := by
  rw [place] at h
  dsimp only at h
  split at h
  · cases h
    exact .kept rfl rfl
  · next p _ hp =>
    cases h
    exact .filled hp rfl rfl (refl_of Grid.Grown p.grid) rfl
  · cases h

theorem Change.pageStep (h : Change l l') : PageStep l l' := by
  cases h with
  | setGrid settings => exact .kept rfl rfl
  | record element mode rule => exact .kept rfl rfl
  | register type => exact .kept rfl rfl
  | mark name isTarget shift => exact .kept rfl rfl
  | openPage ht hm h => exact pageStep_openPage (hasTarget_eq_false.mp ht).2 h
  | finishPage hg => exact .finished page_finishPage pageCount_finishPage
  | losePage hg => exact .finished rfl rfl
  | grid ht hg => exact pageStep_setTargetGrid ht hg.grown
  | place h => exact pageStep_place h

theorem startGroup_eq_ok {name : String} (h : l.startGroup name = .ok l') :
    ∃ grid, l' = { l with openGroups := .start name grid :: l.openGroups } := by
  obtain ⟨grid, -, h⟩ := map_eq_ok.mp h
  exact ⟨grid.groupGrid, h.symm⟩

/-- **What a step does to the open page.** It opens a page only where there is none, and on an open
page it adds marks at most. -/
theorem Step.pageStep (h : Step l l') : PageStep l l' := by
  cases h with
  | change h => exact h.pageStep
  | startGroup h =>
    obtain ⟨grid, rfl⟩ := startGroup_eq_ok h
    exact .kept rfl rfl
  | endGroup =>
    rw [Layout.endGroup]
    split <;> exact .kept rfl rfl

/-! ### The grid of the open page -/

theorem pageType_of_ofType {number : Nat} {type : PageType Float} {size : Size Float}
    {settings : GridSettings Float} {page : Page Float}
    (h : Page.ofType number type size settings = .ok page) : page.pageType = type.name := by
  obtain ⟨_, -, h⟩ := bind_eq_ok.mp h
  obtain ⟨_, -, h⟩ := bind_eq_ok.mp h
  cases h
  rfl

/-- Where the open page comes from in a step: it was there, perhaps with another grid, or it is a new one. -/
theorem Step.page_origin {p' : Page Float} (h : Step l l') (hp' : l'.page = some p') :
    (∃ p, l.page = some p ∧ p'.pageType = p.pageType ∧ (p'.grid = p.grid ∨ p.grid.Change p'.grid)) ∨
      ∃ type ∈ l.pageTypes.types, Page.ofType (l.pageCount + 1) type l.pageSize l.gridSettings = .ok p' := by
  have hkept (hp : l.page = some p') : ∃ p, l.page = some p ∧ p'.pageType = p.pageType ∧
      (p'.grid = p.grid ∨ p.grid.Change p'.grid) := ⟨p', hp, rfl, .inl rfl⟩
  cases h with
  | change h =>
    cases h with
    | setGrid | record | register | mark => exact .inl (hkept hp')
    | @openPage _ type _ hm h =>
      obtain ⟨opened, hopened, rfl⟩ := openPage_eq_ok.mp h
      cases hp'
      exact .inr ⟨type, hm, hopened⟩
    | finishPage | losePage => simp at hp'
    | grid ht hg =>
      obtain ⟨group, outer, ho, -⟩ | ⟨ho, p, hp, rfl⟩ := targetGrid?_eq_some.mp ht
      · exact .inl (hkept (by simpa [setTargetGrid, ho] using hp'))
      · rw [page_setTargetGrid ho hp] at hp'
        cases hp'
        exact .inl ⟨p, hp, rfl, .inr hg⟩
    | place h =>
      rw [place] at h
      dsimp only at h
      split at h
      · cases h
        exact .inl (hkept hp')
      · next p _ hp =>
        cases h
        cases hp'
        exact .inl ⟨p, hp, rfl, .inl rfl⟩
      · cases h
  | startGroup h =>
    obtain ⟨grid, rfl⟩ := startGroup_eq_ok h
    exact .inl (hkept hp')
  | endGroup =>
    refine .inl (hkept ?_)
    rw [Layout.endGroup] at hp'
    split at hp' <;> exact hp'

/-- A property that the grids of new pages have and that changes of a grid keep, stays with the open
page at every step. -/
theorem Step.pageGrid {P : Grid Float → Prop}
    (hnew : ∀ {number type} {page : Page Float},
      Page.ofType number type l.pageSize l.gridSettings = .ok page → P page.grid)
    (hchange : ∀ {g g' : Grid Float}, g.Change g' → P g → P g') (h : Step l l')
    (hl : ∀ page, l.page = some page → P page.grid) : ∀ page, l'.page = some page → P page.grid := by
  intro p' hp'
  obtain ⟨p, hp, -, hsame | hchanged⟩ | ⟨type, -, hopened⟩ := h.page_origin hp'
  · exact hsame ▸ hl p hp
  · exact hchange hchanged (hl p hp)
  · exact hnew hopened

/-- **What the open page of a run has.** -/
theorem Reachable.pageGrid {P : Grid Float → Prop}
    (hnew : ∀ {number type size settings} {page : Page Float},
      Page.ofType number type size settings = .ok page → P page.grid)
    (hchange : ∀ {g g' : Grid Float}, g.Change g' → P g → P g') (h : l.Reachable) :
    ∀ page, l.page = some page → P page.grid := by
  obtain ⟨size, margins, settings, references, strict, nextId, h⟩ := h
  induction h with
  | refl => nofun
  | tail _ hstep ih => exact hstep.pageGrid hnew hchange ih

/-! ### The grids of groups -/

/-- The grids of all groups, be they done or not. -/
def groupGrids (l : Layout) : List (Grid Float) := (l.openGroups ++ l.groups).map (·.grid)

theorem forall_mem_groupGrids {P : Grid Float → Prop} :
    (∀ g ∈ l.groupGrids, P g) ↔
      (∀ group ∈ l.openGroups, P group.grid) ∧ ∀ group ∈ l.groups, P group.grid := by
  simp [groupGrids, or_imp, forall_and]

/-- A property that the grids of new groups have and that changes of a grid keep, stays with the grids of
groups at every step. A group is laid out on cells like those of the grid around it, or of the page to come. -/
theorem Step.forall_groupGrids {P : Grid Float → Prop}
    (hnew : ∀ {g : Grid Float}, l.targetGrid? = some g ∨
      Grid.forPage l.pageSize l.margins l.gridSettings = .ok g → P g.groupGrid)
    (hchange : ∀ {g g' : Grid Float}, g.Change g' → P g → P g') (h : Step l l')
    (hl : ∀ g ∈ l.groupGrids, P g) : ∀ g ∈ l'.groupGrids, P g := by
  obtain ⟨hopen, hdone⟩ := forall_mem_groupGrids.mp hl
  cases h with
  | change h =>
    cases h with
    | setGrid | record | register | mark | losePage => exact hl
    | openPage _ _ h =>
      obtain ⟨page, -, rfl⟩ := openPage_eq_ok.mp h
      exact hl
    | finishPage =>
      rw [Layout.finishPage]
      split <;> exact hl
    | grid ht hg =>
      obtain ⟨group, outer, ho, rfl⟩ | ⟨ho, p, hp, -⟩ := targetGrid?_eq_some.mp ht
      · rw [ho, List.forall_mem_cons] at hopen
        rw [setTargetGrid, ho]
        exact forall_mem_groupGrids.mpr
          ⟨List.forall_mem_cons.mpr ⟨hchange hg hopen.1, hopen.2⟩, hdone⟩
      · rw [setTargetGrid, ho]
        exact forall_mem_groupGrids.mpr ⟨List.forall_mem_nil _, hdone⟩
    | place h =>
      rw [place] at h
      dsimp only at h
      split at h
      · next ho =>
        cases h
        rw [ho, List.forall_mem_cons] at hopen
        exact forall_mem_groupGrids.mpr ⟨List.forall_mem_cons.mpr hopen, hdone⟩
      · cases h
        exact hl
      · cases h
  | startGroup h =>
    obtain ⟨grid, hgrid, rfl⟩ := map_eq_ok.mp h
    refine forall_mem_groupGrids.mpr ⟨List.forall_mem_cons.mpr ⟨hnew ?_, hopen⟩, hdone⟩
    split at hgrid
    · next target ht =>
      cases hgrid
      exact .inl ht
    · exact .inr hgrid
  | endGroup =>
    rw [Layout.endGroup]
    split
    · exact hl
    · next group outer ho =>
      rw [ho, List.forall_mem_cons] at hopen
      refine forall_mem_groupGrids.mpr ⟨hopen.2, List.forall_mem_cons.mpr ⟨hopen.1, fun done hmem => ?_⟩⟩
      exact hdone done (List.mem_filter.mp hmem).1

/-! ### Page numbers -/

/-- The open page is the one that was opened last. -/
def Numbered (l : Layout) : Prop := ∀ page, l.page = some page → page.number = l.pageCount

theorem PageStep.numbered (h : PageStep l l') (hl : Numbered l) : Numbered l' := by
  intro page hpage
  cases h with
  | kept hp hc => rw [hc, hl page (hp ▸ hpage)]
  | filled hp hp' hn hg hc =>
    obtain rfl := Option.some.inj (hp'.symm.trans hpage)
    rw [hc, hn, hl _ hp]
  | finished hp hc => simp [hp] at hpage
  | opened hp hp' hn hc =>
    obtain rfl := Option.some.inj (hp'.symm.trans hpage)
    rw [hc, hn]

theorem Numbered.reaches (hl : Numbered l) (h : l.Reaches l') : Numbered l' := by
  induction h with
  | refl => exact hl
  | tail _ hstep ih => exact hstep.pageStep.numbered ih

/-- **Pages are numbered as they are opened.** -/
theorem Reachable.numbered (h : l.Reachable) : Numbered l := by
  obtain ⟨size, margins, settings, references, strict, nextId, h⟩ := h
  refine Numbered.reaches (fun page hpage => ?_) h
  cases hpage

/-! ### Marks on a page -/

/-- The page of a number has been opened, and if it is still open then its marks are at least those
that it had. -/
structure GrownSince (number : Nat) (g : Grid Float) (l : Layout) : Prop where
  opened : number ≤ l.pageCount
  grown : ∀ page, l.page = some page → page.number = number → g.Grown page.grid

theorem PageStep.grownSince {number : Nat} {g : Grid Float} (h : PageStep l l')
    (hl : GrownSince number g l) : GrownSince number g l' := by
  cases h with
  | kept hp hc => exact ⟨hc ▸ hl.opened, fun page hpage => hl.grown page (hp ▸ hpage)⟩
  | filled hp hp' hn hg hc =>
    refine ⟨hc ▸ hl.opened, fun page hpage hnumber => ?_⟩
    obtain rfl := Option.some.inj (hp'.symm.trans hpage)
    exact trans_of Grid.Grown (hl.grown _ hp (hn ▸ hnumber)) hg
  | finished hp hc => exact ⟨hc ▸ hl.opened, fun page hpage => by simp [hp] at hpage⟩
  | opened hp hp' hn hc =>
    -- the new page has a greater number than every page before it
    refine ⟨by have := hl.opened; omega, fun page hpage hnumber => ?_⟩
    obtain rfl := Option.some.inj (hp'.symm.trans hpage)
    have := hl.opened
    omega

/-- **Marks stay.** However a run goes on, the marks of a page only grow while it is open. -/
theorem GrownSince.reaches {number : Nat} {g : Grid Float} (hl : GrownSince number g l)
    (h : l.Reaches l') : GrownSince number g l' := by
  induction h with
  | refl => exact hl
  | tail _ hstep ih => exact hstep.pageStep.grownSince ih

theorem Numbered.grownSince (hl : Numbered l) {page : Page Float} (hp : l.page = some page) :
    GrownSince page.number page.grid l := by
  refine ⟨Nat.le_of_eq (hl page hp), fun page' hp' _ => ?_⟩
  obtain rfl := Option.some.inj (hp.symm.trans hp')
  exact refl_of Grid.Grown page.grid

end Layout

end PageGrid
