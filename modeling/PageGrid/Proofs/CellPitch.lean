import PageGrid.Proofs.Decimal.Sum
import PageGrid.Proofs.Grid.TypeArea
import PageGrid.Proofs.GridSettings

/-!
# The pitch of cells

Offsets of cells are multiples of the pitch, and numbers of cells are quotients by it. So the pitch should
be positive, and it is for cells that have a size and gaps that are not negative.

The size of cells is checked wherever an axis is built. Gaps are checked once, in the configuration: the
rule that sets the grid of pages to come takes them over as they are. What can be said of a run is therefore
where the gaps of a grid come from. Every grid has the gaps that were in force when it was built, be it for
a page or for a group, and as long as none of them is negative the pitches are positive, rounding included.

A length that is not a number is neither negative nor positive, so what is positive here is what is not at
most zero.

## Main definitions

* `AxisSettings.Governs`, `GridSettings.Governs` — a grid is built from settings;
* `Axis.Sound` — the cells of an axis have a size and do not overlap, and their pitch is positive;
* `Layout.grids` — all grids of a layout, those of groups included;
* `Layout.BuiltDuring` — a grid is built from settings that were in force at some point.

## Main results

* `Layout.Step.forall_grids` — what one step does to the grids;
* `Layout.Regrids.builtDuring` — where the grids of a run come from;
* `Job.cell_pitch` — the grids of a run.
-/

namespace PageGrid

/-! ### Grids and settings -/

/-- The axis is built from the settings: the gap is theirs, the cells have a size, and it is theirs unless a
number of cells is asked for. -/
structure AxisSettings.Governs (s : AxisSettings Float) (a : Axis Float) : Prop where
  gap : a.gap = s.gap
  cell : ¬ a.cell ≤ 0
  sized : s.count = none → a.cell = s.cell

/-- The grid is built from the settings, and has any number of cells. -/
structure GridSettings.Governs (settings : GridSettings Float) (g : Grid Float) : Prop where
  horizontal : settings.horizontal.Governs g.horizontal
  vertical : settings.vertical.Governs g.vertical

/-- Neither gap is negative. -/
structure GridSettings.Spaced (settings : GridSettings Float) : Prop where
  horizontal : ¬ settings.horizontal.gap < 0
  vertical : ¬ settings.vertical.gap < 0

/-- No gap that is given is negative. -/
structure GivenGaps.Spaced (given : GivenGaps) : Prop where
  horizontal : ∀ x, given.horizontal = some x → ¬ x < 0
  vertical : ∀ y, given.vertical = some y → ¬ y < 0

/-- The cells of the axis have a size, they do not overlap, and the distance from one to the next is
positive. -/
structure Axis.Sound (a : Axis Float) : Prop where
  cell : ¬ a.cell ≤ 0
  gap : ¬ a.gap < 0
  pitch : ¬ a.pitch ≤ 0

theorem AxisSettings.Governs.sound {s : AxisSettings Float} {a : Axis Float} (h : s.Governs a)
    (hgap : ¬ s.gap < 0) : a.Sound := by
  rw [← h.gap] at hgap
  exact ⟨h.cell, hgap, Decimal.not_add_le_zero h.cell hgap⟩

theorem AxisSettings.governs_of_resolve {d : Direction} {s : AxisSettings Float} {available : Float}
    {a : Axis Float} (h : Axis.resolve d s available = .ok a) : s.Governs a := by
  obtain ⟨hgap, hcell, hsized⟩ := Axis.resolve_eq_ok h
  exact ⟨hgap, hcell, hsized⟩

namespace GridSettings

variable {settings : GridSettings Float} {g g' : Grid Float}

theorem Governs.sound (h : settings.Governs g) (hs : settings.Spaced) :
    g.horizontal.Sound ∧ g.vertical.Sound :=
  ⟨h.horizontal.sound hs.horizontal, h.vertical.sound hs.vertical⟩

theorem governs_of_forPage {page : Size Float} {margins : Margins Float}
    (h : Grid.forPage page margins settings = .ok g) : settings.Governs g := by
  obtain ⟨-, horizontal, vertical, hh, hv, -, rfl⟩ := Grid.forPage_eq_ok_iff.mp h
  exact ⟨AxisSettings.governs_of_resolve hh, AxisSettings.governs_of_resolve hv⟩

theorem Governs.grown (h : settings.Governs g) (hg : g.Grown g') : settings.Governs g' :=
  ⟨hg.horizontal ▸ h.horizontal, hg.vertical ▸ h.vertical⟩

/-- The grid of a group has more rows of the same cells. -/
theorem Governs.groupGrid (h : settings.Governs g) : settings.Governs g.groupGrid :=
  ⟨h.horizontal, h.vertical.gap, h.vertical.cell, h.vertical.sized⟩

theorem Governs.foldlM_defineArea {areas : List AreaDefinition} (hg : settings.Governs g)
    (h : areas.foldlM (fun g a => g.defineArea a.name a.frames) g = .ok g') : settings.Governs g' := by
  induction areas generalizing g with
  | nil =>
    cases h
    exact hg
  | cons a rest ih =>
    obtain ⟨g₁, h₁, h⟩ := bind_eq_ok.mp h
    have hnext : settings.Governs g₁ := by
      obtain ⟨_, -, -, rfl⟩ := Grid.defineArea_eq_ok h₁
      exact ⟨hg.horizontal, hg.vertical⟩
    exact ih hnext h

theorem governs_of_ofType {number : Nat} {type : PageType Float} {size : Size Float} {page : Page Float}
    (h : Page.ofType number type size settings = .ok page) : settings.Governs page.grid := by
  obtain ⟨g₀, h₀, h⟩ := bind_eq_ok.mp h
  obtain ⟨g₁, h₁, h⟩ := bind_eq_ok.mp h
  cases h
  exact (governs_of_forPage h₀).foldlM_defineArea h₁

end GridSettings

/-! ### The grids of a layout -/

namespace Layout

variable {l l' l₀ : Layout}

/-- The grids of a layout: that of the open page, and those of the groups, be they done or not. -/
def grids (l : Layout) : List (Grid Float) :=
  l.page.toList.map (·.grid) ++ (l.openGroups ++ l.groups).map (·.grid)

theorem forall_mem_grids {P : Grid Float → Prop} :
    (∀ g ∈ l.grids, P g) ↔ (∀ p, l.page = some p → P p.grid) ∧ ∀ g ∈ l.groupGrids, P g := by
  simp [grids, groupGrids, or_imp, forall_and]

theorem mem_grids_of_targetGrid? {g : Grid Float} (h : l.targetGrid? = some g) : g ∈ l.grids := by
  obtain ⟨group, outer, ho, rfl⟩ | ⟨-, p, hp, rfl⟩ := targetGrid?_eq_some.mp h
  · simp [grids, ho]
  · simp [grids, hp]

/-- **What a step does to the grids.** What holds of the grids that the settings in force make, and is kept
by marks on a grid and by the grid of a group, holds of all grids after the step if it does before. -/
theorem Step.forall_grids {P : Grid Float → Prop} (hgrown : ∀ {g g'}, P g → g.Grown g' → P g')
    (hgroup : ∀ {g}, P g → P g.groupGrid) (hnew : ∀ {g}, l.gridSettings.Governs g → P g) (h : Step l l')
    (hl : ∀ g ∈ l.grids, P g) : ∀ g ∈ l'.grids, P g := by
  have hchange {g g' : Grid Float} (hg : g.Change g') (hP : P g) : P g' := hgrown hP hg.grown
  obtain ⟨hpage, hgroups⟩ := forall_mem_grids.mp hl
  refine forall_mem_grids.mpr ⟨?_, h.forall_groupGrids (fun hfound => hgroup ?_) hchange hgroups⟩
  · exact h.pageGrid (fun hopened => hnew (GridSettings.governs_of_ofType hopened)) hchange hpage
  · obtain htarget | hbuilt := hfound
    · exact hl _ (mem_grids_of_targetGrid? htarget)
    · exact hnew (GridSettings.governs_of_forPage hbuilt)

/-- The grid is built from the settings that were in force at some point on the way. -/
def BuiltDuring (l₀ : Layout) (gaps : List GivenGaps) (l : Layout) (g : Grid Float) : Prop :=
  ∃ before after m, before ++ after = gaps ∧ l₀.Regrids before m ∧ m.Regrids after l ∧
    m.gridSettings.Governs g

variable {gaps : List GivenGaps}

theorem grids_of_takesOver {given : GivenGaps} (h : Command.TakesOver given l l') : l'.grids = l.grids := by
  rw [h.frame]
  rfl

/-- **Every grid is built from settings that were in force on the way.** -/
theorem Regrids.builtDuring (h₀ : l₀.grids = []) (h : l₀.Regrids gaps l) :
    ∀ g ∈ l.grids, BuiltDuring l₀ gaps l g := by
  induction h with
  | refl => simp [h₀]
  | @step m k gaps hm hstep hkept ih =>
    have hlater (g : Grid Float) (hg : g ∈ m.grids) : BuiltDuring l₀ gaps k g := by
      obtain ⟨before, after, n, happend, hn, hnm, hgoverns⟩ := ih g hg
      exact ⟨before, after, n, happend, hn, .step hnm hstep hkept, hgoverns⟩
    refine hstep.forall_grids ?_ ?_ (fun hgoverns => ?_) hlater
    · rintro g g' ⟨before, after, n, happend, hn, hnk, hgoverns⟩ hgrown
      exact ⟨before, after, n, happend, hn, hnk, hgoverns.grown hgrown⟩
    · rintro g ⟨before, after, n, happend, hn, hnk, hgoverns⟩
      exact ⟨before, after, n, happend, hn, hnk, hgoverns.groupGrid⟩
    · exact ⟨gaps, [], m, gaps.append_nil, hm, .step (.refl m) hstep hkept, hgoverns⟩
  | @setGrid k gaps _ _ _ s given _ hgives htakes ih =>
    intro g hg
    rw [grids_of_takesOver htakes] at hg
    obtain ⟨before, after, n, happend, hn, hnm, hgoverns⟩ := ih g hg
    refine ⟨before, after ++ [given], n, ?_, hn, .setGrid hnm hgives htakes, hgoverns⟩
    rw [← List.append_assoc, happend]

/-- As long as no negative gap is given, none comes into force. -/
theorem Regrids.spaced (h : l₀.Regrids gaps l) (h₀ : l₀.gridSettings.Spaced)
    (hgaps : ∀ given ∈ gaps, given.Spaced) : l.gridSettings.Spaced := by
  induction h with
  | refl => exact h₀
  | step _ _ hkept ih =>
    rw [hkept]
    exact ih hgaps
  | @setGrid k gaps _ _ _ s given _ _ htakes ih =>
    obtain ⟨hbefore, hgiven⟩ := List.forall_mem_append.mp hgaps
    obtain ⟨hx, hy⟩ := hgiven given (List.mem_singleton_self given)
    obtain ⟨hx₀, hy₀⟩ := ih hbefore
    constructor
    · rw [htakes.horizontal]
      cases hdx : given.horizontal with
      | none => exact hx₀
      | some x => exact hx x hdx
    · rw [htakes.vertical]
      cases hdy : given.vertical with
      | none => exact hy₀
      | some y => exact hy y hdy

/-- **Without negative gaps, every grid is sound.** -/
theorem BuiltDuring.sound {g : Grid Float} (h : BuiltDuring l₀ gaps l g) (h₀ : l₀.gridSettings.Spaced)
    (hgaps : ∀ given ∈ gaps, given.Spaced) : g.horizontal.Sound ∧ g.vertical.Sound := by
  obtain ⟨before, after, m, rfl, hm, -, hgoverns⟩ := h
  exact hgoverns.sound (hm.spaced h₀ (List.forall_mem_append.mp hgaps).1)

end Layout

/-! ### Runs -/

/-- The gaps of a configuration are checked. -/
theorem Config.spaced_of_check {c : Config} (h : c.check = .ok ()) : c.gridSettings.Spaced := by
  rw [check] at h
  split at h
  · cases h
  · split at h
    · cases h
    · next hgaps =>
      obtain ⟨hx, hy⟩ := not_or.mp hgaps
      exact ⟨hx, hy⟩

namespace Job

variable {job : Job} {files : FileTree} {nextId : Nat} {layout data : String} {rules : Rule}
  {document : Xml.Document} {s : Session}

theorem Begins.gridSettings_eq (h : Begins job files nextId layout data rules document s) :
    s.layout.gridSettings = job.config.gridSettings ∧ s.layout.grids = [] := by
  obtain ⟨previous, -, -, rfl⟩ := h
  exact ⟨rfl, rfl⟩

/-- **The cells of every grid have a size, and its gaps are those that were in force.** A run with a
configuration that is accepted is made of changes that keep the settings of the grid and of rules that set
it. At every point of it the grid of every page and of every group is built from the settings that were in
force at some point before, so that its cells have a size. The gaps in force are the last ones that have been
given, whatever their signs, and otherwise those of the configuration, and a page that is opened has them.
As long as no negative gap has been given, gaps are not negative and pitches are positive. -/
theorem cell_pitch (hcheck : job.config.check = .ok ())
    (hbegins : Begins job files nextId layout data rules document s) :
    (∀ depth sink, ∃ gaps, s.layout.Regrids gaps ((program depth rules document.root.name).runWith
      (job.setting files document sink) s).2.layout) ∧
    ∀ gaps l, s.layout.Regrids gaps l →
      (∀ g ∈ l.grids, s.layout.BuiltDuring gaps l g) ∧
      job.config.gridSettings.LastGiven gaps l.gridSettings ∧
      (∀ type l' page, l.openPage type = .ok l' → l'.page = some page →
        l.gridSettings.Governs page.grid) ∧
      ((∀ given ∈ gaps, given.Spaced) → ∀ g ∈ l.grids, g.horizontal.Sound ∧ g.vertical.Sound) := by
  obtain ⟨hsettings, hgrids⟩ := hbegins.gridSettings_eq
  have hspaced : s.layout.gridSettings.Spaced := hsettings ▸ Config.spaced_of_check hcheck
  refine ⟨hbegins.regrids, fun gaps l hl => ?_⟩
  have hbuilt := hl.builtDuring hgrids
  refine ⟨hbuilt, hsettings ▸ hl.lastGiven, fun type l' page hopen hpage => ?_,
    fun hgaps g hg => (hbuilt g hg).sound hspaced hgaps⟩
  obtain ⟨opened, hofType, rfl⟩ := Layout.openPage_eq_ok.mp hopen
  cases hpage
  exact GridSettings.governs_of_ofType hofType

/-- The layout at the end of a run that gets to apply rules. -/
def lastLayout? (depth : Nat) (files : FileTree) (run : Launch) : Option Layout := do
  let previous ← (previousRecord files run.job.config.auxFile).toOption
  let (rules, document) ← (sources run.job.config run.layout run.data).toOption
  let s := (Session.start (startLayout run.job.config previous run.nextId)).logging
    (previousNotice run.job.config.auxFile previous)
  return ((program depth rules document.root.name).runWith (run.job.setting files document) s).2.layout

theorem begins_of_lastLayout? {depth : Nat} {run : Launch} {l : Layout}
    (h : lastLayout? depth files run = some l) :
    ∃ rules document s, run.Begins files rules document s ∧
      ((program depth rules document.root.name).runWith (run.job.setting files document) s).2.layout =
        l := by
  obtain ⟨previous, hprevious, h⟩ := Option.bind_eq_some_iff.mp h
  obtain ⟨⟨rules, document⟩, hsources, h⟩ := Option.bind_eq_some_iff.mp h
  exact ⟨rules, document, _, ⟨previous, Action.eq_ok_of_toOption hprevious,
    Action.eq_ok_of_toOption hsources, rfl⟩, Option.some.inj h⟩

/-- A run that sets the grid and then lays out a group. -/
def settingGrid (gap : String) : Launch :=
  .plain false ("<Record element='data'><SetGrid width='10pt' dx='" ++ gap ++ "'/>" ++
    "<Group name='g'><Contents/></Group></Record>")

/-- The grid of a group is one of those that are meant. -/
theorem cell_pitch_settingGrid :
    (settingGrid "5pt").job.config.check = .ok () ∧
    ∃ rules document s gaps, (settingGrid "5pt").Begins ⟨[], []⟩ rules document s ∧
      let last := ((program 4 rules document.root.name).runWith
        ((settingGrid "5pt").job.setting ⟨[], []⟩ document) s).2.layout
      s.layout.Regrids gaps last ∧ last.grids ≠ [] ∧ ∀ g ∈ last.grids, s.layout.BuiltDuring gaps last g := by
  have hend : (lastLayout? 4 ⟨[], []⟩ (settingGrid "5pt")).any (!·.grids.isEmpty) = true := by
    decide +kernel
  have hcheck : (settingGrid "5pt").job.config.check = .ok () := by rfl
  generalize settingGrid "5pt" = run at hend hcheck ⊢
  obtain ⟨l, hl, hgrids⟩ := (Option.any_eq_true _ _).mp hend
  obtain ⟨rules, document, s, hbegins, rfl⟩ := begins_of_lastLayout? hl
  obtain ⟨hruns, hpoints⟩ := cell_pitch hcheck hbegins
  obtain ⟨gaps, hgaps⟩ := hruns 4 .memory
  refine ⟨hcheck, rules, document, s, gaps, hbegins, hgaps, ?_, (hpoints gaps _ hgaps).1⟩
  simpa using hgrids

/-- The configuration is accepted, and yet the pitch of the group's grid is not positive. -/
theorem pitch_can_vanish :
    (settingGrid "-10pt").job.config.check = .ok () ∧
    ∃ rules document s, (settingGrid "-10pt").Begins ⟨[], []⟩ rules document s ∧
      ∃ g ∈ ((program 4 rules document.root.name).runWith
          ((settingGrid "-10pt").job.setting ⟨[], []⟩ document) s).2.layout.grids,
        g.horizontal.gap < 0 ∧ g.horizontal.pitch ≤ 0 := by
  have hend : (lastLayout? 4 ⟨[], []⟩ (settingGrid "-10pt")).any
      (·.grids.any fun g => g.horizontal.gap < 0 && g.horizontal.pitch ≤ 0) = true := by
    decide +kernel
  refine ⟨by rfl, ?_⟩
  generalize settingGrid "-10pt" = run at hend ⊢
  obtain ⟨l, hl, hgrids⟩ := (Option.any_eq_true _ _).mp hend
  obtain ⟨rules, document, s, hbegins, rfl⟩ := begins_of_lastLayout? hl
  obtain ⟨g, hg, hgap⟩ := List.any_eq_true.mp hgrids
  rw [Bool.and_eq_true, decide_eq_true_eq, decide_eq_true_eq] at hgap
  exact ⟨rules, document, s, hbegins, g, hg, hgap⟩

end Job

end PageGrid
