import PageGrid.Proofs.Inventory
import PageGrid.Proofs.NestedItems
import PageGrid.Proofs.RuleCore

/-!
# Actions on sessions that are alike

Two sessions are alike if they have the same layout and the same variables, where the rules recorded in
the layout need only be alike and the logs may be any. One action follows another one if it ends well
wherever the other one does: from a session that is alike, with a value that is related, in a session that
is alike. Nothing is said of an action that stops, so faults need not be compared, nor the texts that name
a rule and its line.

The first of the two actions also keeps a property of the layout, which is a parameter. It can be trivial,
if only the two runs are of interest. It can also be the interest alone, with the same action twice; then
what follows is that an action which ends well keeps the property, and the property may restrict what is
placed, since a box that a command places comes from a finished group or has nothing in it.

## Main definitions

* `Session.Alike` — sessions of which commands see the same;
* `Action.Follows` — an action ends well wherever another one does;
* `Layout.KeptByPages`, `Layout.KeptByCommands` — what is to be shown of the property.

## Main results

* `Follows.bind`, `Follows.trans` — two actions after one another, and three beside one another;
* `same_evaluate`, `same_expand` — expressions and templates;
* `same_ensureTarget` — the opening of a page;
* `same_text?`, `same_nodes`, `same_lengths` — attributes.
-/

namespace PageGrid

/-! ### Layouts with other recorded rules -/

/-- For each element name and mode, the rules that are recorded are alike, or none is. -/
def Patterns.Alike (p q : Patterns) : Prop :=
  ∀ element mode,
    (p.lookup? element mode).map Rule.core = (q.lookup? element mode).map Rule.core

theorem Patterns.lookup?_record (p : Patterns) (element mode other otherMode : String) (rule : Rule) :
    (p.record element mode rule).lookup? other otherMode =
      if element = other ∧ mode = otherMode then some rule else p.lookup? other otherMode := by
  rw [record, lookup?, List.find?_cons]
  by_cases h : element = other ∧ mode = otherMode
  · obtain ⟨rfl, rfl⟩ := h
    simp
  · have hfirst : (element == other && mode == otherMode) = false := by
      simpa using h
    rw [if_neg h, hfirst, List.find?_filter, lookup?]
    dsimp only
    congr 2
    funext e
    by_cases he : e.element = other ∧ e.mode = otherMode
    · obtain ⟨rfl, rfl⟩ := he
      have hkept : (e.element == element && e.mode == mode) = false := by
        rw [Bool.eq_false_iff, ne_eq, Bool.and_eq_true, beq_iff_eq, beq_iff_eq]
        exact fun hsame => h ⟨hsame.1.symm, hsame.2.symm⟩
      simp [hkept]
    · have hother : (e.element == other && e.mode == otherMode) = false := by
        simpa using he
      simp [hother]

theorem Patterns.Alike.record {p q : Patterns} (h : p.Alike q) (element mode : String)
    {rule rule' : Rule} (hrule : rule.Alike rule') :
    (p.record element mode rule).Alike (q.record element mode rule') := by
  intro other otherMode
  rw [lookup?_record, lookup?_record]
  split
  · exact congrArg some hrule
  · exact h other otherMode

namespace Layout

variable (l : Layout) (p : Patterns)

/-- The layout with other recorded rules. -/
def recording : Layout := { l with patterns := p }

theorem finishPage_recording : (l.recording p).finishPage = l.finishPage.recording p := by
  rw [finishPage, finishPage]
  cases hp : l.page <;> simp [recording, hp]

theorem setTargetGrid_recording (grid : Grid Float) :
    (l.recording p).setTargetGrid grid = (l.setTargetGrid grid).recording p := by
  rw [setTargetGrid, setTargetGrid]
  cases hg : l.openGroups <;> simp [recording, hg]

theorem openPage_recording (type : PageType Float) :
    (l.recording p).openPage type = (l.openPage type).map (·.recording p) := by
  rw [openPage, openPage]
  change Except.map _ (Page.ofType (l.pageCount + 1) type l.pageSize l.gridSettings) = _
  cases Page.ofType (l.pageCount + 1) type l.pageSize l.gridSettings <;> rfl

theorem startGroup_recording (name : String) :
    (l.recording p).startGroup name = (l.startGroup name).map (·.recording p) := by
  rw [startGroup, startGroup, show (l.recording p).targetGrid? = l.targetGrid? from rfl]
  cases l.targetGrid? with
  | some grid => rfl
  | none =>
    change Except.map _ (Grid.forPage l.pageSize l.margins l.gridSettings) = _
    dsimp only
    cases Grid.forPage l.pageSize l.margins l.gridSettings <;> rfl

theorem endGroup_recording : (l.recording p).endGroup.2 = l.endGroup.2.recording p := by
  rw [endGroup, endGroup]
  cases hg : l.openGroups <;> simp [recording, hg]

theorem place_recording (x y : Float) (box : ContentBox Float) :
    (l.recording p).place x y box = (l.place x y box).map (·.recording p) := by
  rw [place, place]
  cases hg : l.openGroups with
  | cons group outer => simp [recording, hg]
  | nil => cases hp : l.page <;> simp [recording, hg, hp]

theorem setMarker_recording (name : String) (isTarget : Bool) (shift : Option Float) :
    ((l.recording p).setMarker name isTarget shift).2 =
      (l.setMarker name isTarget shift).2.recording p := (rfl)

/-! ### Properties that commands keep -/

variable {l p}

/-- A property of layouts that the pages come and go with. -/
class KeptByPages (P : Layout → Prop) : Prop where
  creating {l : Layout} (creating : Bool) : P l → P { l with creating }
  openPage {l l' : Layout} {type : PageType Float} : P l → l.openPage type = .ok l' → P l'
  finishPage {l : Layout} : P l → P l.finishPage
  setTargetGrid {l : Layout} (grid : Grid Float) : P l → P (l.setTargetGrid grid)

/-- A box that can be placed: that of a finished group, or one with nothing in it. -/
def Sourced (l : Layout) (box : ContentBox Float) : Prop :=
  box.items = [] ∨ ∃ group ∈ l.groups, group.box? = some box

/-- A property of layouts that commands keep. -/
class KeptByCommands (P : Layout → Prop) : Prop extends KeptByPages P where
  setGrid {l : Layout} (settings : GridSettings Float) : P l → P { l with gridSettings := settings }
  register {l : Layout} (type : PageType Float) :
    P l → P { l with pageTypes := l.pageTypes.register type }
  record {l : Layout} (p : Patterns) : P l → P (l.recording p)
  setMarker {l : Layout} (name : String) (isTarget : Bool) (shift : Option Float) :
    P l → P (l.setMarker name isTarget shift).2
  startGroup {l l' : Layout} {name : String} : P l → l.startGroup name = .ok l' → P l'
  endGroup {l : Layout} : P l → P l.endGroup.2
  place {l l' : Layout} {x y : Float} {box : ContentBox Float} :
    P l → l.Sourced box → l.place x y box = some l' → P l'

instance : KeptByCommands fun _ => True where
  creating _ _ := trivial
  openPage _ _ := trivial
  finishPage _ := trivial
  setTargetGrid _ _ := trivial
  setGrid _ _ := trivial
  register _ _ := trivial
  record _ _ := trivial
  setMarker _ _ _ _ := trivial
  startGroup _ _ := trivial
  endGroup _ := trivial
  place _ _ _ := trivial

@[simp] theorem groups_setTargetGrid (grid : Grid Float) :
    (l.setTargetGrid grid).groups = l.groups := by
  rw [setTargetGrid]
  split <;> rfl

/-- Pages do not take away what can be placed. -/
instance {P : Layout → Prop} [KeptByPages P] (box : ContentBox Float) :
    KeptByPages fun l => P l ∧ l.Sourced box where
  creating creating h := ⟨KeptByPages.creating creating h.1, h.2⟩
  openPage h ho := by
    refine ⟨KeptByPages.openPage h.1 ho, ?_⟩
    obtain ⟨page, -, rfl⟩ := openPage_eq_ok.mp ho
    exact h.2
  finishPage h := ⟨KeptByPages.finishPage h.1, by simpa [Sourced] using h.2⟩
  setTargetGrid grid h := ⟨KeptByPages.setTargetGrid grid h.1, by simpa [Sourced] using h.2⟩

end Layout

/-! ### Sessions -/

/-- The second session has the layout of the first one with recorded rules that are alike, its variables
and any log. -/
def Session.Alike (s s' : Session) : Prop :=
  ∃ p log, s.layout.patterns.Alike p ∧ s' = ⟨s.layout.recording p, s.scopes, log⟩

instance : IsPreorder Session Session.Alike where
  refl s := ⟨s.layout.patterns, s.log, fun _ _ => rfl, rfl⟩
  trans := by
    rintro s _ _ ⟨p, log, hp, rfl⟩ ⟨q, log', hq, rfl⟩
    exact ⟨q, log', fun element mode => (hp element mode).trans (hq element mode), rfl⟩

namespace Action

variable {α α' β β' γ ε ε' : Type} {P : Layout → Prop} {V : α → α' → Prop} {W : β → β' → Prop}

/-- Where the first action ends well, it keeps the property of the layout, and the second action ends
well in every session that is alike, with a related value and in a session that is alike again. -/
def Follows (P : Layout → Prop) (V : α → α' → Prop) (x : Action α) (y : Action α') : Prop :=
  ∀ ⦃setting s s' a t⦄, P s.layout → s.Alike s' → x.runWith setting s = (.ok a, t) →
    P t.layout ∧ ∃ a' t', y.runWith setting s' = (.ok a', t') ∧ V a a' ∧ t.Alike t'

/-- The same with equal values. -/
abbrev Same (P : Layout → Prop) (x y : Action α) : Prop := Follows P Eq x y

/-! ### Sequences -/

theorem Follows.pure {a : α} {a' : α'} (h : V a a') : Follows P V (Pure.pure a) (Pure.pure a') := by
  rintro setting s s' _ _ hP hs ⟨⟩
  exact ⟨hP, a', s', rfl, h, hs⟩

/-- An action that stops is followed by anything. -/
theorem Follows.stop (cause : FaultCause) (y : Action α') : Follows P V (Action.stop cause) y := by
  rintro setting s s' a t - - h
  cases h

theorem Follows.refuse (rule : Rule) (issue : RuleIssue) (y : Action α') :
    Follows P V (Action.refuse rule issue) y :=
  .stop _ y

theorem Follows.mono {V' : α → α' → Prop} {x : Action α} {y : Action α'} (hx : Follows P V x y)
    (h : ∀ a a', V a a' → V' a a') : Follows P V' x y := by
  intro setting s s' a t hP hs hrun
  obtain ⟨ht, a', t', hrun', ha, htt⟩ := hx hP hs hrun
  exact ⟨ht, a', t', hrun', h a a' ha, htt⟩

/-- **Two actions after one another.** The second part is given values that are related. -/
theorem Follows.bind {x : Action α} {y : Action α'} {k : α → Action β} {k' : α' → Action β'}
    (hx : Follows P V x y) (hk : ∀ a a', V a a' → Follows P W (k a) (k' a')) :
    Follows P W (x >>= k) (y >>= k') := by
  intro setting s s' b u hP hs hrun
  obtain ⟨a, t, hrunx, hrunk⟩ := runWith_bind_eq_ok.mp hrun
  obtain ⟨ht, a', t', hruny, ha, htt⟩ := hx hP hs hrunx
  obtain ⟨hu, b', u', hrunk', hb, huu⟩ := hk a a' ha ht htt hrunk
  exact ⟨hu, b', u', runWith_bind_eq_ok.mpr ⟨a', t', hruny, hrunk'⟩, hb, huu⟩

theorem Same.bind {x y : Action α} {k : α → Action β} {k' : α → Action β'} (hx : Same P x y)
    (hk : ∀ a, Follows P W (k a) (k' a)) : Follows P W (x >>= k) (y >>= k') :=
  Follows.bind hx fun a _ h => h ▸ hk a

theorem Same.map {x y : Action α} (hx : Same P x y) (f : α → β) : Same P (f <$> x) (f <$> y) :=
  hx.bind fun _ => .pure rfl

/-- What the first part has shown can be used in the second part. -/
theorem Follows.bind_of {Q : α → Layout → Prop} {x : Action α} {y : Action α'} {k : α → Action β}
    {k' : α' → Action β'} (hx : Follows P V x y)
    (hQ : ∀ setting s a t, P s.layout → x.runWith setting s = (.ok a, t) → Q a t.layout)
    (hk : ∀ a a', V a a' → Follows (fun l => P l ∧ Q a l) W (k a) (k' a')) :
    Follows P W (x >>= k) (y >>= k') := by
  intro setting s s' b u hP hs hrun
  obtain ⟨a, t, hrunx, hrunk⟩ := runWith_bind_eq_ok.mp hrun
  obtain ⟨ht, a', t', hruny, ha, htt⟩ := hx hP hs hrunx
  obtain ⟨hu, b', u', hrunk', hb, huu⟩ := hk a a' ha ⟨ht, hQ _ _ _ _ hP hrunx⟩ htt hrunk
  exact ⟨hu.1, b', u', runWith_bind_eq_ok.mpr ⟨a', t', hruny, hrunk'⟩, hb, huu⟩

/-- **Three actions beside one another.** -/
theorem Follows.trans {V' : α' → γ → Prop} {V'' : α → γ → Prop} {x : Action α} {y : Action α'}
    {z : Action γ} (hxy : Follows P V x y) (hyz : Follows P V' y z)
    (h : ∀ a a' c, V a a' → V' a' c → V'' a c) : Follows P V'' x z := by
  intro setting s s' a t hP hs hrun
  obtain ⟨ht, a', t', hruny, ha, htt⟩ := hxy hP (refl_of Session.Alike s) hrun
  obtain ⟨-, c, u, hrunz, hc, htu⟩ := hyz hP hs hruny
  exact ⟨ht, c, u, hrunz, h a a' c ha hc, trans_of Session.Alike htt htu⟩

theorem Follows.ite {c : Prop} [Decidable c] {x y : Action α} {x' y' : Action α'}
    (hx : Follows P V x x') (hy : Follows P V y y') :
    Follows P V (if c then x else y) (if c then x' else y') := by
  split
  · exact hx
  · exact hy

theorem runWith_followedBy_eq_ok {x : Action α} {after : Action Unit} {setting : Setting}
    {s u : Session} {a : α} : (x.followedBy after).runWith setting s = (.ok a, u) ↔
      ∃ t, x.runWith setting s = (.ok a, t) ∧ after.runWith setting t = (.ok (), u) := by
  dsimp only [Action.followedBy, runWith]
  rcases x setting s with ⟨_ | b, t⟩
  · simp
  · rcases hafter : after setting t with ⟨_ | _, u⟩
    · simp [hafter]
    · simp [hafter]

/-- What comes after an action in any case. -/
theorem Follows.followedBy {x : Action α} {y : Action α'} {after after' : Action Unit}
    (hx : Follows P V x y) (hafter : Same P after after') :
    Follows P V (x.followedBy after) (y.followedBy after') := by
  intro setting s s' a u hP hs hrun
  obtain ⟨t, hrunx, hthen⟩ := runWith_followedBy_eq_ok.mp hrun
  obtain ⟨ht, a', t', hruny, ha, htt⟩ := hx hP hs hrunx
  obtain ⟨hu, _, u', hthen', -, huu⟩ := hafter ht htt hthen
  exact ⟨hu, a', u', runWith_followedBy_eq_ok.mpr ⟨t', hruny, hthen'⟩, ha, huu⟩

/-- What ends well has no fault to report. -/
theorem runWith_reporting_eq_ok {place : String} {x : Action α} {setting : Setting} {s t : Session}
    {a : α} : (x.reporting place).runWith setting s = (.ok a, t) ↔
      x.runWith setting s = (.ok a, t) := by
  rw [runWith_reporting]
  rcases x.runWith setting s with ⟨e | d, t⟩
  · by_cases he : e.isReported <;> simp [he]
  · rfl

theorem Follows.reporting_left {x : Action α} {y : Action α'} (hx : Follows P V x y)
    (place : String) : Follows P V (x.reporting place) y :=
  fun _ _ _ _ _ hP hs hrun => hx hP hs (runWith_reporting_eq_ok.mp hrun)

theorem Follows.reporting_right {x : Action α} {y : Action α'} (hx : Follows P V x y)
    (place : String) : Follows P V x (y.reporting place) := by
  intro setting s s' a t hP hs hrun
  obtain ⟨ht, a', t', hruny, ha, htt⟩ := hx hP hs hrun
  exact ⟨ht, a', t', runWith_reporting_eq_ok.mpr hruny, ha, htt⟩

/-! ### The session -/

theorem follows_read {k : Setting → Action β} {k' : Setting → Action β'}
    (h : ∀ setting, Follows P W (k setting) (k' setting)) :
    Follows P W (read >>= k) (read >>= k') :=
  fun setting _ _ _ _ hP hs hrun => h setting hP hs hrun

/-- What reads the layout goes on with one that is the same but for the recorded rules. -/
theorem follows_layout {k : Layout → Action β} {k' : Layout → Action β'}
    (h : ∀ l p, P l → l.patterns.Alike p → Follows P W (k l) (k' (l.recording p))) :
    Follows P W (layout >>= k) (layout >>= k') := by
  rintro setting s _ b t hP ⟨p, log, hp, rfl⟩ hrun
  exact h s.layout p hP hp hP ⟨p, log, hp, rfl⟩ hrun

theorem same_setLayout {l : Layout} {p : Patterns} (hP : P l) (hp : l.patterns.Alike p) :
    Same P (setLayout l) (setLayout (l.recording p)) := by
  rintro setting s _ _ _ - ⟨-, log, -, rfl⟩ ⟨⟩
  exact ⟨hP, (), _, rfl, rfl, p, log, hp, rfl⟩

/-- A change of the layout, where the recorded rules may change alike. -/
theorem same_modifyLayout_of {f f' : Layout → Layout} (hP : ∀ l, P l → P (f l))
    (hf : ∀ l p, l.patterns.Alike p →
      ∃ q, (f l).patterns.Alike q ∧ f' (l.recording p) = (f l).recording q) :
    Same P (modifyLayout f) (modifyLayout f') := by
  rintro setting s _ _ _ hs ⟨p, log, hp, rfl⟩ ⟨⟩
  obtain ⟨q, hq, hlayout⟩ := hf s.layout p hp
  refine ⟨hP _ hs, (), _, rfl, rfl, q, log, hq, ?_⟩
  dsimp only
  rw [hlayout]

/-- A change of the layout that has nothing to do with the recorded rules. -/
theorem same_modifyLayout {f : Layout → Layout} (hP : ∀ l, P l → P (f l))
    (hf : ∀ l p, f (l.recording p) = (f l).recording p) :
    Same P (modifyLayout f) (modifyLayout f) := by
  refine same_modifyLayout_of hP fun l p hp => ⟨p, ?_, hf l p⟩
  have hkept : (f l).patterns = l.patterns := congrArg (·.patterns) (hf l l.patterns)
  rwa [hkept]

theorem same_modifyScopes (f : Scopes → Scopes) : Same P (modifyScopes f) (modifyScopes f) := by
  rintro setting s _ _ _ hP ⟨p, log, hp, rfl⟩ ⟨⟩
  exact ⟨hP, (), _, rfl, rfl, p, log, hp, rfl⟩

theorem same_log (entries entries' : List LogEntry) : Same P (log entries) (log entries') := by
  rintro setting s _ _ _ hP ⟨p, log, hp, rfl⟩ ⟨⟩
  exact ⟨hP, (), _, rfl, rfl, p, _, hp, rfl⟩

theorem same_warn (text text' : String) : Same P (warn text) (warn text') := same_log _ _

/-- A warning that only the first action gives. -/
theorem Follows.warn_left {text : String} {k : Unit → Action β} {y : Action β'}
    (h : Follows P W (k ()) y) : Follows P W (warn text >>= k) y := by
  rintro setting s _ b t hP ⟨p, log, hp, rfl⟩ hrun
  have hwarned : P (s.logging [.warning text]).layout := hP
  have hs : (s.logging [.warning text]).Alike ⟨s.layout.recording p, s.scopes, log⟩ :=
    ⟨p, log, hp, rfl⟩
  exact h hwarned hs hrun

/-- A warning that only the second action gives. -/
theorem Follows.warn_right {text : String} {x : Action β} {k : Unit → Action β'}
    (h : Follows P W x (k ())) : Follows P W x (warn text >>= k) := by
  rintro setting s _ b t hP ⟨p, log, hp, rfl⟩ hrun
  have hs : s.Alike (Session.logging ⟨s.layout.recording p, s.scopes, log⟩ [.warning text]) :=
    ⟨p, _, hp, rfl⟩
  exact h hP hs hrun

theorem follows_ofExcept {cause : ε → FaultCause} {cause' : ε' → FaultCause} {r : Except ε α}
    {r' : Except ε' α'} (h : ∀ a, r = .ok a → ∃ a', r' = .ok a' ∧ V a a') :
    Follows P V (ofExcept cause r) (ofExcept cause' r') := by
  cases r with
  | error e => exact .stop _ _
  | ok a =>
    obtain ⟨a', rfl, ha⟩ := h a rfl
    exact .pure ha

theorem same_ofExcept (cause cause' : ε → FaultCause) (r : Except ε α) :
    Same P (ofExcept cause r) (ofExcept cause' r) :=
  follows_ofExcept fun a ha => ⟨a, ha, rfl⟩

theorem same_targetGrid (rule rule' : Rule) : Same P (targetGrid rule) (targetGrid rule') := by
  refine follows_layout fun l p _ _ => ?_
  rw [show (l.recording p).targetGrid? = l.targetGrid? from rfl]
  cases l.targetGrid? with
  | some grid => exact .pure rfl
  | none => exact .refuse _ _ _

theorem same_setTargetGrid [Layout.KeptByPages P] (grid : Grid Float) :
    Same P (setTargetGrid grid) (setTargetGrid grid) :=
  same_modifyLayout (fun _ => Layout.KeptByPages.setTargetGrid grid)
    fun l p => l.setTargetGrid_recording p grid

/-! ### Expressions and templates -/

/-- **What is evaluated sees the same** document, variables and functions. -/
theorem same_context (focus : Focus) : Same P (context focus) (context focus) := by
  rintro setting s _ _ _ hP ⟨p, log, hp, rfl⟩ ⟨⟩
  exact ⟨hP, _, _, rfl, rfl, p, log, hp, rfl⟩

theorem same_noted (cause : ε → FaultCause) (x : Noted ε α) :
    Same P (noted cause x) (noted cause x) :=
  (same_log _ _).bind fun _ => same_ofExcept _ _ _

theorem same_evaluate (text : String) (focus : Focus) :
    Same P (evaluate text focus) (evaluate text focus) :=
  (same_ofExcept _ _ _).bind fun _ => (same_context focus).bind fun _ => same_noted _ _

theorem same_textOf (v : Value) : Same P (textOf v) (textOf v) :=
  follows_read fun _ => .pure rfl

theorem same_expand (text : String) (focus : Focus) :
    Same P (expand text focus) (expand text focus) :=
  (same_ofExcept _ _ _).bind fun _ => (same_context focus).bind fun _ => same_noted _ _

/-! ### Pages -/

theorem same_isEligible (focus : Focus) (type : PageType Float) :
    Same P (isEligible focus type) (isEligible focus type) := by
  refine (same_evaluate _ _).bind fun value => ?_
  cases value with
  | boolean b => exact .pure rfl
  | _ => exact .stop _ _

theorem same_firstEligible (focus : Focus) (types : List (PageType Float)) :
    Same P (PageTypes.firstEligible (isEligible focus) types)
      (PageTypes.firstEligible (isEligible focus) types) := by
  induction types with
  | nil => exact .pure rfl
  | cons type rest ih => exact (same_isEligible focus type).bind fun _ => .ite (.pure rfl) ih

theorem same_selectPageType (focus : Focus) :
    Same P (selectPageType focus) (selectPageType focus) := by
  refine follows_layout fun l p _ _ => (same_firstEligible focus _).bind fun selected => ?_
  cases selected with
  | some type => exact .pure rfl
  | none => exact .stop _ _

variable [Layout.KeptByPages P]

/-- The sink sees the same page after the same pages. -/
theorem same_finishPage : Same P finishPage finishPage := by
  rintro setting s _ _ t hP ⟨p, log, hp, rfl⟩ hrun
  obtain ⟨htaken, rfl⟩ := runWith_finishPage_eq_ok.mp hrun
  refine ⟨Layout.KeptByPages.finishPage hP, (), _, runWith_finishPage_of_taken htaken, rfl, p, log, ?_, ?_⟩
  · have hkept : s.layout.finishPage.patterns = s.layout.patterns :=
      congrArg (·.patterns) (s.layout.finishPage_recording s.layout.patterns)
    rwa [hkept]
  · rw [Layout.finishPage_recording]

theorem same_installPage (type : PageType Float) :
    Same P (installPage type) (installPage type) := by
  refine same_finishPage.bind fun _ => follows_layout fun l p hP hp => ?_
  rw [Layout.openPage_recording]
  cases ho : l.openPage type with
  | error e =>
    rintro setting s _ _ t - - h
    cases h
  | ok opened =>
    have hpatterns : opened.patterns.Alike p := by
      obtain ⟨page, -, rfl⟩ := Layout.openPage_eq_ok.mp ho
      exact hp
    exact (same_setLayout (Layout.KeptByPages.openPage hP ho) hpatterns).bind fun _ => same_log _ _

theorem same_beginPage : Same P beginPage beginPage := by
  have hbegin : Same P (modifyLayout fun l => { l with creating := true })
      (modifyLayout fun l => { l with creating := true }) :=
    same_modifyLayout (fun _ => Layout.KeptByPages.creating true) fun _ _ => rfl
  refine follows_layout fun l p _ _ => .ite ?_ hbegin
  exact Same.bind (α := Unit) (.stop _ _) fun _ => hbegin

/-- **A page is opened** where one would have been, and it is the same page. -/
theorem same_ensureTarget (focus : Focus) : Same P (ensureTarget focus) (ensureTarget focus) := by
  refine follows_layout fun l p _ _ => ?_
  rw [show (l.recording p).hasTarget = l.hasTarget from rfl]
  split
  · exact .pure rfl
  · refine same_beginPage.bind fun _ => Follows.followedBy ?_ ?_
    · exact (same_selectPageType focus).bind same_installPage
    · exact same_modifyLayout (fun _ => Layout.KeptByPages.creating false) fun _ _ => rfl

end Action

/-! ### Attributes -/

namespace Attributes

open PageGrid.Action (Same Follows)

variable {α : Type} {P : Layout → Prop} {rule rule' : Rule} (h : rule.Alike rule') (name : String)
  (focus : Focus)

include h

theorem same_text? : Same P (text? rule name focus) (text? rule' name focus) := by
  rw [text?, text?, h.attribute?_eq]
  cases rule.attribute? name with
  | some raw => exact (Action.same_expand raw focus).map _
  | none => exact .pure rfl

theorem same_text : Same P (text rule name focus) (text rule' name focus) := by
  refine (same_text? h name focus).bind fun s => ?_
  cases s with
  | some s => exact .pure rfl
  | none => exact .stop _ _

theorem same_textOr (default : String) :
    Same P (textOr rule name focus default) (textOr rule' name focus default) :=
  (same_text? h name focus).bind fun _ => .pure rfl

theorem same_read? (reader : String → Except AttributeFault α) :
    Same P (read? rule name focus reader) (read? rule' name focus reader) := by
  refine (same_text? h name focus).bind fun value => ?_
  cases value with
  | none => exact .pure rfl
  | some value =>
    dsimp only
    cases reader value with
    | ok a => exact .pure rfl
    | error fault => exact .stop _ _

theorem same_cells? : Same P (cells? rule name focus) (cells? rule' name focus) :=
  same_read? h name focus _

theorem same_cells : Same P (cells rule name focus) (cells rule' name focus) := by
  refine (same_cells? h name focus).bind fun n => ?_
  cases n with
  | some n => exact .pure rfl
  | none => exact .stop _ _

theorem same_position? : Same P (position? rule name focus) (position? rule' name focus) :=
  same_read? h name focus _

theorem same_length? : Same P (length? rule name focus) (length? rule' name focus) :=
  same_read? h name focus _

theorem same_extent? : Same P (extent? rule name focus) (extent? rule' name focus) :=
  same_read? h name focus _

theorem same_flag (default : Bool) :
    Same P (flag rule name focus default) (flag rule' name focus default) := by
  refine (same_text? h name focus).bind fun value => ?_
  cases value.map Text.trim with
  | none => exact .pure rfl
  | some value => exact .ite (.pure rfl) (.ite (.pure rfl) (.stop _ _))

theorem same_expression : Same P (expression rule name) (expression rule' name) := by
  rw [expression, expression, h.attribute?_eq]
  cases rule.attribute? name with
  | some raw => exact .pure rfl
  | none => exact .stop _ _

theorem same_nodes : Same P (nodes rule name focus) (nodes rule' name focus) := by
  refine (same_expression h name).bind fun raw => (Action.same_evaluate raw focus).bind fun value => ?_
  cases value with
  | nodes set => exact .pure rfl
  | _ => exact .stop _ _

theorem same_extents (names : List (String × Direction)) :
    Same P (extents rule focus names) (extents rule' focus names) := by
  induction names with
  | nil => exact .pure rfl
  | cons first rest ih =>
    exact (same_extent? h _ focus).bind fun _ => ih.bind fun _ => .pure rfl

theorem same_lengths [Layout.KeptByPages P] (names : List (String × Direction)) :
    Same P (lengths rule focus names) (lengths rule' focus names) := by
  refine (same_extents h focus names).bind fun found => .ite ?_ (.pure rfl)
  exact (Action.same_ensureTarget focus).bind fun _ =>
    (Action.same_targetGrid rule rule').bind fun _ => .pure rfl

end Attributes

end PageGrid
