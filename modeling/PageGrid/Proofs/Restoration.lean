import PageGrid.Job
import PageGrid.Proofs.Tame

/-!
# What rules give back

Rules enter scopes, begin groups and begin to create pages, and a fault may stop them in between.
Whoever applies a rule goes on with the scopes and groups that it has opened itself, so a rule must
give back all that it has opened, whether or not it fails.

An effect opens scopes and groups only in brackets, and nothing in an effect begins the creation of a
page without ending it. So the stacks are the same afterwards, by induction on the effect, and as no
page is being created at the start of a run, none is being created where a rule begins to create one.

## Main definitions

* `Session.Restored` — scopes, open groups and the creation of pages are as before;
* `Job.Ending` — how a run can end.

## Main results

* `Effect.restored` — what rules do to a session restores it;
* `Effect.notNested` — and does not end with the fault of pages that are created in each other;
* `Job.ending_runWithin` — there are no other ends of a run;
* `execute_restores` — what rules give back, and what runs never end with.
-/

namespace PageGrid

/-! ### Variables -/

namespace Scope

theorem isSome_lookup?_bind {scope : Scope} {name : String} (other : String) (v : Value)
    (h : (scope.lookup? name).isSome = true) : ((scope.bind other v).lookup? name).isSome = true := by
  rw [lookup?, Option.isSome_map, List.find?_isSome] at h ⊢
  obtain ⟨⟨n, w⟩, hmem, hn⟩ := h
  by_cases hother : n = other
  · exact ⟨(other, v), .head _, by simpa [← hother] using hn⟩
  · exact ⟨(n, w), .tail _ (List.mem_filter.mpr ⟨hmem, by simpa using hother⟩), hn⟩

end Scope

namespace Scopes

theorem length_assignIn {name : String} {v : Value} {inner inner' : List Scope}
    (h : assignIn name v inner = some inner') : inner'.length = inner.length := by
  induction inner generalizing inner' with
  | nil => cases h
  | cons scope rest ih =>
    rw [assignIn] at h
    split at h
    · cases h
      rfl
    · obtain ⟨rest', hrest, rfl⟩ := Option.map_eq_some_iff.mp h
      exact congrArg Nat.succ (ih hrest)

/-- An assignment neither enters nor leaves a scope. -/
theorem length_inner_assign (s : Scopes) (name : String) (v : Value) :
    (s.assign name v).inner.length = s.inner.length := by
  rw [assign]
  split
  · next hinner => exact length_assignIn hinner
  · rfl

/-- What is bound globally stays bound. -/
theorem isSome_outermost_assign (s : Scopes) (other : String) (v : Value) {name : String}
    (h : (s.outermost.lookup? name).isSome = true) :
    ((s.assign other v).outermost.lookup? name).isSome = true := by
  rw [assign]
  split
  · exact h
  · exact Scope.isSome_lookup?_bind other v h

end Scopes

/-! ### Groups -/

namespace Layout

variable {l l' : Layout}

/-- The names of the groups that are being filled, the innermost first. -/
def openNames (l : Layout) : List String := l.openGroups.map (·.name)

/-- The same groups are being filled, and a page is being created iff one was before. -/
structure SameStacks (l l' : Layout) : Prop where
  openNames : l'.openNames = l.openNames
  creating : l'.creating = l.creating

theorem SameStacks.rfl : SameStacks l l := ⟨Eq.refl _, Eq.refl _⟩

theorem SameStacks.inGroup (h : SameStacks l l') : l'.inGroup = l.inGroup := by
  have hempty := congrArg List.isEmpty h.openNames
  simp only [Layout.openNames, List.isEmpty_map] at hempty
  rw [Layout.inGroup, hempty, Layout.inGroup]

theorem sameStacks_finishPage (l : Layout) : SameStacks l l.finishPage := by
  rw [finishPage]
  cases l.page <;> exact ⟨rfl, rfl⟩

theorem sameStacks_setTargetGrid (l : Layout) (g : Grid Float) : SameStacks l (l.setTargetGrid g) := by
  rw [setTargetGrid]
  cases ho : l.openGroups with
  | nil => exact ⟨by simp [openNames, ho], rfl⟩
  | cons group outer => exact ⟨by simp [openNames, ho], rfl⟩

theorem sameStacks_place {x y : Float} {box : ContentBox Float} (h : l.place x y box = some l') :
    SameStacks l l' := by
  simp only [place] at h
  split at h
  · next ho =>
    cases h
    exact ⟨by simp [openNames, ho, Group.place], rfl⟩
  · next ho _ =>
    cases h
    exact ⟨by simp [openNames, ho], rfl⟩
  · cases h

theorem Change.sameStacks (h : Change l l') : SameStacks l l' := by
  cases h with
  | setGrid | record | register | mark | losePage => exact ⟨rfl, rfl⟩
  | openPage _ _ h =>
    obtain ⟨page, -, rfl⟩ := openPage_eq_ok.mp h
    exact ⟨rfl, rfl⟩
  | finishPage => exact sameStacks_finishPage l
  | grid _ _ => exact sameStacks_setTargetGrid l _
  | place h => exact sameStacks_place h

/-- A group that has begun is the one that ends. -/
theorem sameStacks_group {name : String} {l₁ l₂ : Layout} (h : l.startGroup name = .ok l₁)
    (h₁ : SameStacks l₁ l₂) : SameStacks l l₂.endGroup.2 := by
  obtain ⟨grid, rfl⟩ := startGroup_eq_ok h
  have hnames := h₁.openNames
  simp only [openNames, List.map_cons] at hnames
  obtain ⟨group, outer, ho, -, houter⟩ := List.map_eq_cons_iff.mp hnames
  simp only [endGroup, ho]
  exact ⟨houter, h₁.creating⟩

end Layout

/-! ### Sessions -/

namespace Session

variable {reports : Prop} {s t u : Session} {fault : Option Fault}

/-- There are as many scopes as before, what was bound globally still is, the same groups are being
filled, and a page is being created iff one was before. -/
structure Restored (s t : Session) : Prop extends Layout.SameStacks s.layout t.layout where
  depth : t.scopes.inner.length = s.scopes.inner.length
  globals : ∀ name, (s.scopes.outermost.lookup? name).isSome = true →
    (t.scopes.outermost.lookup? name).isSome = true

theorem Restored.of_scopes_eq (h : Layout.SameStacks s.layout t.layout) (hs : t.scopes = s.scopes) :
    Restored s t :=
  ⟨h, congrArg (·.inner.length) hs, fun _ => hs ▸ id⟩

theorem Restored.trans (h : Restored s t) (h' : Restored t u) : Restored s u :=
  ⟨⟨h'.openNames.trans h.openNames, h'.creating.trans h.creating⟩, h'.depth.trans h.depth,
    fun name hname => h'.globals name (h.globals name hname)⟩

/-- The session within one more scope. -/
def inScope (s : Session) (scope : Scope) : Session :=
  { s with scopes := ⟨scope :: s.scopes.inner, s.scopes.outermost⟩ }

/-- The scope that has been entered is the one that is left. -/
theorem Restored.pop {scope : Scope} (h : Restored (s.inScope scope) t) :
    Restored s { t with scopes := t.scopes.pop } := by
  refine ⟨h.toSameStacks, ?_, h.globals⟩
  have hdepth : t.scopes.inner.length = s.scopes.inner.length + 1 := h.depth
  rw [Scopes.pop, List.length_tail, hdepth, Nat.add_sub_cancel]

/-- **Restoration.** By induction on the effect; scopes and groups are closed by the brackets that
open them. -/
theorem Effect.restored (h : Effect reports s fault t) : Restored s t := by
  induction h with
  | refl | stop | log => exact .of_scopes_eq .rfl rfl
  | trans _ _ ih ih' => exact ih.trans ih'
  | assign s name v =>
    exact ⟨.rfl, s.scopes.length_inner_assign name v,
      fun _ => s.scopes.isSome_outermost_assign name v⟩
  | change h => exact .of_scopes_eq h.sameStacks rfl
  | scope _ _ ih => exact ih.pop
  | group hl _ ih => exact ⟨Layout.sameStacks_group hl ih.toSameStacks, ih.depth, ih.globals⟩
  | report _ _ _ _ ih => exact ih.trans (.of_scopes_eq .rfl rfl)

/-- **Nested creation.** Where no page is being created, nothing ends with the fault of pages that are
created in each other. -/
theorem Effect.notNested (h : Effect reports s fault t) (hs : s.layout.creating = false) :
    ∀ f ∈ fault, f.cause ≠ .nestedPageCreation := by
  induction h with
  | refl | log | assign | change => nofun
  | stop s hcause =>
    intro f hf hnested
    cases hf
    simp [hcause.nested hnested] at hs
  | trans h _ _ ih => exact ih (h.restored.creating.trans hs)
  | scope _ _ ih => exact ih hs
  | group hl _ ih =>
    refine ih ?_
    obtain ⟨grid, rfl⟩ := Layout.startGroup_eq_ok hl
    exact hs
  | @report s t raised _ _ _ _ ih =>
    intro f hf
    cases hf
    exact ih hs raised rfl

end Session

/-! ### Runs -/

namespace Job

variable {job : Job} {files : FileTree} {nextId depth : Nat} {layout data : String} {sink : PageSink}

/-- A run gets to apply these rules to this document, and it begins with this session. -/
def Begins (job : Job) (files : FileTree) (nextId : Nat) (layout data : String) (rules : Rule)
    (document : Xml.Document) (s : Session) : Prop :=
  ∃ previous, previousRecord files job.config.auxFile = .ok previous ∧
    sources job.config layout data = .ok (rules, document) ∧
    s = (Session.start (startLayout job.config previous nextId)).logging
      (previousNotice job.config.auxFile previous)

/-- How a run can end: it is refused before rules are applied, it is stopped by the rules or by a page that
is refused, its side file cannot be written, or it succeeds. -/
inductive Ending (depth : Nat) (job : Job) (files : FileTree) (nextId : Nat)
    (layout data : String) (sink : PageSink) : RunOutcome → Prop
  | refused {cause : FaultCause} {notices : List LogEntry} :
      (∀ rules document s, ¬ Begins job files nextId layout data rules document s) →
        ¬ cause.OfPageCreation → Remarks notices →
        Ending depth job files nextId layout data sink (.failed (.ofCause cause) [] notices files nextId)
  | stopped {rules : Rule} {document : Xml.Document} {s t : Session} {fault : Fault} :
      Begins job files nextId layout data rules document s →
        (program depth rules document.root.name).runWith (job.setting files document sink) s =
          (.error fault, t) →
        Ending depth job files nextId layout data sink
          (.failed fault t.layout.finished t.entries files t.layout.nextId)
  | unsaved {rules : Rule} {document : Xml.Document} {s t : Session} :
      Begins job files nextId layout data rules document s →
        (program depth rules document.root.name).runWith (job.setting files document sink) s =
          (.ok (), t) →
        Ending depth job files nextId layout data sink
          (.failed (.ofCause .sideFileAccess) t.layout.finished t.entries files t.layout.nextId)
  | finished {rules : Rule} {document : Xml.Document} {s t : Session} {outcome : RunOutcome}
      {summary : RunSummary} :
      Begins job files nextId layout data rules document s →
        (program depth rules document.root.name).runWith (job.setting files document sink) s =
          (.ok (), t) →
        outcome.result = .ok summary →
        outcome.log = t.entries ++ [finishNotice job.config summary] →
        Ending depth job files nextId layout data sink outcome

/-- Only fresh faults come from the outcome. -/
def FailsFresh {α : Type} (r : Except Fault α) : Prop := ∀ fault, r = .error fault → fault.IsFresh

theorem failsFresh_ok {α : Type} (a : α) : FailsFresh (.ok a) := nofun

theorem failsFresh_error {α : Type} {cause : FaultCause} (h : ¬ cause.OfPageCreation) :
    FailsFresh (.error (.ofCause cause) : Except Fault α) := by
  rintro _ ⟨⟩
  exact Fault.isFresh_ofCause h

theorem failsFresh_mapError {ε α : Type} {f : ε → Fault} (h : ∀ e, (f e).IsFresh)
    (r : Except ε α) : FailsFresh (r.mapError f) := by
  cases r with
  | ok a => exact failsFresh_ok a
  | error e =>
    rintro _ ⟨⟩
    exact h e

theorem FailsFresh.bind {α β : Type} {r : Except Fault α} {f : α → Except Fault β}
    (hr : FailsFresh r) (hf : ∀ a, FailsFresh (f a)) : FailsFresh (r >>= f) := by
  cases r with
  | ok a => exact hf a
  | error e => exact fun fault h => hr fault (by cases h; rfl)

theorem failsFresh_previousRecord (files : FileTree) (path : String) :
    FailsFresh (previousRecord files path) := by
  rw [previousRecord]
  split
  · exact failsFresh_ok none
  · exact failsFresh_error nofun
  · split
    · exact failsFresh_ok _
    · exact failsFresh_error nofun

theorem isFresh_ofRuleFault (fault : RuleFault) : (Fault.ofRuleFault fault).IsFresh := by
  cases fault with
  | malformed | wrongNamespace | wrongRoot => exact Fault.isFresh_ofCause nofun

theorem isFresh_version (m : Version.Mismatch) : (Fault.ofCause (.version m)).IsFresh :=
  Fault.isFresh_ofCause nofun

theorem failsFresh_parse (rules : Rule) (data : String) : FailsFresh
    (match Xml.Document.parse data with
      | some d => return (rules, d)
      | none => throw (.ofCause .dataSyntax)) := by
  split
  · exact failsFresh_ok _
  · exact failsFresh_error nofun

theorem failsFresh_sources (c : Config) (layout data : String) :
    FailsFresh (sources c layout data) := by
  refine (failsFresh_mapError isFresh_ofRuleFault _).bind fun rules => ?_
  dsimp only
  split
  · split
    · exact failsFresh_parse rules data
    · exact (failsFresh_mapError isFresh_version _).bind fun _ => failsFresh_parse rules data
  · exact failsFresh_parse rules data

theorem remarks_previousNotice (path : String) (previous : Option JobRecord) :
    Remarks (previousNotice path previous) :=
  remarks_map nofun _

/-- **Endings.** -/
theorem ending_runWithin (depth : Nat) (job : Job) (files : FileTree) (nextId : Nat)
    (layout data : String) (sink : PageSink) :
    Ending depth job files nextId layout data sink (job.runWithin depth files nextId layout data sink) := by
  unfold runWithin
  dsimp only
  cases hprevious : previousRecord files job.config.auxFile with
  | error fault =>
    obtain ⟨cause, hcause, rfl⟩ := failsFresh_previousRecord _ _ fault hprevious
    refine .refused (fun rules document s h => ?_) hcause remarks_nil
    obtain ⟨previous, h, -, -⟩ := h
    cases hprevious.symm.trans h
  | ok previous =>
    dsimp only
    cases hsources : sources job.config layout data with
    | error fault =>
      obtain ⟨cause, hcause, rfl⟩ := failsFresh_sources _ _ _ fault hsources
      refine .refused (fun rules document s h => ?_) hcause (remarks_previousNotice _ previous)
      obtain ⟨_, -, h, -⟩ := h
      cases hsources.symm.trans h
    | ok found =>
      obtain ⟨rules, document⟩ := found
      have hbegins : Begins job files nextId layout data rules document _ :=
        ⟨previous, hprevious, hsources, rfl⟩
      dsimp only
      rcases hrun : (program depth rules document.root.name).runWith (job.setting files document sink)
        _ with ⟨fault | _, t⟩
      · exact .stopped hbegins hrun
      · dsimp only
        split
        · exact .unsaved hbegins hrun
        · exact .finished hbegins hrun rfl rfl

/-- The program of a run, given the way in which rules are applied. -/
def programWith (apply : Command.Children) (rules : Rule) (rootName : String) : Action Unit := do
  let focus := Focus.single Xml.Document.rootElement
  let _ ← Interpreter.executeAll apply focus rules.elements
  match (← Action.layout).patterns.lookup? rootName "" with
  | none => Action.stop (.missingRootRule rootName)
  | some recorded =>
    let _ ← Interpreter.executeAll apply focus recorded.elements
    Action.finishPage

theorem program_eq (depth : Nat) (rules : Rule) (rootName : String) :
    program depth rules rootName = programWith (Interpreter.execute depth) rules rootName := rfl

/-- The program of a run stays within a relation that the application of rules stays within, from a start
outside groups. -/
theorem withinOf_programWith {R : Session → Option Fault → Session → Prop} [Session.Closed R]
    {reports : Prop} {apply : Command.Children} (h : ∀ rule focus, Action.Within R (apply rule focus))
    (htame : ∀ rule focus, Action.Tame reports (apply rule focus)) (rules : Rule) (rootName : String)
    {setting : Setting} {s : Session} (hs : s.layout.inGroup = false) :
    Action.WithinOf R (programWith apply rules rootName) setting s := by
  have hrules (rule : Rule) :=
    Interpreter.within_executeAll h (.single Xml.Document.rootElement) rule.elements
  have houtside {rule : Rule} {s t : Session} {items : Items} (hs : s.layout.inGroup = false)
      (h : (Interpreter.executeAll apply (.single Xml.Document.rootElement) rule.elements).runWith
        setting s = (.ok items, t)) : t.layout.inGroup = false := by
    have ht := (Interpreter.tame_executeAll htame (.single Xml.Document.rootElement) rule.elements
      setting s).restored
    rw [h] at ht
    exact ht.inGroup.trans hs
  refine Action.withinOf_bind (hrules rules setting s) fun _ t ht => ?_
  rw [Action.WithinOf, Action.runWith_bind_of_ok Action.runWith_layout]
  cases t.layout.patterns.lookup? rootName "" with
  | none => exact Session.Sequential.stop t (by rintro ⟨⟩)
  | some recorded =>
    refine Action.withinOf_bind (hrules recorded setting t) fun _ u hu => ?_
    exact Session.Closed.finishPage (houtside (houtside hs ht) hu) setting

/-- At the start of a run no group is being filled and no page is being created. -/
theorem Begins.idle {rules : Rule} {document : Xml.Document} {s : Session}
    (h : Begins job files nextId layout data rules document s) :
    s.layout.inGroup = false ∧ s.layout.creating = false := by
  obtain ⟨previous, -, -, rfl⟩ := h
  exact ⟨rfl, rfl⟩

theorem Begins.unique {rules rules' : Rule} {document document' : Xml.Document} {s s' : Session}
    (h : Begins job files nextId layout data rules document s)
    (h' : Begins job files nextId layout data rules' document' s') :
    rules = rules' ∧ document = document' ∧ s = s' := by
  obtain ⟨previous, hprevious, hsources, rfl⟩ := h
  obtain ⟨previous', hprevious', hsources', rfl⟩ := h'
  cases hprevious.symm.trans hprevious'
  cases hsources.symm.trans hsources'
  exact ⟨rfl, rfl, rfl⟩

/-- What the program does to a session that a run begins with. -/
theorem Begins.effect {reports : Prop} {apply : Command.Children} {rules : Rule}
    {document : Xml.Document} {s : Session}
    (h : Begins job files nextId layout data rules document s)
    (happly : ∀ rule focus, Action.Tame reports (apply rule focus)) (sink : PageSink) :
    Action.EffectOf reports (programWith apply rules document.root.name)
      (job.setting files document sink) s :=
  withinOf_programWith happly happly rules document.root.name h.idle.1

theorem notNested_runWithin {fault : Fault}
    (h : (job.runWithin depth files nextId layout data sink).result = .error fault) :
    fault.cause ≠ .nestedPageCreation := by
  have hending := ending_runWithin depth job files nextId layout data sink
  generalize job.runWithin depth files nextId layout data sink = outcome at h hending
  cases hending with
  | refused _ hcause _ =>
    cases h
    rintro rfl
    exact hcause .nested
  | @stopped rules document s t raised hbegins hrun =>
    cases h
    have heffect := hbegins.effect (Interpreter.tame_execute depth) sink
    rw [Action.EffectOf, ← program_eq, hrun] at heffect
    exact heffect.notNested hbegins.idle.2 raised rfl
  | unsaved _ _ =>
    cases h
    rintro ⟨⟩
  | finished _ _ hresult _ => cases hresult.symm.trans h

end Job

namespace Interpreter

/-- **Rules give back what they open.** Applying a rule while no page is being created leaves as many
scopes as before, the open groups with their names, and no page being created, whether or not it
fails, and it does not fail because pages are created in each other. Neither does any run. Rules in a
scope of their own leave this scope on top of those around it, so that it is the one that is left,
and whatever was bound globally still is. -/
theorem execute_restores :
    (∀ (depth : Nat) (rule : Rule) (focus : Focus) (setting : Setting) (s : Session),
      s.layout.creating = false →
      Session.Restored s ((execute depth rule focus).runWith setting s).2 ∧
        ((execute depth rule focus).runWith setting s).2.layout.creating = false ∧
        ∀ fault, ((execute depth rule focus).runWith setting s).1 = .error fault →
          fault.cause ≠ .nestedPageCreation) ∧
    (∀ (depth : Nat) (rule : Rule) (focus : Focus) (setting : Setting) (s t : Session)
      (scope : Scope),
      ((executeChildren depth rule focus).runWith setting (s.inScope scope)).2 = t →
      (∃ top, t.scopes.inner = top :: t.scopes.pop.inner) ∧
        t.scopes.pop.inner.length = s.scopes.inner.length ∧
        ∀ name, (s.scopes.outermost.lookup? name).isSome = true →
          (t.scopes.pop.outermost.lookup? name).isSome = true) ∧
    ∀ (depth : Nat) (job : Job) (files : FileTree) (nextId : Nat) (layout data : String)
      (sink : PageSink) (fault : Fault),
        (job.runWithin depth files nextId layout data sink).result = .error fault →
        fault.cause ≠ .nestedPageCreation := by
  refine ⟨fun depth rule focus setting s hs => ?_, fun depth rule focus setting s t scope ht => ?_,
    fun _ _ _ _ _ _ _ _ h => Job.notNested_runWithin h⟩
  · have heffect := tame_execute depth rule focus setting s
    refine ⟨heffect.restored, heffect.restored.creating.trans hs, fun fault hfault => ?_⟩
    exact heffect.notNested hs fault (by rw [hfault]; rfl)
  · have hinside := (tame_executeChildren depth rule focus setting (s.inScope scope)).restored
    rw [ht] at hinside
    refine ⟨?_, hinside.pop.depth, hinside.globals⟩
    have hdepth : t.scopes.inner.length = s.scopes.inner.length + 1 := hinside.depth
    cases hinner : t.scopes.inner with
    | nil => simp [hinner] at hdepth
    | cons top rest => exact ⟨top, by simp [Scopes.pop, hinner]⟩

/-- A group in a scope, with a rule in it that fails. -/
def failingGroup : Rule :=
  .bare "ForAll" [("select", ".")]
    [.bare "Group" [("name", "inner")] [.bare "Contents" [] [.bare "Box" [] []]]]

/-- The rule that finishes a page. -/
def newPage : Rule := .bare "NewPage" [] []

theorem execute_restores_failingGroup :
    ((execute 4 failingGroup .root).runWith .bare (.start .tenByTen)).1.toOption = none ∧
    Session.Restored (.start .tenByTen)
      ((execute 4 failingGroup .root).runWith .bare (.start .tenByTen)).2 ∧
    ((execute 1 newPage .root).runWith .refusing (.start .tenByTen)).1.toOption = none ∧
    Session.Restored (.start .tenByTen)
      ((execute 1 newPage .root).runWith .refusing (.start .tenByTen)).2 ∧
    (∃ t top, ((executeChildren 4 failingGroup .root).runWith .bare
        ((Session.start .tenByTen).inScope [])).2 = t ∧
      t.scopes.inner = top :: t.scopes.pop.inner) ∧
    ∃ fault, (Job.runWithin 1 ⟨{}, 0.5, []⟩ ⟨[], []⟩ 1 "" "").result = .error fault ∧
      fault.cause ≠ .nestedPageCreation := by
  have hfails : ((execute 4 failingGroup .root).runWith .bare
      (.start .tenByTen)).1.toOption = none := by
    decide +kernel
  have hrefused : ((execute 1 newPage .root).runWith .refusing
      (.start .tenByTen)).1.toOption = none := by
    decide +kernel
  obtain ⟨hexecute, hscope, hrun⟩ := execute_restores
  obtain ⟨⟨top, htop⟩, -⟩ := hscope 4 failingGroup .root .bare (.start .tenByTen) _ [] rfl
  refine ⟨hfails, (hexecute 4 failingGroup .root .bare (.start .tenByTen) rfl).1,
    hrefused, (hexecute 1 newPage .root .refusing (.start .tenByTen) rfl).1,
    ⟨_, top, rfl, htop⟩, ?_⟩
  cases hr : (Job.runWithin 1 ⟨{}, 0.5, []⟩ ⟨[], []⟩ 1 "" "").result with
  | error fault => exact ⟨fault, rfl, hrun _ _ _ _ _ _ _ fault hr⟩
  | ok summary =>
    have hrefused : (Job.runWithin 1 ⟨{}, 0.5, []⟩ ⟨[], []⟩ 1 "" "").result.toOption.isNone = true := by
      decide +kernel
    simp [hr, Except.toOption] at hrefused

end Interpreter

end PageGrid
