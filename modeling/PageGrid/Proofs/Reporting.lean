import PageGrid.Proofs.Passing
import PageGrid.Proofs.Restoration

/-!
# Failures are logged once

Many actions can fail, and a fault passes many rules on its way out. Each rule logs a fault that has
not been logged, so that the innermost rule that fails is the one that is named, and a run logs what
comes from outside rules. What is to be shown is that the mark on a fault is right at every point: a
fault is marked iff it has been logged, and nothing that goes well has logged one.

Effects give the number of failures in the log. Whose failure it is takes the two ways in which a
command can end. If it ends on its own, its fault is that of its own actions, which log nothing about
it. To see this, let the applications below it fail silently: the command ends alike, and then nothing
in it logs a failure. If it passes on the fault of an application, the failure is the one in the log of
this application.

## Main definitions

* `failures` — the log entries about failures;
* `InnermostFailure` — the rule in which the fault of an application arises;
* `Job.FailsIn` — the rule in which the fault of a run arises.

## Main results

* `Effect.logsFault` — what rules do adds a failure to the log iff they stop with a logged fault;
* `logged_execute` — the failure names the innermost rule that fails;
* `Job.failed_run_logged_once` — a run logs one failure if it fails, and none otherwise.
-/

namespace PageGrid

open Command (Children)
open PageGrid.Action (Tame EffectOf)

/-! ### Failures in the log -/

/-- The entries about failures. -/
def failures (entries : List LogEntry) : List LogEntry := entries.filter (·.level = .error)

theorem Remarks.failures_eq {entries : List LogEntry} (h : Remarks entries) : failures entries = [] :=
  List.filter_eq_nil_iff.mpr fun entry hentry => by simpa using h entry hentry

@[simp] theorem failures_append (a b : List LogEntry) :
    failures (a ++ b) = failures a ++ failures b :=
  List.filter_append a b

@[simp] theorem failures_error (text : String) : failures [.error text] = [.error text] := rfl

namespace Session

variable {reports : Prop} {s t : Session} {fault : Option Fault}

/-- What has been logged about failures. -/
def failures (s : Session) : List LogEntry := PageGrid.failures s.entries

theorem failures_logging (s : Session) (entries : List LogEntry) :
    (s.logging entries).failures = s.failures ++ PageGrid.failures entries := by
  simp [failures, logging, Session.entries]

/-- The failures in the log are those from before, and one more iff there is a fault that has been
logged. -/
def LogsFault (s : Session) (fault : Option Fault) (t : Session) : Prop :=
  ∃ more : List LogEntry, t.failures = s.failures ++ more ∧
    more.length = if fault.any (·.isReported) then 1 else 0

theorem LogsFault.failures_eq (h : LogsFault s fault t) (hf : fault.any (·.isReported) = false) :
    t.failures = s.failures := by
  obtain ⟨more, ht, hlength⟩ := h
  rw [hf] at hlength
  rw [ht, List.length_eq_zero_iff.mp hlength, List.append_nil]

theorem LogsFault.eq_append (h : LogsFault s fault t) (hf : fault.any (·.isReported) = true) :
    ∃ entry, t.failures = s.failures ++ [entry] := by
  obtain ⟨more, ht, hlength⟩ := h
  rw [hf] at hlength
  obtain ⟨entry, rfl⟩ := List.length_eq_one_iff.mp hlength
  exact ⟨entry, ht⟩

theorem logsFault_of_eq (h : t.failures = s.failures) (hf : fault.any (·.isReported) = false) :
    LogsFault s fault t :=
  ⟨[], by rw [h, List.append_nil], by simp [hf]⟩

/-- **The mark of a fault.** By induction on the effect: a fault is logged where it is marked. -/
theorem Effect.logsFault (h : Effect reports s fault t) : LogsFault s fault t := by
  induction h with
  | refl | stop | assign | change => exact logsFault_of_eq rfl rfl
  | log s hentries =>
    refine logsFault_of_eq ?_ rfl
    rw [failures_logging, hentries.failures_eq, List.append_nil]
  | trans _ _ ih ih' =>
    obtain ⟨more, ht, hlength⟩ := ih'
    exact ⟨more, by rw [ht, ih.failures_eq rfl], hlength⟩
  | scope _ _ ih | group _ _ ih => exact ih
  | report text _ hfresh _ ih =>
    refine ⟨[.error text], ?_, rfl⟩
    rw [failures_logging, ih.failures_eq (by simpa using hfresh), failures_error]

/-- Without reports on the way, no fault is marked. -/
theorem Effect.unmarked (h : Effect False s fault t) : fault.any (·.isReported) = false := by
  induction h with
  | refl | stop | log | assign | change => rfl
  | trans _ _ _ ih | scope _ _ ih | group _ _ ih => exact ih
  | report _ hreports => exact hreports.elim

/-- What goes well reports nothing. -/
theorem Effect.silent (h : Effect reports s none t) : Effect False s none t := by
  generalize hfault : (none : Option Fault) = fault at h
  induction h with
  | refl s => exact .refl s
  | stop | report => cases hfault
  | trans _ _ ih ih' => exact (ih rfl).trans (ih' hfault)
  | log s hentries => exact hfault ▸ .log s hentries
  | assign s name v => exact .assign s name v
  | change h => exact .change h
  | scope scope _ ih => exact .scope scope (ih hfault)
  | group hl _ ih => exact .group hl (ih hfault)

end Session

/-! ### Commands that end on their own -/

/-- Rules are applied as before, but those that fail stop at once. -/
def Command.Children.silenced (a : Children) : Children := fun rule focus setting s =>
  match a rule focus setting s with
  | (.ok items, t) => (.ok items, t)
  | (.error _, _) => (.error (.ofCause .ruleSyntax), s)

theorem agreeOnSuccess_silenced (a : Children) : AgreeOnSuccess a a.silenced := by
  intro p setting items t h
  change a p.rule p.focus setting p.session = _ at h
  simp only [Application.run, Action.runWith, Command.Children.silenced, h]

theorem tame_silenced {reports : Prop} {a : Children}
    (ha : ∀ rule focus, Tame reports (a rule focus)) (rule : Rule) (focus : Focus) :
    Tame False (a.silenced rule focus) := by
  intro setting s
  have h := ha rule focus setting s
  rw [Action.runWith] at h
  rw [Action.runWith, Command.Children.silenced]
  rcases hr : a rule focus setting s with ⟨fault | items, t⟩
  · exact .stop s (Layout.explains (by rintro ⟨⟩))
  · rw [hr] at h
    exact h.silent

section Ending

variable {α : Type} {reports : Prop} {x : Children → Action α} {a : Children} {setting : Setting}
  {s : Session}

/-- An action that ends on its own reports nothing, if it reports nothing where the rules that it
applies do not. -/
theorem EndsAlone.effect (halone : EndsAlone x a setting s)
    (ha : ∀ rule focus, Tame reports (a rule focus))
    (hx : ∀ b, (∀ rule focus, Tame False (b rule focus)) → EffectOf False (x b) setting s) :
    EffectOf False (x a) setting s := by
  have h := hx a.silenced (tame_silenced ha)
  rwa [EffectOf, halone _ (agreeOnSuccess_silenced a)] at h

/-- The failure that the application has logged last is the one that the action has. -/
theorem PassesOn.failures_eq {q : Application} {fault raised : Fault} {t u : Session}
    {entry : LogEntry} (hpasses : PassesOn x a setting s q) (heffect : EffectOf reports (x a) setting s)
    (hx : (x a).runWith setting s = (.error fault, t)) (hq : q.run a setting = (.error raised, u))
    (hmark : raised.isReported = true) (hentry : u.failures = q.session.failures ++ [entry]) :
    fault = raised ∧ t.failures = s.failures ++ [entry] := by
  obtain ⟨v, hv, hlog⟩ := hpasses.passes _ raised u (.refl _) hq
  cases hv.symm.trans hx
  rw [EffectOf, hx] at heffect
  obtain ⟨entry', hentry'⟩ := heffect.logsFault.eq_append hmark
  have hsame : t.failures = u.failures := by
    rw [Session.failures, Session.entries, hlog]
    rfl
  rw [hentry', hentry] at hsame
  exact ⟨rfl, by rw [hentry', (List.append_inj' hsame rfl).2]⟩

end Ending

/-! ### The innermost failure -/

namespace Interpreter

variable {setting : Setting} {depth : Nat} {p q : Application} {fault : Fault} {t : Session}

/-- The command of a rule, given the way in which the rules below are applied. -/
def body (command : CommandName) (p : Application) (apply : Children) : Action Items :=
  command.run (fun rule focus => executeAll apply focus rule.elements) p.rule p.focus

/-- The fault of an application arises in a rule: in the rule that is applied, if rules are nested too
deeply or its command ends on its own, and otherwise in the rule below it whose fault is passed on. -/
inductive InnermostFailure (setting : Setting) : Nat → Application → Rule → Prop
  | tooDeep (p : Application) : InnermostFailure setting 0 p p.rule
  | alone {depth : Nat} {p : Application} {command : CommandName} {fault : Fault} {t : Session} :
      p.rule.isLayout = true → CommandName.ofName? p.rule.name = some command →
        (body command p (execute depth)).runWith setting p.session = (.error fault, t) →
        EndsAlone (body command p) (execute depth) setting p.session →
        InnermostFailure setting (depth + 1) p p.rule
  | passed {depth : Nat} {p q : Application} {command : CommandName} {inner : Rule} :
      p.rule.isLayout = true → CommandName.ofName? p.rule.name = some command →
        PassesOn (body command p) (execute depth) setting p.session q →
        InnermostFailure setting depth q inner → InnermostFailure setting (depth + 1) p inner

theorem InnermostFailure.unique {inner inner' : Rule} (h : InnermostFailure setting depth p inner)
    (h' : InnermostFailure setting depth p inner') : inner = inner' := by
  induction h with
  | tooDeep =>
    cases h'
    rfl
  | alone _ hcommand _ halone =>
    cases h' with
    | alone => rfl
    | passed _ hcommand' hpasses _ =>
      obtain rfl := Option.some.inj (hcommand.symm.trans hcommand')
      exact absurd halone hpasses.not_endsAlone
  | passed _ hcommand hpasses _ ih =>
    cases h' with
    | alone _ hcommand' _ halone =>
      obtain rfl := Option.some.inj (hcommand.symm.trans hcommand')
      exact absurd halone hpasses.not_endsAlone
    | passed _ hcommand' hpasses' hinner' =>
      obtain rfl := Option.some.inj (hcommand.symm.trans hcommand')
      obtain rfl := hpasses.unique hpasses'
      exact ih hinner'

/-- Only rules with a command fail. -/
theorem execute_eq_error (h : p.run (execute (depth + 1)) setting = (.error fault, t)) :
    p.rule.isLayout = true ∧ ∃ command, CommandName.ofName? p.rule.name = some command ∧
      (Action.reporting (placeOf p.rule) (body command p (execute depth))).runWith setting p.session =
        (.error fault, t) := by
  rw [Application.run, execute] at h
  split at h
  · cases h
  · next hlayout =>
    refine ⟨by simpa using hlayout, ?_⟩
    cases hcommand : CommandName.ofName? p.rule.name with
    | none =>
      rw [hcommand] at h
      cases h
    | some command =>
      rw [hcommand] at h
      exact ⟨command, rfl, h⟩

theorem isEmpty_placeOf (rule : Rule) : (placeOf rule).isEmpty = false := by
  simp [placeOf]

/-- The failure that names a rule. -/
def failureIn (rule : Rule) (fault : Fault) : LogEntry :=
  .error s!"{placeOf rule}: {fault.message}"

theorem reporting_eq_error {α : Type} {x : Action α} {rule : Rule} {s : Session}
    (h : (x.reporting (placeOf rule)).runWith setting s = (.error fault, t)) :
    (fault.isReported = true ∧ x.runWith setting s = (.error fault, t)) ∨
      ∃ raised u, x.runWith setting s = (.error raised, u) ∧ raised.isReported = false ∧
        fault = { raised with isReported := true } ∧ t = u.logging [failureIn rule fault] := by
  rw [Action.runWith_reporting] at h
  rcases hr : x.runWith setting s with ⟨raised | a, u⟩
  all_goals rw [hr] at h
  · dsimp only at h
    split at h
    · next hraised =>
      cases h
      exact .inl ⟨hraised, rfl⟩
    · next hraised =>
      rw [isEmpty_placeOf] at h
      cases h
      exact .inr ⟨raised, _, rfl, Bool.eq_false_iff.mpr hraised, rfl, rfl⟩
  · cases h

theorem traceable_body (command : CommandName) (p : Application) : Traceable (body command p) :=
  command.traceable_run (fun rule focus => traceable_executeAll focus rule.elements) p.rule p.focus

theorem tame_body {reports : Prop} {apply : Children}
    (h : ∀ rule focus, Tame reports (apply rule focus)) (command : CommandName) (p : Application) :
    Tame reports (body command p apply) :=
  command.tame_run (fun rule focus => tame_executeAll h focus rule.elements) p.rule p.focus

/-- A command that ends on its own has logged no failure, and its rule logs the fault. -/
theorem logged_of_endsAlone {command : CommandName}
    (halone : EndsAlone (body command p) (execute depth) setting p.session)
    (h : (Action.reporting (placeOf p.rule) (body command p (execute depth))).runWith setting
      p.session = (.error fault, t)) :
    fault.isReported = true ∧
      (∃ raised u, (body command p (execute depth)).runWith setting p.session = (.error raised, u)) ∧
      t.failures = p.session.failures ++ [failureIn p.rule fault] := by
  have heffect := halone.effect (tame_execute depth) fun b hb => tame_body hb command p setting _
  rw [EffectOf] at heffect
  obtain ⟨hmark, hbody⟩ | ⟨raised, u, hbody, -, rfl, rfl⟩ := reporting_eq_error h
  all_goals rw [hbody] at heffect
  · cases hmark.symm.trans heffect.unmarked
  · refine ⟨rfl, ⟨raised, u, hbody⟩, ?_⟩
    rw [Session.failures_logging, heffect.logsFault.failures_eq heffect.unmarked]
    rfl

/-- **The innermost failure is logged.** By induction on the depth. -/
theorem logged_execute (h : p.run (execute depth) setting = (.error fault, t)) :
    fault.isReported = true ∧ ∃ inner, InnermostFailure setting depth p inner ∧
      t.failures = p.session.failures ++ [failureIn inner fault] := by
  induction depth generalizing p fault t with
  | zero =>
    obtain ⟨hmark, hrun⟩ | ⟨raised, u, hrun, -, rfl, rfl⟩ := reporting_eq_error h
    · cases hrun
      cases hmark
    · cases hrun
      exact ⟨rfl, p.rule, .tooDeep p, Session.failures_logging _ _⟩
  | succ depth ih =>
    obtain ⟨hlayout, command, hcommand, hrun⟩ := execute_eq_error h
    obtain halone | ⟨q, hpasses⟩ := traceable_body command p (execute depth) setting p.session
    · obtain ⟨hmark, ⟨raised, u, hbody⟩, ht⟩ := logged_of_endsAlone halone hrun
      exact ⟨hmark, p.rule, .alone hlayout hcommand hbody halone, ht⟩
    · obtain ⟨raised, u, hq⟩ := hpasses.fails
      obtain ⟨hmark, inner, hinner, hu⟩ := ih hq
      obtain ⟨v, hv, -⟩ := hpasses.passes _ raised u (.refl _) hq
      have heffect := tame_body (tame_execute depth) command p setting p.session
      obtain ⟨-, hbody⟩ | ⟨raised', v', hbody, hraised, -, -⟩ := reporting_eq_error hrun
      · obtain ⟨rfl, ht⟩ := hpasses.failures_eq heffect hbody hq hmark hu
        exact ⟨hmark, inner, .passed hlayout hcommand hpasses hinner, ht⟩
      · cases hv.symm.trans hbody
        cases hmark.symm.trans hraised

end Interpreter

/-! ### Runs -/

namespace Job

open Interpreter (InnermostFailure execute failureIn placeOf)

variable {job : Job} {files : FileTree} {nextId depth : Nat} {layout data : String} {sink : PageSink}

/-- The fault of a run arises in a rule: the run applies rules, and it ends with the fault of an
application, which arises in this rule. -/
def FailsIn (depth : Nat) (job : Job) (files : FileTree) (nextId : Nat) (layout data : String)
    (sink : PageSink) (inner : Rule) : Prop :=
  ∃ rules document s p, Begins job files nextId layout data rules document s ∧
    PassesOn (programWith · rules document.root.name) (execute depth) (job.setting files document sink) s
      p ∧
    InnermostFailure (job.setting files document sink) depth p inner

/-- A run that applies rules fails in a rule iff the program passes on the fault of an application. -/
theorem failsIn_iff {rules : Rule} {document : Xml.Document} {s : Session} {inner : Rule}
    (hbegins : Begins job files nextId layout data rules document s) :
    FailsIn depth job files nextId layout data sink inner ↔
      ∃ p, PassesOn (programWith · rules document.root.name) (execute depth)
          (job.setting files document sink) s p ∧
        InnermostFailure (job.setting files document sink) depth p inner := by
  constructor
  · rintro ⟨_, _, _, p, hbegins', hpasses, hinner⟩
    obtain ⟨rfl, rfl, rfl⟩ := hbegins.unique hbegins'
    exact ⟨p, hpasses, hinner⟩
  · rintro ⟨p, hpasses, hinner⟩
    exact ⟨rules, document, s, p, hbegins, hpasses, hinner⟩

theorem FailsIn.unique {inner inner' : Rule} (h : FailsIn depth job files nextId layout data sink inner)
    (h' : FailsIn depth job files nextId layout data sink inner') : inner' = inner := by
  obtain ⟨rules, document, s, p, hbegins, hpasses, hinner⟩ := h
  obtain ⟨p', hpasses', hinner'⟩ := (failsIn_iff hbegins).mp h'
  obtain rfl := hpasses.unique hpasses'
  exact hinner'.unique hinner

theorem Begins.failures_eq {rules : Rule} {document : Xml.Document} {s : Session}
    (h : Begins job files nextId layout data rules document s) : s.failures = [] := by
  obtain ⟨previous, -, -, rfl⟩ := h
  rw [Session.failures_logging, (remarks_previousNotice _ previous).failures_eq]
  rfl

theorem traceable_programWith (rules : Rule) (rootName : String) :
    Traceable (programWith · rules rootName) := by
  refine (Interpreter.traceable_executeAll _ rules.elements).bind fun _ =>
    (Traceable.own Action.layout).bind fun l => ?_
  cases l.patterns.lookup? rootName "" with
  | none => exact .own _
  | some recorded =>
    exact (Interpreter.traceable_executeAll _ recorded.elements).bind fun _ => .own _

section Program

variable {rules : Rule} {document : Xml.Document} {s t : Session} {fault : Fault}

/-- A program that ends on its own has logged no failure. -/
theorem logged_of_programAlone
    (hbegins : Begins job files nextId layout data rules document s)
    (hrun : (program depth rules document.root.name).runWith (job.setting files document sink) s =
      (.error fault, t))
    (halone : EndsAlone (programWith · rules document.root.name) (execute depth)
      (job.setting files document sink) s) :
    fault.isReported = false ∧ t.failures = [] ∧
      ∀ inner, ¬ FailsIn depth job files nextId layout data sink inner := by
  have heffect := halone.effect (Interpreter.tame_execute depth) fun b hb => hbegins.effect hb sink
  rw [EffectOf, ← program_eq, hrun] at heffect
  refine ⟨heffect.unmarked, ?_, fun inner h => ?_⟩
  · rw [heffect.logsFault.failures_eq heffect.unmarked, hbegins.failures_eq]
  · obtain ⟨p, hpasses, -⟩ := (failsIn_iff hbegins).mp h
    exact hpasses.not_endsAlone halone

/-- A program that passes on the fault of an application has logged the innermost failure. -/
theorem logged_of_programPasses {p : Application}
    (hbegins : Begins job files nextId layout data rules document s)
    (hrun : (program depth rules document.root.name).runWith (job.setting files document sink) s =
      (.error fault, t))
    (hpasses : PassesOn (programWith · rules document.root.name) (execute depth)
      (job.setting files document sink) s p) :
    fault.isReported = true ∧ ∃ inner, FailsIn depth job files nextId layout data sink inner ∧
      t.failures = [failureIn inner fault] := by
  obtain ⟨raised, u, hp⟩ := hpasses.fails
  obtain ⟨hmark, inner, hinner, hu⟩ := Interpreter.logged_execute hp
  have heffect := hbegins.effect (Interpreter.tame_execute depth) sink
  obtain ⟨rfl, ht⟩ := hpasses.failures_eq heffect hrun hp hmark hu
  rw [hbegins.failures_eq] at ht
  exact ⟨hmark, inner, (failsIn_iff hbegins).mpr ⟨p, hpasses, hinner⟩, ht⟩

/-- A program that ends well has logged no failure, and no rule in it fails. -/
theorem logged_of_programOk (hbegins : Begins job files nextId layout data rules document s)
    (hrun : (program depth rules document.root.name).runWith (job.setting files document sink) s =
      (.ok (), t)) :
    t.failures = [] ∧ ∀ inner, ¬ FailsIn depth job files nextId layout data sink inner := by
  have heffect := hbegins.effect (Interpreter.tame_execute depth) sink
  rw [EffectOf, ← program_eq, hrun] at heffect
  refine ⟨by rw [heffect.logsFault.failures_eq rfl, hbegins.failures_eq], fun inner h => ?_⟩
  obtain ⟨p, hpasses, -⟩ := (failsIn_iff hbegins).mp h
  obtain ⟨raised, u, hp⟩ := hpasses.fails
  obtain ⟨v, hv, -⟩ := hpasses.passes _ raised u (.refl _) hp
  cases hv.symm.trans hrun

end Program

/-- A run that fails logs the fault itself if nobody else has. -/
theorem failures_failed (fault : Fault) (pages : List (FinishedPage Float)) (log : List LogEntry)
    (files : FileTree) (nextId : Nat) :
    failures (RunOutcome.failed fault pages log files nextId).log =
      failures log ++ if fault.isReported then [] else [.error fault.message] := by
  rw [RunOutcome.failed]
  split <;> simp

/-- **A failed run is logged once.** A run that succeeds logs no failure. A run that fails logs exactly
one, and its fault is marked as logged. The failure is that of the fault, and it begins with the
place of the innermost rule that fails if the fault arises in a rule. -/
theorem failed_run_logged_once (depth : Nat) (job : Job) (files : FileTree) (nextId : Nat)
    (layout data : String) (sink : PageSink) :
    let outcome := job.runWithin depth files nextId layout data sink
    match outcome.result with
    | .ok _ => failures outcome.log = []
    | .error fault => fault.isReported = true ∧
        (((∀ inner, ¬ FailsIn depth job files nextId layout data sink inner) ∧
            failures outcome.log = [.error fault.message]) ∨
          ∃ inner, FailsIn depth job files nextId layout data sink inner ∧
            (∀ other, FailsIn depth job files nextId layout data sink other → other = inner) ∧
            failures outcome.log = [.error s!"{placeOf inner}: {fault.message}"]) := by
  intro outcome
  have hending : Ending depth job files nextId layout data sink outcome :=
    ending_runWithin depth job files nextId layout data sink
  clear_value outcome
  cases hending with
  | @refused cause notices hrefused _ hnotices =>
    refine ⟨rfl, .inl ⟨fun inner h => ?_, ?_⟩⟩
    · obtain ⟨rules, document, s, _, hbegins, -⟩ := h
      exact hrefused rules document s hbegins
    · rw [failures_failed, hnotices.failures_eq]
      rfl
  | @stopped rules document s t fault hbegins hrun =>
    obtain halone | ⟨p, hpasses⟩ := traceable_programWith rules document.root.name (execute depth)
      (job.setting files document sink) s
    · obtain ⟨hmark, ht, hnowhere⟩ := logged_of_programAlone hbegins hrun halone
      refine ⟨rfl, .inl ⟨hnowhere, ?_⟩⟩
      rw [failures_failed, ← Session.failures, ht, hmark]
      rfl
    · obtain ⟨hmark, inner, hinner, ht⟩ := logged_of_programPasses hbegins hrun hpasses
      refine ⟨rfl, .inr ⟨inner, hinner, fun other => hinner.unique, ?_⟩⟩
      rw [failures_failed, ← Session.failures, ht, hmark]
      rfl
  | @unsaved rules document s t hbegins hrun =>
    obtain ⟨ht, hnowhere⟩ := logged_of_programOk hbegins hrun
    refine ⟨rfl, .inl ⟨hnowhere, ?_⟩⟩
    rw [failures_failed, ← Session.failures, ht]
    rfl
  | @finished rules document s t outcome summary hbegins hrun hresult hlog =>
    obtain ⟨ht, -⟩ := logged_of_programOk hbegins hrun
    rw [hresult, hlog, failures_append, ← Session.failures, ht]
    rfl

/-- Layout rules that place a box without a size. -/
def placesBareBox : String :=
  "<Layout xmlns='" ++ Rule.layoutNamespace ++ "'>" ++
    "<Record element='data'><PlaceObject><Box/></PlaceObject></Record></Layout>"

/-- Layout rules that place a box. -/
def placesSmallBox : String :=
  "<Layout xmlns='" ++ Rule.layoutNamespace ++ "'>" ++
    "<Record element='data'><PlaceObject><Box width='1' height='1'/></PlaceObject></Record></Layout>"

/-- A run that fails has a fault with this wording. -/
theorem exists_fault {outcome : RunOutcome} {message : String} {log : List LogEntry}
    (h : ((Action.faultOf outcome.result).map Fault.message, failures outcome.log) =
      (some message, log)) :
    ∃ fault, outcome.result = .error fault ∧ fault.message = message ∧ failures outcome.log = log := by
  obtain ⟨hmessage, hlog⟩ := Prod.mk.inj h
  cases hresult : outcome.result with
  | ok summary => simp [hresult, Action.faultOf] at hmessage
  | error fault =>
    rw [hresult] at hmessage
    exact ⟨fault, rfl, Option.some.inj hmessage, hlog⟩

/-- A box without a size stops its rule, and the log tells where. A page that is refused at the end of a run
stops no rule. -/
theorem failed_run_logged_once_boxes :
    (∃ inner fault, FailsIn 3 ⟨{}, 0.5, []⟩ ⟨[], []⟩ 1 placesBareBox "<data/>" .memory inner ∧
      (runWithin 3 ⟨{}, 0.5, []⟩ ⟨[], []⟩ 1 placesBareBox "<data/>" .memory).result = .error fault ∧
      s!"{placeOf inner}: {fault.message}" =
        "<Box> (line 1): Element <Box> (line 1) requires the attribute 'width'") ∧
    ∃ fault,
      (runWithin 3 ⟨{}, 0.5, []⟩ ⟨[], []⟩ 1 placesSmallBox "<data/>" .full).result = .error fault ∧
      fault.message = "I/O error" ∧
      ∀ inner, ¬ FailsIn 3 ⟨{}, 0.5, []⟩ ⟨[], []⟩ 1 placesSmallBox "<data/>" .full inner := by
  constructor
  · have hrun : ((Action.faultOf (runWithin 3 ⟨{}, 0.5, []⟩ ⟨[], []⟩ 1 placesBareBox "<data/>"
          .memory).result).map Fault.message,
        failures (runWithin 3 ⟨{}, 0.5, []⟩ ⟨[], []⟩ 1 placesBareBox "<data/>" .memory).log) =
        (some "Element <Box> (line 1) requires the attribute 'width'",
          [.error "<Box> (line 1): Element <Box> (line 1) requires the attribute 'width'"]) := by
      decide +kernel
    generalize placesBareBox = rules at hrun ⊢
    obtain ⟨fault, hresult, hmessage, hlog⟩ := exists_fault hrun
    have honce := failed_run_logged_once 3 ⟨{}, 0.5, []⟩ ⟨[], []⟩ 1 rules "<data/>" .memory
    dsimp only at honce
    rw [hresult] at honce
    obtain ⟨-, ⟨-, honly⟩ | ⟨inner, hinner, -, hone⟩⟩ := honce
    · rw [hlog, hmessage] at honly
      simp [LogEntry.error] at honly
    · refine ⟨inner, fault, hinner, hresult, ?_⟩
      rw [hlog] at hone
      simpa [LogEntry.error] using hone.symm
  · have hrun : ((Action.faultOf (runWithin 3 ⟨{}, 0.5, []⟩ ⟨[], []⟩ 1 placesSmallBox "<data/>"
          .full).result).map Fault.message,
        failures (runWithin 3 ⟨{}, 0.5, []⟩ ⟨[], []⟩ 1 placesSmallBox "<data/>" .full).log) =
        (some "I/O error", [.error "I/O error"]) := by
      decide +kernel
    generalize placesSmallBox = rules at hrun ⊢
    obtain ⟨fault, hresult, hmessage, hlog⟩ := exists_fault hrun
    have honce := failed_run_logged_once 3 ⟨{}, 0.5, []⟩ ⟨[], []⟩ 1 rules "<data/>" .full
    dsimp only at honce
    rw [hresult] at honce
    obtain ⟨-, ⟨hnone, -⟩ | ⟨inner, hinner, -, hone⟩⟩ := honce
    · exact ⟨fault, hresult, hmessage, hnone⟩
    · rw [hlog, hmessage] at hone
      simp only [LogEntry.error, List.cons.injEq, LogEntry.mk.injEq, and_true, true_and] at hone
      have hlength := congrArg String.length hone
      rw [String.length_append, String.length_append] at hlength
      have hseparator : (toString ": ").length = 2 := rfl
      have hmessage : (toString "I/O error").length = "I/O error".length := rfl
      omega

end Job

end PageGrid
