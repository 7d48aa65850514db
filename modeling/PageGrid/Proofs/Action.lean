import Mathlib.Order.Defs.Unbundled
import PageGrid.Proofs.Noted
import PageGrid.Session

/-!
# What actions do to a session

An action may stop, but what it has done to the session until then stays. Statements about the
effect of an action are therefore about the session that it leaves, whether or not it stops, and
about the fault if it does. `Within R x` says that `R` relates the session that `x` begins with, its
fault and the session that it leaves, however `x` is run. For a relation that is kept by sequencing,
the effect of an action is bounded by looking at each of its parts once.

## Main definitions

* `Session.Logged` — one session is another one with more entries in the log;
* `Session.Remarked` — and none of these is about a failure;
* `Session.Sequential` — a relation of sessions and faults that sequencing keeps;
* `Action.Within` — the effect of an action is within a relation.

## Main results

* `runWith_bind_eq_ok` — a sequence of actions ends well iff both parts do;
* `Within.bind` — a sequence of actions whose parts are within a sequential relation is.
-/

namespace PageGrid

/-- The cause arises where a page is created, and nowhere else. -/
inductive FaultCause.OfPageCreation : FaultCause → Prop
  | nested : OfPageCreation .nestedPageCreation
  | noType : OfPageCreation .noPageType

/-! ### The log -/

namespace Session

/-- The second session is the first one with some more entries in the log. -/
def Logged (s t : Session) : Prop := ∃ entries, t = s.logging entries

theorem logging_logging (s : Session) (a b : List LogEntry) :
    (s.logging a).logging b = s.logging (a ++ b) := by
  simp [logging]

instance : IsPreorder Session Logged where
  refl s := ⟨[], rfl⟩
  trans := by
    rintro s _ _ ⟨a, rfl⟩ ⟨b, rfl⟩
    exact ⟨a ++ b, logging_logging s a b⟩

theorem Logged.layout_eq {s t : Session} (h : Logged s t) : t.layout = s.layout := by
  obtain ⟨_, rfl⟩ := h
  rfl

/-- The second session is the first one with some more entries in the log, none of them about a
failure. -/
def Remarked (s t : Session) : Prop := ∃ entries, Remarks entries ∧ t = s.logging entries

instance : IsPreorder Session Remarked where
  refl s := ⟨[], remarks_nil, rfl⟩
  trans := by
    rintro s _ _ ⟨a, ha, rfl⟩ ⟨b, hb, rfl⟩
    exact ⟨a ++ b, ha.append hb, logging_logging s a b⟩

theorem Remarked.logged {s t : Session} (h : Remarked s t) : Logged s t := by
  obtain ⟨entries, -, rfl⟩ := h
  exact ⟨entries, rfl⟩

/-- A relation of the session before an action, the fault that stops the action and the session
after it: doing nothing and stopping satisfy it, and sequencing keeps it. The faults in the creation of
a page are none to stop for anywhere. -/
class Sequential (R : Session → Option Fault → Session → Prop) : Prop where
  refl (s : Session) : R s none s
  stop (s : Session) {cause : FaultCause} : ¬ cause.OfPageCreation →
    R s (some (.ofCause cause)) s
  trans {s t u : Session} {fault : Option Fault} : R s none t → R t fault u → R s fault u

end Session

namespace Action

variable {α β ε : Type} {setting : Setting} {s t u : Session}

/-! ### Running a sequence -/

theorem runWith_bind (x : Action α) (f : α → Action β) (setting : Setting) (s : Session) :
    (x >>= f).runWith setting s =
      match x.runWith setting s with
      | (.ok a, t) => (f a).runWith setting t
      | (.error e, t) => (.error e, t) := by
  change (ExceptT.bindCont (f · setting) (x setting s).1) (x setting s).2 = _
  rw [runWith]
  rcases x setting s with ⟨_ | _, _⟩ <;> rfl

theorem runWith_bind_of_ok {x : Action α} {a : α} (h : x.runWith setting s = (.ok a, t))
    (f : α → Action β) : (x >>= f).runWith setting s = (f a).runWith setting t := by
  rw [runWith_bind, h]

/-- **Sequencing.** A sequence of actions ends well iff both parts do. -/
theorem runWith_bind_eq_ok {x : Action α} {f : α → Action β} {b : β} :
    (x >>= f).runWith setting s = (.ok b, u) ↔
      ∃ a t, x.runWith setting s = (.ok a, t) ∧ (f a).runWith setting t = (.ok b, u) := by
  rw [runWith_bind]
  constructor
  · intro h
    rcases hx : x.runWith setting s with ⟨e | a, t⟩
    · simp [hx] at h
    · exact ⟨a, t, rfl, by simpa [hx] using h⟩
  · rintro ⟨a, t, hx, hf⟩
    rw [hx]
    exact hf

theorem eq_ok_of_toOption {r : Except ε α} {a : α} (h : r.toOption = some a) : r = .ok a := by
  cases r with
  | error e => cases h
  | ok b => exact congrArg Except.ok (Option.some.inj h)

/-- A run that is known to end well, with the session that it leaves. -/
theorem runWith_of_toOption {x : Action α} {a : α}
    (h : (x.runWith setting s).1.toOption = some a) :
    x.runWith setting s = (.ok a, (x.runWith setting s).2) :=
  Prod.ext (eq_ok_of_toOption h) rfl

@[simp] theorem runWith_pure (a : α) : (pure a : Action α).runWith setting s = (.ok a, s) := rfl

@[simp] theorem runWith_stop (cause : FaultCause) :
    (stop cause : Action α).runWith setting s = (.error (.ofCause cause), s) := rfl

@[simp] theorem runWith_refuse (rule : Rule) (issue : RuleIssue) :
    (refuse rule issue : Action α).runWith setting s =
      (.error (.ofCause (.rule rule.name rule.line issue)), s) := rfl

@[simp] theorem runWith_layout : layout.runWith setting s = (.ok s.layout, s) := rfl

@[simp] theorem runWith_setLayout (l : Layout) :
    (setLayout l).runWith setting s = (.ok (), { s with layout := l }) := rfl

@[simp] theorem runWith_modifyLayout (f : Layout → Layout) :
    (modifyLayout f).runWith setting s = (.ok (), { s with layout := f s.layout }) := rfl

@[simp] theorem runWith_modifyScopes (f : Scopes → Scopes) :
    (modifyScopes f).runWith setting s = (.ok (), { s with scopes := f s.scopes }) := rfl

theorem runWith_ofExcept_eq_ok {cause : ε → FaultCause} {r : Except ε α} {a : α} :
    (ofExcept cause r).runWith setting s = (.ok a, t) ↔ r = .ok a ∧ t = s := by
  cases r <;> simp [ofExcept, eq_comm]

theorem runWith_targetGrid_eq_ok {rule : Rule} {grid : Grid Float} :
    (targetGrid rule).runWith setting s = (.ok grid, t) ↔
      s.layout.targetGrid? = some grid ∧ t = s := by
  rw [targetGrid, runWith_bind_of_ok runWith_layout]
  cases s.layout.targetGrid? <;> simp [eq_comm]

theorem layout_bind (f : Layout → Action β) :
    (layout >>= f).runWith setting s = (f s.layout).runWith setting s := rfl

theorem ofExcept_bind_eq_ok {cause : ε → FaultCause} {r : Except ε α} {f : α → Action β} {b : β} :
    (ofExcept cause r >>= f).runWith setting s = (.ok b, t) ↔
      ∃ a, r = .ok a ∧ (f a).runWith setting s = (.ok b, t) := by
  simp only [runWith_bind_eq_ok, runWith_ofExcept_eq_ok]
  exact ⟨fun ⟨a, _, ⟨ha, hs⟩, h⟩ => ⟨a, ha, hs ▸ h⟩, fun ⟨a, ha, h⟩ => ⟨a, s, ⟨ha, rfl⟩, h⟩⟩

theorem targetGrid_bind_eq_ok {rule : Rule} {f : Grid Float → Action β} {b : β} :
    (targetGrid rule >>= f).runWith setting s = (.ok b, t) ↔
      ∃ g, s.layout.targetGrid? = some g ∧ (f g).runWith setting s = (.ok b, t) := by
  simp only [runWith_bind_eq_ok, runWith_targetGrid_eq_ok]
  exact ⟨fun ⟨g, _, ⟨hg, hs⟩, h⟩ => ⟨g, hg, hs ▸ h⟩, fun ⟨g, hg, h⟩ => ⟨g, s, ⟨hg, rfl⟩, h⟩⟩

/-! ### The end of a page -/

/-- The open page is handed out, or refused and lost. -/
theorem runWith_finishPage (setting : Setting) (s : Session) :
    finishPage.runWith setting s =
      if s.layout.isTaken setting.sink then (.ok (), { s with layout := s.layout.finishPage })
      else (.error (.ofCause .fileAccess), { s with layout := { s.layout with page := none } }) := by
  let shipped := s.layout.shipPage setting.sink
  change ((setLayout shipped.2 >>= fun _ => unless shipped.1 do stop .fileAccess) : Action Unit).runWith
    setting s = _
  simp only [shipped, Layout.shipPage]
  cases s.layout.isTaken setting.sink <;> rfl

theorem runWith_finishPage_of_taken (h : s.layout.isTaken setting.sink = true) :
    finishPage.runWith setting s = (.ok (), { s with layout := s.layout.finishPage }) := by
  rw [runWith_finishPage, if_pos h]

theorem runWith_finishPage_of_refused (h : s.layout.isTaken setting.sink = false) :
    finishPage.runWith setting s =
      (.error (.ofCause .fileAccess), { s with layout := { s.layout with page := none } }) := by
  rw [runWith_finishPage, if_neg (Bool.eq_false_iff.mp h)]

theorem runWith_finishPage_eq_ok :
    finishPage.runWith setting s = (.ok (), t) ↔
      s.layout.isTaken setting.sink = true ∧ t = { s with layout := s.layout.finishPage } := by
  cases h : s.layout.isTaken setting.sink with
  | true => simp [runWith_finishPage_of_taken h, eq_comm]
  | false => simp [runWith_finishPage_of_refused h]

/-- What follows an action and does not fail leaves the outcome of the action. -/
theorem runWith_followedBy (x : Action α) {after : Action Unit} {f : Session → Session}
    (h : ∀ s, after.runWith setting s = (.ok (), f s)) (s : Session) :
    (x.followedBy after).runWith setting s =
      ((x.runWith setting s).1, f (x.runWith setting s).2) := by
  dsimp only [followedBy, runWith] at h ⊢
  rcases x setting s with ⟨_ | _, t⟩
  all_goals
    dsimp only
    rw [h t]

theorem runWith_followedBy_modifyLayout (x : Action α) (f : Layout → Layout) (setting : Setting)
    (s : Session) :
    (x.followedBy (modifyLayout f)).runWith setting s =
      ((x.runWith setting s).1,
        { (x.runWith setting s).2 with layout := f (x.runWith setting s).2.layout }) :=
  runWith_followedBy x (fun _ => runWith_modifyLayout f) s

theorem runWith_followedBy_modifyScopes (x : Action α) (f : Scopes → Scopes) (setting : Setting)
    (s : Session) :
    (x.followedBy (modifyScopes f)).runWith setting s =
      ((x.runWith setting s).1,
        { (x.runWith setting s).2 with scopes := f (x.runWith setting s).2.scopes }) :=
  runWith_followedBy x (fun _ => runWith_modifyScopes f) s

/-- A fault is logged unless it has been. -/
theorem runWith_reporting (place : String) (x : Action α) (setting : Setting) (s : Session) :
    (x.reporting place).runWith setting s =
      match x.runWith setting s with
      | (.ok a, t) => (.ok a, t)
      | (.error e, t) =>
        if e.isReported then (.error e, t)
        else (.error { e with isReported := true },
          t.logging [.error (if place.isEmpty then e.message else s!"{place}: {e.message}")]) := rfl

/-- Reporting a fault adds to the log at most. -/
theorem runWith_reporting_snd (place : String) (x : Action α) (setting : Setting) (s : Session) :
    Session.Logged (x.runWith setting s).2 ((x.reporting place).runWith setting s).2 := by
  rw [runWith_reporting]
  rcases x.runWith setting s with ⟨e | _, t⟩
  · by_cases h : e.isReported
    · simpa [h] using refl_of Session.Logged t
    · simp only [h, Bool.false_eq_true, if_false]
      exact ⟨_, rfl⟩
  · exact refl_of Session.Logged t

/-! ### Effects within a relation -/

/-- The fault of an outcome, if it is one. -/
def faultOf : Except Fault α → Option Fault
  | .ok _ => none
  | .error fault => some fault

/-- Whether or not the action stops, the session that it begins with, its fault and the session that
it leaves are related. -/
def Within (R : Session → Option Fault → Session → Prop) (x : Action α) : Prop :=
  ∀ setting s, R s (faultOf (x.runWith setting s).1) (x.runWith setting s).2

section Within

variable {R Q : Session → Option Fault → Session → Prop}

theorem Within.mono {x : Action α} (h : Within R x) (hRQ : ∀ {s fault t}, R s fault t → Q s fault t) :
    Within Q x :=
  fun setting s => hRQ (h setting s)

variable [Session.Sequential R]

theorem Within.pure (a : α) : Within R (Pure.pure a) := fun _ s => Session.Sequential.refl s

theorem Within.stop (cause : FaultCause) (h : ¬ cause.OfPageCreation) :
    Within R (Action.stop cause : Action α) :=
  fun _ s => Session.Sequential.stop s h

theorem Within.refuse (rule : Rule) (issue : RuleIssue) :
    Within R (Action.refuse rule issue : Action α) :=
  .stop _ nofun

theorem Within.bind {x : Action α} {f : α → Action β} (hx : Within R x) (hf : ∀ a, Within R (f a)) :
    Within R (x >>= f) := by
  intro setting s
  have h := hx setting s
  rw [runWith_bind]
  rcases hr : x.runWith setting s with ⟨e | a, t⟩
  · rwa [hr] at h
  · rw [hr] at h
    exact Session.Sequential.trans h (hf a setting t)

omit [Session.Sequential R] in
theorem Within.ite {c : Prop} [Decidable c] {x y : Action α} (hx : Within R x) (hy : Within R y) :
    Within R (if c then x else y) := by
  split
  · exact hx
  · exact hy

theorem Within.map {x : Action α} (f : α → β) (hx : Within R x) : Within R (f <$> x) :=
  hx.bind fun a => .pure (f a)

end Within

end Action

end PageGrid
