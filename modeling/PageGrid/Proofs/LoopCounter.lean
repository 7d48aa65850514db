import PageGrid.Proofs.Assigning
import PageGrid.Proofs.Decimal.Whole
import PageGrid.Proofs.Effect

/-!
# The variable that counts rounds

A loop binds its counter in a scope that is entered for one round and left with it, however the round ends.
So the counter cannot be seen outside, and an assignment to it is gone with its round: the next round begins
with the next number, and behind the loop the variable is what it was before. Assignments to all other
variables stay.

A run of a loop is taken apart into its rounds (`Command.Rounds`). What a round does to the scopes is known
from its assignments, and the rest is by induction on the rounds.

## Main definitions

* `Command.Round` — one round of a loop;
* `Command.Rounds` — the rounds of a loop, with the fault that ends them early.

## Main results

* `Command.Rounds.scopes_eq` — the rounds of a loop change the variables as the assignments in them do, those
  to the counter left out;
* `Interpreter.loop_counter_hygienic` — loops do as described, whatever rules are in them.
-/

namespace PageGrid

open PageGrid.Action (Assigns Traced faultOf)

/-- The session in a scope of its own for the variable that counts rounds. -/
def Session.counting (s : Session) (counter : String) (number : Nat) : Session :=
  { s with scopes := s.scopes.push.bind counter (.number (Float.ofNat number)) }

/-- The session outside of its innermost scope. -/
def Session.leaving (s : Session) : Session := { s with scopes := s.scopes.pop }

theorem Session.lookup?_counting (s : Session) (counter : String) (number : Nat) :
    (s.counting counter number).scopes.lookup? counter = some (.number (Float.ofNat number)) := by
  rw [counting, Scopes.push_bind_eq, Scopes.lookup?_within, Scope.lookup?_cons, if_pos rfl, Option.some_or]

namespace Command

/-! ### Rounds -/

/-- A round of a loop: its number, the session with which the body starts, and the assignments that are made
in it. -/
structure Round where
  number : Nat
  start : Session
  assigned : List (String × Value)

section Rounds

variable (body : Action Items) (counter : String) (setting : Setting)

/-- The rounds of a loop from one number on: none if none is asked for, a last one that fails, or one that
ends well with those after it. Next to them, the fault of the last one and the session behind it. -/
inductive Rounds : Nat → Nat → Session → List Round → Option Fault → Session → Prop
  | done (first : Nat) (s : Session) : Rounds first 0 s [] none s
  | failed {first asked : Nat} {s t : Session} {fault : Fault} {assigned : List (String × Value)} :
      body.runWith setting (s.counting counter first) = (.error fault, t) →
      Assigns setting body (s.counting counter first) assigned →
        Rounds first (asked + 1) s [⟨first, s.counting counter first, assigned⟩] (some fault) t.leaving
  | next {first asked : Nat} {s t u : Session} {items : Items} {assigned : List (String × Value)}
      {rest : List Round} {fault : Option Fault} :
      body.runWith setting (s.counting counter first) = (.ok items, t) →
      Assigns setting body (s.counting counter first) assigned →
      Rounds (first + 1) asked t.leaving rest fault u →
        Rounds first (asked + 1) s (⟨first, s.counting counter first, assigned⟩ :: rest) fault u

end Rounds

variable {body : Action Items} {counter : String} {setting : Setting} {first asked : Nat} {s t u : Session}
  {rounds : List Round} {fault : Option Fault}

/-- Behind a round, the variables are changed by the assignments in it that are not to the counter. -/
theorem scopes_leaving {assigned : List (String × Value)} {r : Except Fault Items}
    (hrun : body.runWith setting (s.counting counter first) = (r, t))
    (h : Assigns setting body (s.counting counter first) assigned) :
    t.leaving.scopes = s.scopes.assignAll (assigned.filter (·.1 ≠ counter)) := by
  have hscopes := h.scopes_eq
  rw [hrun] at hscopes
  rw [← Scopes.pop_assignAll_push_bind s.scopes counter (.number (Float.ofNat first))]
  exact congrArg Scopes.pop hscopes

namespace Rounds

/-- The assignments of all rounds to other variables than the counter. -/
def kept (counter : String) (rounds : List Round) : List (String × Value) :=
  (rounds.flatMap (·.assigned)).filter (·.1 ≠ counter)

/-- **Behind a loop.** -/
theorem scopes_eq (h : Rounds body counter setting first asked s rounds fault u) :
    u.scopes = s.scopes.assignAll (kept counter rounds) := by
  induction h with
  | done first s => rfl
  | failed hrun hassigned =>
    rw [scopes_leaving hrun hassigned, kept, List.flatMap_singleton]
  | @next first asked s t u items assigned rest fault hrun hassigned _ ih =>
    rw [ih, scopes_leaving hrun hassigned, ← Scopes.assignAll_append, kept, kept, List.flatMap_cons,
      List.filter_append]

/-- The rounds are numbered without gaps. -/
theorem map_number (h : Rounds body counter setting first asked s rounds fault u) :
    rounds.map (·.number) = List.range' first rounds.length := by
  induction h with
  | done => rfl
  | failed => rfl
  | next _ _ _ ih => rw [List.map_cons, ih, List.length_cons, List.range'_succ]

theorem length_le (h : Rounds body counter setting first asked s rounds fault u) :
    rounds.length ≤ asked := by
  induction h with
  | done => exact Nat.le_refl 0
  | failed => exact Nat.le_add_left 1 _
  | next _ _ _ ih => exact Nat.succ_le_succ ih

/-- Only a fault ends a loop early. -/
theorem length_eq (h : Rounds body counter setting first asked s rounds fault u) (hfault : fault = none) :
    rounds.length = asked := by
  induction h with
  | done => rfl
  | failed => cases hfault
  | next _ _ _ ih => exact congrArg Nat.succ (ih hfault)

/-- Every round starts with its number in the counter. -/
theorem lookup?_start (h : Rounds body counter setting first asked s rounds fault u) :
    ∀ round ∈ rounds,
      round.start.scopes.lookup? counter = some (.number (Float.ofNat round.number)) := by
  induction h with
  | done => exact List.forall_mem_nil _
  | @failed first asked s => exact List.forall_mem_singleton.mpr (s.lookup?_counting counter first)
  | @next first asked s _ _ _ _ _ _ _ _ _ ih =>
    exact List.forall_mem_cons.mpr ⟨s.lookup?_counting counter first, ih⟩

end Rounds

/-! ### Loops -/

/-- An action in a scope of its own for the variable that counts rounds. -/
def counted (body : Action Items) (counter : String) (number : Nat) : Action Items := inScope do
  Action.modifyScopes (·.bind counter (.number (Float.ofNat number)))
  body

theorem runWith_counted (body : Action Items) (counter : String) (number : Nat) (setting : Setting)
    (s : Session) :
    (counted body counter number).runWith setting s =
      ((body.runWith setting (s.counting counter number)).1,
        (body.runWith setting (s.counting counter number)).2.leaving) := by
  rw [counted, Action.runWith_inScope, Action.runWith_bind_of_ok (Action.runWith_modifyScopes _)]
  rfl

/-- A loop whose body is traced consists of rounds. By induction on the number of rounds. -/
theorem rounds_repeated (hbody : Traced body) (counter : String) (setting : Setting) (first asked : Nat)
    (s : Session) :
    ∃ rounds, Rounds body counter setting first asked s rounds
      (faultOf ((repeated (counted body counter) first asked).runWith setting s).1)
      ((repeated (counted body counter) first asked).runWith setting s).2 := by
  induction asked generalizing first s with
  | zero => exact ⟨[], .done first s⟩
  | succ asked ih =>
    obtain ⟨assigned, hassigned⟩ := hbody setting (s.counting counter first)
    rw [repeated, Action.runWith_bind, runWith_counted]
    rcases hrun : body.runWith setting (s.counting counter first) with ⟨fault | items, t⟩
    · exact ⟨_, .failed hrun hassigned⟩
    · obtain ⟨rest, hrest⟩ := ih (first + 1) t.leaving
      dsimp only
      rw [Action.runWith_bind]
      rcases hrepeated : (repeated (counted body counter) (first + 1) asked).runWith setting t.leaving
        with ⟨fault | more, u⟩
      all_goals
        rw [hrepeated] at hrest
        exact ⟨_, .next hrun hassigned hrest⟩

/-- The number that a loop is given as the count of its rounds. -/
def countOf (rule : Rule) (focus : Focus) : Action Float := do
  let select ← Attributes.expression rule "select"
  let value ← Action.evaluate select focus
  return value.toNumber (← read).data

/-- The name of the variable in which a loop counts its rounds. -/
def counterOf (rule : Rule) (focus : Focus) : Action String :=
  Attributes.textOr rule "variable" focus loopCounter

theorem quiet_countOf (rule : Rule) (focus : Focus) : Action.Quiet (countOf rule focus) :=
  (Attributes.quiet_expression rule _).bind fun select => (Action.quiet_evaluate select focus).bind fun _ =>
    Action.quiet_read.bind fun _ => .pure _

theorem quiet_counterOf (rule : Rule) (focus : Focus) : Action.Quiet (counterOf rule focus) :=
  Attributes.quiet_textOr rule _ focus _

variable {rule : Rule} {focus : Focus} {s₁ s₂ : Session} {count : Float}
variable (hcount : (countOf rule focus).runWith setting s = (.ok count, s₁))

include hcount

/-- A loop asks for its count first, then for the name of its counter. -/
theorem runWith_loop (children : Children) :
    ∃ select, (loop children rule focus).runWith setting s =
      if Decimal.isFinite count then
        (counterOf rule focus >>= fun counter =>
          repeated (counted (children rule focus) counter) 1 (Command.rounds count)).runWith setting s₁
      else (.error (.ofCause (.rule rule.name rule.line (.loopCount select count))), s₁) := by
  obtain ⟨select, s', hselect, hcount⟩ := Action.runWith_bind_eq_ok.mp hcount
  obtain ⟨value, s'', hvalue, hnumber⟩ := Action.runWith_bind_eq_ok.mp hcount
  cases hnumber
  refine ⟨select, ?_⟩
  rw [loop, Action.runWith_bind_of_ok hselect, Action.runWith_bind_of_ok hvalue,
    Action.runWith_bind_of_ok (a := setting) rfl]
  dsimp only
  cases Decimal.isFinite (value.toNumber setting.data) with
  | true => rfl
  | false => rfl

/-- **The rounds of a loop**, as many as its count asks for. A count that is not finite is refused, and then
there is no round. -/
theorem rounds_loop {children : Children} (hc : Traced (children rule focus))
    (hcounter : (counterOf rule focus).runWith setting s₁ = (.ok counter, s₂))
    (hlimit : Decimal.floorInt count < 2 ^ 53) :
    ∃ rounds fault u,
      Rounds (children rule focus) counter setting 1 (Decimal.floorInt count).toNat s₂ rounds fault u ∧
      (faultOf ((loop children rule focus).runWith setting s).1 = none ↔
        fault = none ∧ Decimal.isFinite count = true) ∧
      ((loop children rule focus).runWith setting s).2.scopes = u.scopes ∧
      ((loop children rule focus).runWith setting s).2.layout = u.layout := by
  obtain ⟨select, hloop⟩ := runWith_loop hcount children
  cases hfinite : Decimal.isFinite count with
  | true =>
    have hasked : Command.rounds count = (Decimal.floorInt count).toNat := by
      have hpow : Nat.pow 2 64 = 18446744073709551616 := rfl
      rw [Command.rounds, hpow]
      omega
    rw [hfinite, if_pos rfl, Action.runWith_bind_of_ok hcounter, hasked] at hloop
    obtain ⟨rounds, hrounds⟩ := rounds_repeated hc counter setting 1 (Decimal.floorInt count).toNat s₂
    rw [hloop]
    exact ⟨rounds, _, _, hrounds, by simp, rfl, rfl⟩
  | false =>
    have hnone : (Decimal.floorInt count).toNat = 0 :=
      Int.toNat_eq_zero.mpr (Decimal.floorInt_nonpos_of_not_isFinite hfinite hlimit)
    have hsame := quiet_counterOf rule focus setting s₁
    rw [hcounter] at hsame
    rw [hloop, hfinite, hnone]
    exact ⟨[], none, s₂, .done 1 s₂, by simp [faultOf], hsame.remarked.scopes_eq.symm,
      hsame.remarked.logged.layout_eq.symm⟩

end Command

/-! ### Hygiene -/

namespace Interpreter

open Command (Rounds Round countOf counterOf)

variable {depth : Nat} {rule : Rule} {focus : Focus} {setting : Setting} {s s₁ s₂ t : Session}
  {count : Float} {counter : String} {result : Except Fault Items}

/-- A loop is run for its rounds, and a fault in it is reported. -/
theorem execute_loop (depth : Nat) (hlayout : rule.isLayout = true) (hname : rule.name = "Loop")
    (focus : Focus) :
    execute (depth + 1) rule focus =
      (Command.loop (executeChildren depth) rule focus).reporting (placeOf rule) := by
  have hcommand : CommandName.ofName? rule.name = some .loop := by
    rw [hname]
    rfl
  exact execute_command depth hlayout hcommand focus

theorem faultOf_reporting_eq_none {α : Type} (place : String) (x : Action α) (setting : Setting)
    (s : Session) :
    faultOf ((x.reporting place).runWith setting s).1 = none ↔ faultOf (x.runWith setting s).1 = none := by
  rw [Action.runWith_reporting]
  rcases x.runWith setting s with ⟨fault | a, t⟩
  · dsimp only
    split <;> simp [faultOf]
  · rfl

/-- **Loop counters are hygienic.** Whatever is in the body of a loop and however the loop ends, the counter
is behind it what it was before, and every round begins with its number in the counter. There are as many
rounds as the count asks for, unless one of them fails. All other variables are behind the loop what they
have been assigned last in it. -/
theorem loop_counter_hygienic (hlayout : rule.isLayout = true) (hname : rule.name = "Loop")
    (hcount : (countOf rule focus).runWith setting s = (.ok count, s₁))
    (hcounter : (counterOf rule focus).runWith setting s₁ = (.ok counter, s₂))
    (hlimit : Decimal.floorInt count < 2 ^ 53)
    (hrun : (execute (depth + 1) rule focus).runWith setting s = (result, t)) :
    ∃ rounds fault u, Rounds (executeChildren depth rule focus) counter setting 1
        (Decimal.floorInt count).toNat s₂ rounds fault u ∧
      t.scopes = u.scopes ∧ t.layout = u.layout ∧
      (faultOf result = none ↔ fault = none ∧ Decimal.isFinite count = true) ∧
      (fault = none → rounds.length = (Decimal.floorInt count).toNat) ∧
      rounds.length ≤ (Decimal.floorInt count).toNat ∧
      rounds.map (·.number) = List.range' 1 rounds.length ∧
      (∀ round ∈ rounds, ∃ x, round.start.scopes.lookup? counter = some (.number x) ∧
        Decimal.Denotes x round.number) ∧
      t.scopes.lookup? counter = s.scopes.lookup? counter ∧
      ∀ name ≠ counter, t.scopes.lookup? name =
        (lastAssigned? (rounds.flatMap (·.assigned)) name).or (s.scopes.lookup? name) := by
  obtain ⟨rounds, fault, u, hrounds, hresult, hsame⟩ :=
    Command.rounds_loop hcount (traced_executeChildren depth rule focus) hcounter hlimit
  rw [execute_loop depth hlayout hname] at hrun
  have hreported := faultOf_reporting_eq_none (placeOf rule)
    (Command.loop (executeChildren depth) rule focus) setting s
  obtain ⟨entries, hlogged⟩ := Action.runWith_reporting_snd (placeOf rule)
    (Command.loop (executeChildren depth) rule focus) setting s
  rw [hrun] at hreported hlogged
  have hscopes : t.scopes = u.scopes := (congrArg Session.scopes hlogged).trans hsame.1
  have hbefore : s₂.scopes = s.scopes :=
    ((Command.quiet_counterOf rule focus).inert.scopes_eq hcounter).trans
      ((Command.quiet_countOf rule focus).inert.scopes_eq hcount)
  have hlookup (name : String) : u.scopes.lookup? name =
      (if name = counter then none else lastAssigned? (rounds.flatMap (·.assigned)) name).or
        (s.scopes.lookup? name) := by
    rw [hrounds.scopes_eq, Scopes.lookup?_assignAll, hbefore, Rounds.kept, lastAssigned?_filter_ne]
  refine ⟨rounds, fault, u, hrounds, hscopes, (congrArg Session.layout hlogged).trans hsame.2,
    hreported.trans hresult, hrounds.length_eq, hrounds.length_le, hrounds.map_number,
    fun round hround => ?_, ?_, fun name hname => ?_⟩
  · have hnumber : round.number ∈ List.range' 1 rounds.length :=
      hrounds.map_number ▸ List.mem_map_of_mem hround
    have hle := hrounds.length_le
    rw [List.mem_range'_1] at hnumber
    exact ⟨_, hrounds.lookup?_start round hround, Decimal.denotes_ofNat (by omega)⟩
  · rw [hscopes, hlookup, if_pos rfl, Option.none_or]
  · rw [hscopes, hlookup, if_neg hname]

/-- Two rounds, each of which assigns to the counter and reads it back. -/
def reassigning : Rule :=
  .bare "Loop" [("select", "2"), ("variable", "i")]
    [.bare "SetVariable" [("variable", "i"), ("select", "9")] [],
      .bare "SetVariable" [("variable", "last"), ("select", "$i")] []]

/-- A session in which the name of the counter is taken already. -/
def withCounter : Session :=
  { Session.start .tenByTen with scopes := Scopes.empty.assign "i" (.string "outside") }

theorem loop_counter_hygienic_reassigning :
    ∃ count s₁ s₂ rounds u, Decimal.floorInt count = 2 ∧
      (countOf reassigning .root).runWith .bare withCounter = (.ok count, s₁) ∧
      (counterOf reassigning .root).runWith .bare s₁ = (.ok "i", s₂) ∧
      Rounds (executeChildren 2 reassigning .root) "i" .bare 1 2 s₂ rounds none u ∧
      rounds.map (·.number) = [1, 2] ∧
      (∀ round ∈ rounds, ∃ x, round.start.scopes.lookup? "i" = some (.number x) ∧
        Decimal.Denotes x round.number) ∧
      ((execute 3 reassigning .root).runWith .bare withCounter).2.scopes.lookup? "i" =
        some (.string "outside") ∧
      (lastAssigned? (rounds.flatMap (·.assigned)) "last").map (fun v =>
        Decimal.floorInt (v.toNumber Setting.bare.data)) = some 9 := by
  have hread : ((countOf reassigning .root).runWith .bare withCounter).1.toOption.map Decimal.floorInt =
      some 2 := by decide +kernel
  have hname : ((counterOf reassigning .root).runWith .bare
      ((countOf reassigning .root).runWith .bare withCounter).2).1.toOption = some "i" := by decide +kernel
  have hlast : (((execute 3 reassigning .root).runWith .bare withCounter).2.scopes.lookup? "last").map
      (fun v => Decimal.floorInt (v.toNumber Setting.bare.data)) = some 9 := by decide +kernel
  have hends : (faultOf ((execute 3 reassigning .root).runWith .bare withCounter).1).isNone = true := by
    decide +kernel
  obtain ⟨count, hnumber, hfloor⟩ := Option.map_eq_some_iff.mp hread
  have hcount := Action.runWith_of_toOption hnumber
  have hcounter := Action.runWith_of_toOption hname
  generalize ((countOf reassigning .root).runWith .bare withCounter).2 = s₁ at hcount hcounter
  generalize ((counterOf reassigning .root).runWith .bare s₁).2 = s₂ at hcounter
  have hbefore : withCounter.scopes.lookup? "i" = some (.string "outside") := rfl
  have hunset : withCounter.scopes.lookup? "last" = none := rfl
  generalize withCounter = s at hcount hlast hends hbefore hunset ⊢
  rcases hrun : (execute 3 reassigning .root).runWith .bare s with ⟨result, t⟩
  rw [hrun] at hlast hends
  obtain ⟨rounds, fault, u, hrounds, -, -, hresult, hlength, -, hnumbers, hstarts, hbehind, hothers⟩ :=
    loop_counter_hygienic rfl rfl hcount hcounter (by rw [hfloor]; decide) hrun
  obtain rfl : fault = none := (hresult.mp (Option.isNone_iff_eq_none.mp hends)).1
  have htwo : rounds.length = 2 := by rw [hlength rfl, hfloor]; rfl
  rw [hfloor] at hrounds
  rw [hothers "last" (by decide), hunset, Option.or_none] at hlast
  refine ⟨count, s₁, s₂, rounds, u, hfloor, hcount, hcounter, hrounds, ?_, hstarts, ?_, hlast⟩
  · rw [hnumbers, htwo]
    rfl
  · rw [← hbefore, ← hbehind]

end Interpreter

end PageGrid
