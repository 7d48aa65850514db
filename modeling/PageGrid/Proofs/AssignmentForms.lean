import PageGrid.Proofs.GridSettings
import PageGrid.Proofs.Inert
import PageGrid.Proofs.Scopes

/-!
# The two forms of an assignment

A rule that assigns to a variable either holds an expression, whose value it assigns, or it assigns what the
rules below it yield. These yield items, which become one value by their look: a list of nodes is a node set,
and a single number or truth value is itself. The value of an expression survives the way to items and back,
also if it is an empty node set or an empty text. So the expression may as well stand in a rule below.

The two forms differ in the rule that reports a fault of the expression, and in the rule to blame where no
variable is named. Two runs that fail are therefore compared by the causes of their faults, and not by their
logs.

## Main definitions

* `Rule.AssignsSelected`, `Rule.AssignsYield` — the two forms;
* `Command.assignAnswer` — what they have in common;
* `Interpreter.Assigned`, `FailsWith` — how they end.

## Main results

* `Items.toValue_ofValue` — values survive the way to items and back;
* `execute_assignsSelected`, `execute_assignsYield` — the forms differ in who reports a fault;
* `assignment_forms_agree` — they do the same.
-/

namespace PageGrid

open PageGrid.Action (Quiet faultOf)

/-! ### Values as items -/

/-- **A value survives the way to items and back.** -/
theorem Items.toValue_ofValue (d : Xml.Document) (v : Value) : (Items.ofValue v).toValue d = v := by
  cases v with
  | nodes set =>
    have hnodes : ((set.map Item.node).all fun i => i.node?.isSome) = true := by simp [Item.node?]
    have hset : (set.map Item.node).filterMap Item.node? = set := by
      rw [List.filterMap_map]
      exact List.filterMap_some
    rw [ofValue, toValue.eq_def, if_pos hnodes, hset]
  | string s =>
    have htext : toText d [.string s] = s := String.empty_append
    exact congrArg Value.string htext
  | number x => rfl
  | boolean b => rfl

/-- What an action that reports its faults answers can be changed before or after. -/
theorem Action.reporting_map {α β : Type} (place : String) (x : Action α) (f : α → β) :
    (f <$> x).reporting place = f <$> x.reporting place := by
  have hruns (setting : Setting) (s : Session) : ((f <$> x).reporting place).runWith setting s =
      (f <$> x.reporting place).runWith setting s := by
    simp only [map_eq_pure_bind, runWith_reporting, runWith_bind, runWith_pure]
    rcases x.runWith setting s with ⟨fault | a, t⟩
    · dsimp only
      cases fault.isReported <;> rfl
    · rfl
  exact funext fun setting => funext fun s => hruns setting s

/-! ### The two forms -/

namespace Rule

/-- The rule assigns the value of an expression. -/
structure AssignsSelected (rule : Rule) (select : String) : Prop where
  isLayout : rule.isLayout = true
  name_eq : rule.name = "SetVariable"
  select_eq : rule.attribute? "select" = some select

/-- The rule yields the items of an expression. -/
structure Yields (rule : Rule) (select : String) : Prop where
  isLayout : rule.isLayout = true
  name_eq : rule.name = "Value" ∨ rule.name = "Copy-of"
  select_eq : rule.attribute? "select" = some select

/-- The rule assigns what the one rule below it yields, which are the items of an expression. -/
structure AssignsYield (rule : Rule) (select : String) : Prop where
  isLayout : rule.isLayout = true
  name_eq : rule.name = "SetVariable"
  select_eq : rule.attribute? "select" = none
  elements_eq : ∃ below : Rule, rule.elements = [below] ∧ below.Yields select

end Rule

/-- Assigns an answer to the variable that a rule names. -/
def Command.assignAnswer (answer : Action Value) (rule : Rule) (focus : Focus) : Action Items := do
  let name ← Attributes.text rule "variable" focus
  let v ← answer
  Action.modifyScopes (·.assign name v)
  return []

namespace Interpreter

open Command (assignAnswer)

variable {rule selecting nesting : Rule} {select : String}

theorem execute_yields (h : rule.Yields select) (depth : Nat) (focus : Focus) :
    execute (depth + 1) rule focus =
      Items.ofValue <$> (Action.evaluate select focus).reporting (placeOf rule) := by
  rw [← Action.reporting_map]
  obtain ⟨hlayout, hname | hname, hselect⟩ := h
  · have hcommand : CommandName.ofName? rule.name = some .value := by rw [hname]; rfl
    rw [execute_command depth hlayout hcommand, CommandName.run, Command.value, hselect]
    rfl
  · have hcommand : CommandName.ofName? rule.name = some .copyOf := by rw [hname]; rfl
    rw [execute_command depth hlayout hcommand, CommandName.run, Command.copyOf, Attributes.expression,
      hselect]
    rfl

/-- With an expression of its own, the rule reports a fault in it. -/
theorem execute_assignsSelected (h : rule.AssignsSelected select) (depth : Nat) (focus : Focus) :
    execute (depth + 1) rule focus =
      (assignAnswer (Action.evaluate select focus) rule focus).reporting (placeOf rule) := by
  have hcommand : CommandName.ofName? rule.name = some .setVariable := by rw [h.name_eq]; rfl
  rw [execute_command depth h.isLayout hcommand, CommandName.run, Command.setVariable, h.select_eq]
  rfl

/-- The items of the rule below are the value again. -/
theorem yield_toValue {below : Rule} (h : below.Yields select) (hbelow : rule.elements = [below])
    (depth : Nat) (focus : Focus) :
    (do return (← executeChildren (depth + 1) rule focus).toValue (← read).data : Action Value) =
      (Action.evaluate select focus).reporting (placeOf below) := by
  have hread (v : Value) : (read >>= fun (_ : Setting) => pure v : Action Value) = pure v := rfl
  simp only [executeChildren, hbelow, executeAll, execute_yields h, map_eq_pure_bind, bind_assoc, pure_bind,
    List.append_nil, Items.toValue_ofValue, hread, bind_pure]

/-- With a rule below, this rule reports a fault in the expression first. -/
theorem execute_assignsYield (h : rule.AssignsYield select) :
    ∃ below, ∀ depth focus, execute (depth + 2) rule focus =
      (assignAnswer ((Action.evaluate select focus).reporting (placeOf below)) rule focus).reporting
        (placeOf rule) := by
  obtain ⟨below, hbelow, hyields⟩ := h.elements_eq
  refine ⟨below, fun depth focus => ?_⟩
  have hcommand : CommandName.ofName? rule.name = some .setVariable := by rw [h.name_eq]; rfl
  rw [execute_command (depth + 1) h.isLayout hcommand, CommandName.run, Command.setVariable, h.select_eq,
    assignAnswer, ← yield_toValue hyields hbelow depth focus]
  simp only [bind_assoc, pure_bind]

/-! ### Their runs -/

/-- Nothing has happened between two sessions but an assignment, and remarks in the log. -/
structure Assigned (s : Session) (name : String) (v : Value) (t : Session) : Prop where
  layout : t.layout = s.layout
  scopes : t.scopes = s.scopes.assign name v
  bound : t.scopes.lookup? name = some v

/-- The action fails, and nothing has changed but the log. -/
def FailsWith {α : Type} (x : Action α) (setting : Setting) (s : Session) (fault : Fault) : Prop :=
  ∃ t, x.runWith setting s = (.error fault, t) ∧ Session.Logged s t

variable {setting : Setting} {s t s₁ s₂ : Session} {focus : Focus} {answer : Action Value} {fault : Fault}
  {name : String} {v : Value}

theorem FailsWith.reporting {α : Type} {x : Action α} (h : FailsWith x setting s fault) (place : String) :
    FailsWith (x.reporting place) setting s ⟨fault.cause, true⟩ := by
  obtain ⟨t, hrun, ht⟩ := h
  obtain ⟨cause, isReported⟩ := fault
  rw [FailsWith, Action.runWith_reporting, hrun]
  cases isReported with
  | false => exact ⟨_, rfl, trans_of Session.Logged ht ⟨_, rfl⟩⟩
  | true => exact ⟨t, rfl, ht⟩

theorem failsWith_of_quiet {α : Type} {x : Action α} (hx : Quiet x)
    (h : x.runWith setting s = (.error fault, t)) : FailsWith x setting s fault :=
  ⟨t, h, (hx.remarked h).logged⟩

/-! #### The name, then the answer -/

/-- Without a variable, the rule is the one to blame. -/
theorem failsWith_of_no_variable (h : rule.attribute? "variable" = none) (answer : Action Value) :
    FailsWith (assignAnswer answer rule focus) setting s
      (.ofCause (.missingAttribute rule.name "variable" rule.line)) := by
  rw [assignAnswer, Attributes.text, Attributes.text?, h]
  exact ⟨s, rfl, refl_of Session.Logged s⟩

/-- The name of a variable does not depend on the rule that names it. -/
theorem text_of_attribute? {raw : String} (h : rule.attribute? "variable" = some raw) (focus : Focus) :
    Attributes.text rule "variable" focus = Action.expand raw focus := by
  rw [Attributes.text, Attributes.text?, h]
  simp only [map_eq_pure_bind, bind_assoc, pure_bind, bind_pure]

theorem failsWith_of_name (hname : (Attributes.text rule "variable" focus).runWith setting s = (.error fault, t))
    (answer : Action Value) : FailsWith (assignAnswer answer rule focus) setting s fault := by
  refine ⟨t, ?_, ((Attributes.quiet_text rule _ focus).remarked hname).logged⟩
  rw [assignAnswer, Action.runWith_bind, hname]

theorem failsWith_of_answer (hname : (Attributes.text rule "variable" focus).runWith setting s = (.ok name, s₁))
    (hanswer : FailsWith answer setting s₁ fault) :
    FailsWith (assignAnswer answer rule focus) setting s fault := by
  obtain ⟨t, hanswer, ht⟩ := hanswer
  have hlogged := ((Attributes.quiet_text rule _ focus).remarked hname).logged
  refine ⟨t, ?_, trans_of Session.Logged hlogged ht⟩
  rw [assignAnswer, Action.runWith_bind_of_ok hname, Action.runWith_bind, hanswer]

/-- The answer is assigned. -/
theorem runWith_assignAnswer_of_ok
    (hname : (Attributes.text rule "variable" focus).runWith setting s = (.ok name, s₁))
    (hanswer : answer.runWith setting s₁ = (.ok v, s₂)) (place : String) :
    ((assignAnswer answer rule focus).reporting place).runWith setting s =
      (.ok [], { s₂ with scopes := s₂.scopes.assign name v }) := by
  have hends : (assignAnswer answer rule focus).runWith setting s =
      (.ok [], { s₂ with scopes := s₂.scopes.assign name v }) := by
    rw [assignAnswer, Action.runWith_bind_of_ok hname, Action.runWith_bind_of_ok hanswer]
    rfl
  rw [Action.runWith_reporting, hends]

/-- After remarks only, nothing but the assignment has happened. -/
theorem Assigned.of_remarked (h : Session.Remarked s t) (name : String) (v : Value) :
    Assigned s name v { t with scopes := t.scopes.assign name v } := by
  refine ⟨h.logged.layout_eq, congrArg (Scopes.assign · name v) h.scopes_eq, ?_⟩
  rw [Scopes.lookup?_assign, if_pos rfl]

/-- **The two forms of an assignment agree.** An expression in the rule itself and one in a rule below it
give either the same session, in which the variable has the value of the expression, of whatever kind and
size this is, or two faults. The faults have the same cause, unless there is no variable to assign to. -/
theorem assignment_forms_agree (hselecting : selecting.AssignsSelected select)
    (hnesting : nesting.AssignsYield select)
    (hvariable : nesting.attribute? "variable" = selecting.attribute? "variable")
    (m n : Nat) (focus : Focus) (setting : Setting) (s : Session) :
    (∀ d v, (Items.ofValue v).toValue d = v) ∧
    ((∃ name v t, (Attributes.text selecting "variable" focus).Answers setting s name ∧
        (Action.evaluate select focus).Answers setting s v ∧
        (execute (m + 1) selecting focus).runWith setting s = (.ok [], t) ∧
        (execute (n + 2) nesting focus).runWith setting s = (.ok [], t) ∧ Assigned s name v t) ∨
      ∃ cause cause', FailsWith (execute (m + 1) selecting focus) setting s ⟨cause, true⟩ ∧
        FailsWith (execute (n + 2) nesting focus) setting s ⟨cause', true⟩ ∧
        (selecting.attribute? "variable" ≠ none → cause' = cause)) := by
  obtain ⟨below, hnested⟩ := execute_assignsYield hnesting
  rw [execute_assignsSelected hselecting, hnested]
  refine ⟨Items.toValue_ofValue, ?_⟩
  cases hattribute : selecting.attribute? "variable" with
  | none =>
    exact .inr ⟨_, _, (failsWith_of_no_variable hattribute _).reporting _,
      (failsWith_of_no_variable (hvariable.trans hattribute) _).reporting _, fun h => absurd rfl h⟩
  | some raw =>
    have hsame : Attributes.text nesting "variable" focus = Attributes.text selecting "variable" focus := by
      rw [text_of_attribute? hattribute, text_of_attribute? (hvariable.trans hattribute)]
    rcases hname : (Attributes.text selecting "variable" focus).runWith setting s with ⟨fault | name, s₁⟩
    · exact .inr ⟨_, _, (failsWith_of_name hname _).reporting _,
        (failsWith_of_name (hsame ▸ hname) _).reporting _, fun _ => rfl⟩
    · have hasked : Session.Remarked s s₁ := (Attributes.quiet_text selecting _ focus).remarked hname
      rcases hanswer : (Action.evaluate select focus).runWith setting s₁ with ⟨fault | v, s₂⟩
      · have hfails := failsWith_of_quiet (Action.quiet_evaluate select focus) hanswer
        exact .inr ⟨_, _, (failsWith_of_answer hname hfails).reporting _,
          (failsWith_of_answer (hsame ▸ hname) (hfails.reporting _)).reporting _, fun _ => rfl⟩
      · have hlater : Session.Remarked s₁ s₂ := (Action.quiet_evaluate select focus).remarked hanswer
        have hbelow : ((Action.evaluate select focus).reporting (placeOf below)).runWith setting s₁ =
            (.ok v, s₂) := by
          rw [Action.runWith_reporting, hanswer]
        exact .inl ⟨name, v, _, ⟨s, s₁, refl_of Session.Remarked s, hname⟩, ⟨s₁, s₂, hasked, hanswer⟩,
          runWith_assignAnswer_of_ok hname hanswer _,
          runWith_assignAnswer_of_ok (hsame ▸ hname) hbelow _,
          .of_remarked (trans_of Session.Remarked hasked hlater) name v⟩

/-- An assignment with an expression in the rule itself, and one with the expression below. -/
def assigning (select : String) : Rule :=
  .bare "SetVariable" [("variable", "v"), ("select", select)] []

def assigningYield (select : String) : Rule :=
  .bare "SetVariable" [("variable", "v")] [.bare "Copy-of" [("select", select)] []]

theorem assignsSelected_assigning (select : String) : (assigning select).AssignsSelected select :=
  ⟨rfl, rfl, rfl⟩

theorem assignsYield_assigningYield (select : String) : (assigningYield select).AssignsYield select :=
  ⟨rfl, rfl, rfl, _, rfl, rfl, .inr rfl, rfl⟩

/-- An empty node set stays one on both ways, and a variable without a value is a fault on both. -/
theorem assignment_forms_agree_empty :
    (∃ t, (execute 1 (assigning "item") .root).runWith .bare (.start .tenByTen) = (.ok [], t) ∧
      (execute 2 (assigningYield "item") .root).runWith .bare (.start .tenByTen) = (.ok [], t) ∧
      t.scopes.lookup? "v" = some (.nodes [])) ∧
    ∃ cause, FailsWith (execute 1 (assigning "$v") .root) .bare (.start .tenByTen) ⟨cause, true⟩ ∧
      FailsWith (execute 2 (assigningYield "$v") .root) .bare (.start .tenByTen) ⟨cause, true⟩ := by
  have hagree (select : String) := (assignment_forms_agree (assignsSelected_assigning select)
    (assignsYield_assigningYield select) rfl 0 0 .root .bare (.start .tenByTen)).2
  have hempty : (((execute 1 (assigning "item") .root).runWith .bare (.start .tenByTen)).2.scopes.lookup?
      "v").any (fun v => (Items.ofValue v).isEmpty) = true := by decide +kernel
  have hunset : (faultOf ((execute 1 (assigning "$v") .root).runWith .bare (.start .tenByTen)).1).isSome =
      true := by decide +kernel
  constructor
  · obtain ⟨-, -, t, -, -, hfirst, hsecond, -⟩ | ⟨cause, -, ⟨t, hrun, entries, rfl⟩, -, -⟩ :=
      hagree "item"
    · refine ⟨t, hfirst, hsecond, ?_⟩
      rw [hfirst] at hempty
      obtain ⟨v, hv, hitems⟩ := Option.any_eq_true _ _ |>.mp hempty
      have hset : v = .nodes [] := by
        rw [← Items.toValue_ofValue Setting.bare.data v, List.isEmpty_iff.mp hitems]
        rfl
      exact hset ▸ hv
    · rw [hrun] at hempty
      cases hempty
  · obtain ⟨-, -, t, -, -, hfirst, -⟩ | ⟨cause, cause', hfirst, hsecond, hcause⟩ := hagree "$v"
    · rw [hfirst] at hunset
      cases hunset
    · exact ⟨cause, hfirst, hcause nofun ▸ hsecond⟩

end Interpreter

end PageGrid
