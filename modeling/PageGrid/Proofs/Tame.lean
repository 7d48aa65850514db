import PageGrid.Proofs.Effect

/-!
# Commands are tame

What rules do to a session takes in what commands do by themselves. So every command is tame if the
application of the rules below is, and the application of rules is tame at every depth.

## Main results

* `effect_group` — groups are closed on every way out;
* `tame_execute` — the application of a rule is tame, at every depth.
-/

namespace PageGrid

open PageGrid.Action (Tame EffectOf)
open PageGrid.Session (Effect)

variable {reports : Prop}

namespace Command

variable {children : Children} (hc : ∀ rule focus, Tame reports (children rule focus))
variable (rule : Rule) (focus : Focus)

theorem tame_flowPlace? (area : String) (columns rows : Nat) :
    Tame reports (flowPlace? rule focus area columns rows) :=
  within_flowPlace? rule focus area columns rows

theorem tame_markBlock (area : String) (x y : Int) (columns rows : Nat) :
    Tame reports (markBlock rule area x y columns rows) :=
  within_markBlock rule area x y columns rows

theorem tame_placeBox (x y : Float) (box : ContentBox Float) : Tame reports (placeBox x y box) :=
  within_placeBox x y box

include hc in
/-- **Groups are closed on every way out.** A group may fail to begin; once it has begun, it ends
after the rules below it, whether or not they fail. -/
theorem effect_group (setting : Setting) (s : Session) :
    Session.Asked s (Action.faultOf ((group children rule focus).runWith setting s).1)
        ((group children rule focus).runWith setting s).2 ∨
      ∃ name s₁ l t, Session.Remarked s s₁ ∧ s₁.layout.startGroup name = .ok l ∧
        Effect reports { s₁ with layout := l }
          (Action.faultOf ((group children rule focus).runWith setting s).1) t ∧
        ((group children rule focus).runWith setting s).2 =
          { t with layout := t.layout.endGroup.2 } :=
  withinOf_group hc rule focus setting s

end Command

/-! ### Rules -/

theorem CommandName.tame_run {children : Command.Children}
    (hc : ∀ rule focus, Tame reports (children rule focus)) (command : CommandName) (rule : Rule)
    (focus : Focus) : Tame reports (command.run children rule focus) :=
  command.within_run hc rule focus

namespace Interpreter

theorem tame_executeAll {apply : Rule → Focus → Action Items}
    (h : ∀ rule focus, Tame reports (apply rule focus)) (focus : Focus) (rules : List Rule) :
    Tame reports (executeAll apply focus rules) :=
  within_executeAll h focus rules

/-- Applying a rule writes to the log at most, or it is the command of its name. -/
theorem execute_exit (depth : Nat) (rule : Rule) (focus : Focus) (setting : Setting) (s : Session) :
    Session.Logged s ((execute depth rule focus).runWith setting s).2 ∨
      ∃ below command, depth = below + 1 ∧ CommandName.ofName? rule.name = some command ∧
        Session.Logged ((command.run (executeChildren below) rule focus).runWith setting s).2
          ((execute depth rule focus).runWith setting s).2 := by
  cases depth with
  | zero => exact .inl (Action.runWith_reporting_snd _ _ setting s)
  | succ depth =>
    rw [execute]
    split
    · exact .inl ⟨_, rfl⟩
    · cases hcommand : CommandName.ofName? rule.name with
      | none => exact .inl ⟨_, rfl⟩
      | some command =>
        exact .inr ⟨depth, command, rfl, rfl, Action.runWith_reporting_snd _ _ setting s⟩

/-- **Applying a rule.** Whatever rules are below it, at whatever depth, and whether or not one of
them fails. -/
theorem tame_execute (depth : Nat) (rule : Rule) (focus : Focus) :
    Tame True (execute depth rule focus) :=
  within_execute depth rule focus

theorem tame_executeChildren (depth : Nat) (rule : Rule) (focus : Focus) :
    Tame True (executeChildren depth rule focus) :=
  within_executeChildren depth rule focus

end Interpreter

end PageGrid
