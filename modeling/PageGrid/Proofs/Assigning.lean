import PageGrid.Proofs.Scopes
import PageGrid.Proofs.Inert

/-!
# The assignments of a run

What a run does to the variables is listed by the assignments that it makes, one after the other. Only those
are left out that are made in a round of a loop to the variable that counts its rounds: the round has a scope
of its own for this variable, and the scope is left at its end. All other scopes bind nothing, so that no
other assignment is lost.

`Action.Assigns` follows a run from action to action and collects the assignments. That the list is right is
shown once, for all runs (`Assigns.scopes_eq`); that every run has one, for each command (`traced_execute`).

## Main definitions

* `Action.Assigns` — the assignments that a run of an action makes;
* `Action.Traced` — every run of the action has such a list.

## Main results

* `Assigns.scopes_eq` — a run changes the variables as its assignments do;
* `assigns_setVariable` — the rule that assigns is in the list with what it assigns;
* `traced_execute` — the application of a rule is traced, at every depth.
-/

namespace PageGrid

namespace Action

variable {α β : Type} {setting : Setting} {s t : Session} {assigned : List (String × Value)}

/-! ### Lists of assignments -/

/-- The assignments that a run of an action makes, in their order. Those that a loop makes in one of its
rounds to the variable that counts the rounds are left out. -/
inductive Assigns (setting : Setting) :
    {α : Type} → Action α → Session → List (String × Value) → Prop
  | inert {α : Type} {x : Action α} (s : Session) : Inert x → Assigns setting x s []
  | assign (s : Session) (name : String) (v : Value) :
      Assigns setting (modifyScopes (·.assign name v)) s [(name, v)]
  | stopped {α β : Type} {x : Action α} {s t : Session} {fault : Fault}
      {assigned : List (String × Value)} (f : α → Action β) :
      x.runWith setting s = (.error fault, t) → Assigns setting x s assigned →
        Assigns setting (x >>= f) s assigned
  | bind {α β : Type} {x : Action α} {f : α → Action β} {a : α} {s t : Session}
      {first second : List (String × Value)} :
      x.runWith setting s = (.ok a, t) → Assigns setting x s first →
        Assigns setting (f a) t second → Assigns setting (x >>= f) s (first ++ second)
  | scope {α : Type} {x : Action α} {s : Session} {assigned : List (String × Value)} :
      Assigns setting x { s with scopes := s.scopes.push } assigned →
        Assigns setting (Command.inScope x) s assigned
  | round {α : Type} {x : Action α} {s : Session} {assigned : List (String × Value)} (counter : String)
      (v : Value) : Assigns setting x { s with scopes := s.scopes.push.bind counter v } assigned →
        Assigns setting (Command.inScope (do modifyScopes (·.bind counter v); x)) s
          (assigned.filter (·.1 ≠ counter))
  | followedBy {α : Type} {x : Action α} {s : Session} {assigned : List (String × Value)}
      (f : Layout → Layout) : Assigns setting x s assigned →
        Assigns setting (x.followedBy (modifyLayout f)) s assigned
  | reporting {α : Type} {x : Action α} {s : Session} {assigned : List (String × Value)}
      (place : String) : Assigns setting x s assigned → Assigns setting (x.reporting place) s assigned

/-- An action in a scope of its own, from the session within the scope. -/
theorem runWith_inScope (x : Action α) (setting : Setting) (s : Session) :
    (Command.inScope x).runWith setting s =
      ((x.runWith setting { s with scopes := s.scopes.push }).1,
        { (x.runWith setting { s with scopes := s.scopes.push }).2 with
          scopes := (x.runWith setting { s with scopes := s.scopes.push }).2.scopes.pop }) := by
  rw [Command.inScope, runWith_bind_of_ok (runWith_modifyScopes _), runWith_followedBy_modifyScopes]

/-- **Variables after a run** are as after its assignments. -/
theorem Assigns.scopes_eq {x : Action α} (h : Assigns setting x s assigned) :
    (x.runWith setting s).2.scopes = s.scopes.assignAll assigned := by
  induction h with
  | inert s hx => exact hx setting s
  | assign s name v => rfl
  | stopped f hx _ ih =>
    rw [runWith_bind, hx]
    rwa [hx] at ih
  | bind hx _ _ ih ih' =>
    rw [hx] at ih
    rw [runWith_bind_of_ok hx, ih', ih, Scopes.assignAll_append]
  | scope _ ih => rw [runWith_inScope, ih, Scopes.pop_assignAll_push]
  | round counter v _ ih =>
    rw [runWith_inScope, runWith_bind_of_ok (runWith_modifyScopes _), ih, Scopes.pop_assignAll_push_bind]
  | followedBy f _ ih => rwa [runWith_followedBy_modifyLayout]
  | @reporting _ x s _ place _ ih =>
    obtain ⟨_, hlog⟩ := runWith_reporting_snd place x setting s
    rwa [hlog]

/-! ### Traced actions -/

/-- Every run of the action has a list of its assignments. -/
def Traced (x : Action α) : Prop := ∀ setting s, ∃ assigned, Assigns setting x s assigned

theorem Inert.traced {x : Action α} (h : Inert x) : Traced x := fun _ s => ⟨[], .inert s h⟩

theorem Quiet.traced {x : Action α} (h : Quiet x) : Traced x := h.inert.traced

theorem Traced.pure (a : α) : Traced (Pure.pure a) := Inert.traced (.pure a)

theorem Traced.refuse (rule : Rule) (issue : RuleIssue) : Traced (refuse rule issue : Action α) :=
  Inert.traced (.refuse rule issue)

theorem Traced.bind {x : Action α} {f : α → Action β} (hx : Traced x) (hf : ∀ a, Traced (f a)) :
    Traced (x >>= f) := by
  intro setting s
  obtain ⟨first, hfirst⟩ := hx setting s
  rcases hr : x.runWith setting s with ⟨fault | a, t⟩
  · exact ⟨first, .stopped f hr hfirst⟩
  · obtain ⟨second, hsecond⟩ := hf a setting t
    exact ⟨first ++ second, .bind hr hfirst hsecond⟩

theorem Traced.ite {c : Prop} [Decidable c] {x y : Action α} (hx : Traced x) (hy : Traced y) :
    Traced (if c then x else y) := by
  split
  · exact hx
  · exact hy

theorem Traced.inScope {x : Action α} (hx : Traced x) : Traced (Command.inScope x) := by
  intro setting s
  obtain ⟨assigned, h⟩ := hx setting { s with scopes := s.scopes.push }
  exact ⟨assigned, .scope h⟩

theorem Traced.round {x : Action α} (hx : Traced x) (counter : String) (v : Value) :
    Traced (Command.inScope (do modifyScopes (·.bind counter v); x)) := by
  intro setting s
  obtain ⟨assigned, h⟩ := hx setting { s with scopes := s.scopes.push.bind counter v }
  exact ⟨_, .round counter v h⟩

theorem Traced.followedBy {x : Action α} (hx : Traced x) (f : Layout → Layout) :
    Traced (x.followedBy (modifyLayout f)) := by
  intro setting s
  obtain ⟨assigned, h⟩ := hx setting s
  exact ⟨assigned, .followedBy f h⟩

theorem Traced.reporting {x : Action α} (hx : Traced x) (place : String) :
    Traced (x.reporting place) := by
  intro setting s
  obtain ⟨assigned, h⟩ := hx setting s
  exact ⟨assigned, .reporting place h⟩

end Action

open PageGrid.Action (Traced)

/-! ### Commands -/

namespace Command

open Attributes

variable {children : Children} (hc : ∀ rule focus, Traced (children rule focus))
variable (rule : Rule) (focus : Focus)

include hc

theorem traced_value : Traced (value children rule focus) := by
  rw [value]
  cases rule.attribute? "select" with
  | some select => exact (Action.quiet_evaluate select focus).traced.bind fun _ => .pure _
  | none => exact .ite (hc rule focus) (.pure _)

theorem traced_paragraph : Traced (paragraph children rule focus) :=
  (hc rule focus).bind fun _ => (quiet_textOfItems _).traced.bind fun _ => .pure _

theorem traced_message : Traced (message children rule focus) := by
  have hlog (text : String) : Traced (do
      Action.log [.info s!"Message: {Text.trim text}"]
      return ([] : Items)) :=
    (Action.inert_log _).traced.bind fun _ => .pure _
  rw [message]
  cases rule.attribute? "select" with
  | some select =>
    exact (Action.quiet_evaluate select focus).traced.bind fun v =>
      (Action.quiet_textOf v).traced.bind hlog
  | none =>
    dsimp only
    split
    · exact (hc rule focus).bind fun items => (quiet_textOfItems items).traced.bind hlog
    · exact (Traced.pure _).bind hlog

theorem traced_setVariable : Traced (setVariable children rule focus) := by
  have hassign (name : String) (v : Value) :
      Traced (do Action.modifyScopes (·.assign name v); return ([] : Items)) :=
    Traced.bind (fun _ s => ⟨_, .assign s name v⟩) fun _ => .pure _
  refine (quiet_text rule _ focus).traced.bind fun name => ?_
  cases rule.attribute? "select" with
  | some select => exact (Action.quiet_evaluate select focus).traced.bind (hassign name)
  | none =>
    exact (hc rule focus).bind fun items => Action.quiet_read.traced.bind fun _ =>
      (Traced.pure _).bind (hassign name)

/-- A rule that assigns to a variable does so last, with the value of its expression or of the rules below. -/
theorem assigns_setVariable {setting : Setting} {s t : Session} {items : Items}
    (hrun : (setVariable children rule focus).runWith setting s = (.ok items, t)) :
    ∃ name s₁ v s₂ assigned, (text rule "variable" focus).runWith setting s = (.ok name, s₁) ∧
      (match rule.attribute? "select" with
        | some select => Action.evaluate select focus
        | none => do return (← children rule focus).toValue (← read).data).runWith setting s₁ =
          (.ok v, s₂) ∧
      Action.Assigns setting (setVariable children rule focus) s (assigned ++ [(name, v)]) := by
  have hassign (name : String) (v : Value) (u : Session) : Action.Assigns setting (do
      Action.modifyScopes (·.assign name v)
      return ([] : Items)) u [(name, v)] :=
    .bind rfl (.assign u name v) (.inert _ (.pure _))
  rw [setVariable] at hrun ⊢
  obtain ⟨name, s₁, hname, hrun⟩ := Action.runWith_bind_eq_ok.mp hrun
  have hasked := (quiet_text rule "variable" focus).inert
  cases hselect : rule.attribute? "select" with
  | some select =>
    rw [hselect] at hrun
    obtain ⟨v, s₂, hvalue, -⟩ := Action.runWith_bind_eq_ok.mp hrun
    refine ⟨name, s₁, v, s₂, [], hname, hvalue, .bind hname (.inert s hasked) ?_⟩
    exact .bind hvalue (.inert s₁ (Action.quiet_evaluate select focus).inert) (hassign name v s₂)
  | none =>
    rw [hselect] at hrun
    obtain ⟨below, s₂, hbelow, -⟩ := Action.runWith_bind_eq_ok.mp hrun
    obtain ⟨assigned, hassigned⟩ := hc rule focus setting s₁
    refine ⟨name, s₁, below.toValue setting.data, s₂, assigned, hname, ?_, ?_⟩
    · rw [Action.runWith_bind_of_ok hbelow]
      rfl
    · have hrest : Action.Assigns setting (do
          let setting ← read
          let v ← pure (below.toValue setting.data)
          Action.modifyScopes (·.assign name v)
          return ([] : Items)) s₂ [(name, below.toValue setting.data)] :=
        .bind rfl (.inert s₂ Action.quiet_read.inert)
          (.bind rfl (.inert s₂ (.pure _)) (hassign name _ s₂))
      exact List.nil_append (assigned ++ _) ▸ .bind hname (.inert s hasked) (.bind hbelow hassigned hrest)

theorem traced_textblock : Traced (textblock children rule focus) := by
  refine (quiet_length? rule _ focus).traced.bind fun fontSize =>
    (quiet_length? rule _ focus).traced.bind fun leading =>
      Action.quiet_read.traced.bind fun setting => (hc rule focus).bind fun items =>
        (Action.inert_log _).traced.bind fun _ => (inert_lengths rule focus _).traced.bind fun widths => ?_
  have hset (width : Float) : Traced (do
      let box ← Action.ofExcept .typeset
        (setText setting.advance (items.paragraphs setting.data) width
          (textFormat setting.format fontSize leading))
      return [Item.box box]) :=
    (Action.quiet_ofExcept _ _ nofun).traced.bind fun _ => .pure _
  dsimp only
  split
  · exact (Traced.pure _).bind hset
  · exact (inert_defaultWidth rule focus).traced.bind hset

theorem traced_placeObject : Traced (placeObject children rule focus) := by
  refine (quiet_textOr rule _ focus _).traced.bind fun area =>
    (quiet_flag rule _ focus _).traced.bind fun allocate =>
      (quiet_position? rule _ focus).traced.bind fun column =>
        (quiet_position? rule _ focus).traced.bind fun row =>
          (quiet_length? rule _ focus).traced.bind fun x =>
            (quiet_length? rule _ focus).traced.bind fun y =>
              (quiet_text? rule _ focus).traced.bind fun name => ?_
  have hplace (box : ContentBox Float) : Traced (do
      Action.ensureTarget focus
      placeByCoordinates rule focus area allocate column row box x y
      return ([] : Items)) :=
    (Action.inert_ensureTarget focus).traced.bind fun _ =>
      (inert_placeByCoordinates rule focus area allocate column row box x y).traced.bind fun _ => .pure _
  cases name with
  | some name => exact (quiet_groupBox rule name).traced.bind hplace
  | none =>
    exact (hc rule focus).bind fun items => (quiet_singleBox rule items).traced.bind hplace

theorem traced_group : Traced (group children rule focus) := by
  refine (quiet_text rule _ focus).traced.bind fun name => ?_
  cases rule.child? "Contents" with
  | none => exact (Traced.refuse _ _)
  | some contents =>
    exact Action.quiet_layout.traced.bind fun _ =>
      (Action.quiet_ofExcept _ _ nofun).traced.bind fun _ =>
        (Action.inert_setLayout _).traced.bind fun _ =>
          ((hc contents focus).followedBy _).bind fun _ => .pure _

omit hc in
theorem traced_forNodes {round : Focus → Action Items} (hr : ∀ focus, Traced (round focus))
    (size position : Nat) (nodes : List Xml.Address) :
    Traced (forNodes round size position nodes) := by
  induction nodes generalizing position with
  | nil => exact .pure []
  | cons a rest ih => exact (hr _).bind fun _ => (ih (position + 1)).bind fun _ => .pure _

omit hc in
theorem traced_repeated {round : Nat → Action Items} (hr : ∀ i, Traced (round i)) (first rounds : Nat) :
    Traced (repeated round first rounds) := by
  induction rounds generalizing first with
  | zero => exact .pure []
  | succ rounds ih => exact (hr first).bind fun _ => (ih (first + 1)).bind fun _ => .pure _

theorem traced_forAll : Traced (forAll children rule focus) :=
  (quiet_nodes rule _ focus).traced.bind fun nodes =>
    traced_forNodes (fun focus => (hc rule focus).inScope) nodes.length 1 nodes

theorem traced_loop : Traced (loop children rule focus) := by
  refine (quiet_expression rule _).traced.bind fun select =>
    (Action.quiet_evaluate select focus).traced.bind fun v =>
      Action.quiet_read.traced.bind fun setting => ?_
  generalize v.toNumber setting.data = count
  have hrounds : Traced (do
      let counter ← textOr rule "variable" focus loopCounter
      repeated (fun i => inScope do
        Action.modifyScopes (·.bind counter (.number (Float.ofNat i)))
        children rule focus) 1 (rounds count)) :=
    (quiet_textOr rule _ focus _).traced.bind fun counter =>
      traced_repeated (fun _ => (hc rule focus).round counter _) 1 (rounds count)
  dsimp only
  split
  · exact (Traced.refuse _ _).bind fun _ => hrounds
  · exact hrounds

theorem traced_firstBranch (branches : List Rule) : Traced (firstBranch children focus branches) := by
  induction branches with
  | nil => exact .pure []
  | cons branch rest ih =>
    refine .ite ?_ (.ite (hc branch focus) ((Action.quiet_warn _).traced.bind fun _ => ih))
    exact (quiet_expression branch _).traced.bind fun test =>
      (Action.quiet_evaluate test focus).traced.bind fun _ => .ite (hc branch focus) ih

theorem traced_processNode : Traced (processNode children rule focus) := by
  refine (quiet_textOr rule _ focus _).traced.bind fun mode =>
    (quiet_nodes rule _ focus).traced.bind fun nodes =>
      traced_forNodes (fun focus => ?_) nodes.length 1 nodes
  refine Action.quiet_read.traced.bind fun setting => ?_
  cases elementName? setting.data focus.node with
  | none => exact .pure []
  | some name =>
    refine Action.quiet_layout.traced.bind fun l => ?_
    cases l.patterns.lookup? name mode with
    | some recorded => exact hc recorded focus
    | none => exact (Action.quiet_warn _).traced.bind fun _ => .pure []

end Command

/-! ### Rules -/

theorem CommandName.traced_run {children : Command.Children}
    (hc : ∀ rule focus, Traced (children rule focus)) (command : CommandName) (rule : Rule)
    (focus : Focus) : Traced (command.run children rule focus) := by
  cases command with
  | recordRule => exact (Command.inert_recordRule rule focus children).traced
  | processNode => exact Command.traced_processNode hc rule focus
  | pageType => exact (Command.inert_declarePageType rule focus children).traced
  | value => exact Command.traced_value hc rule focus
  | copyOf => exact (Command.inert_copyOf rule focus children).traced
  | paragraph => exact Command.traced_paragraph hc rule focus
  | textblock => exact Command.traced_textblock hc rule focus
  | image => exact (Command.inert_image rule focus children).traced
  | box => exact (Command.inert_filledBox rule focus children).traced
  | message => exact Command.traced_message hc rule focus
  | placeObject => exact Command.traced_placeObject hc rule focus
  | newPage => exact (Command.inert_newPage rule focus children).traced
  | nextRow => exact (Command.inert_nextRow rule focus children).traced
  | setGrid => exact (Command.inert_setGrid rule focus children).traced
  | group => exact Command.traced_group hc rule focus
  | contents => exact hc rule focus
  | mark => exact (Command.inert_mark rule focus children).traced
  | setVariable => exact Command.traced_setVariable hc rule focus
  | forAll => exact Command.traced_forAll hc rule focus
  | loop => exact Command.traced_loop hc rule focus
  | choose => exact Command.traced_firstBranch hc focus rule.elements

namespace Interpreter

theorem traced_executeAll {apply : Rule → Focus → Action Items}
    (h : ∀ rule focus, Traced (apply rule focus)) (focus : Focus) (rules : List Rule) :
    Traced (executeAll apply focus rules) := by
  induction rules with
  | nil => exact .pure []
  | cons rule rest ih => exact (h rule focus).bind fun _ => ih.bind fun _ => .pure _

/-- **Applying a rule.** Whatever rules are below it, at whatever depth, and whether or not one of them
fails. -/
theorem traced_execute (depth : Nat) (rule : Rule) (focus : Focus) :
    Traced (execute depth rule focus) := by
  induction depth generalizing rule focus with
  | zero => exact (Traced.refuse _ _).reporting _
  | succ depth ih =>
    rw [execute]
    have hc (rule : Rule) (focus : Focus) : Traced (executeChildren depth rule focus) :=
      traced_executeAll ih focus rule.elements
    refine .ite ((Action.quiet_warn _).traced.bind fun _ => .pure _) ?_
    cases CommandName.ofName? rule.name with
    | none => exact (Action.quiet_warn _).traced.bind fun _ => .pure _
    | some command => exact (command.traced_run hc rule focus).reporting _

theorem traced_executeChildren (depth : Nat) (rule : Rule) (focus : Focus) :
    Traced (executeChildren depth rule focus) :=
  traced_executeAll (traced_execute depth) focus rule.elements

end Interpreter

end PageGrid
