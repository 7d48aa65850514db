import PageGrid.Interpreter
import PageGrid.Proofs.Action

/-!
# Faults that are passed on

A command applies the rules below it, and a fault of such an application is a fault of the command.
From the outcome alone one cannot tell whose fault it is. What tells it is how the command would end if
applications that fail ended in another way: either this makes no difference, and then the command
ends on its own, or there is one application whose fault is always that of the command, whatever it is.

That there is no third way is shown for every command. The argument is that of sequencing: as long as
nothing has failed, nothing depends on applications that fail, and the first one that fails decides.

## Main definitions

* `Application` — the application of a rule in a run;
* `AgreeOnSuccess` — two ways to apply rules that agree wherever the first one ends well;
* `EndsAlone`, `PassesOn` — an action ends on its own, or with the fault of an application;
* `Traceable` — an action always ends in one of these ways.

## Main results

* `PassesOn.unique`, `PassesOn.not_endsAlone` — it ends in one of these ways only;
* `CommandName.traceable_run` — commands are traceable.
-/

namespace PageGrid

open Command (Children)

/-! ### Applications -/

/-- The application of a rule to a data node, and the session in which it happens. -/
structure Application where
  rule : Rule
  focus : Focus
  session : Session

/-- How the application ends, given the way in which rules are applied. -/
def Application.run (p : Application) (apply : Children) (setting : Setting) :
    Except Fault Items × Session :=
  (apply p.rule p.focus).runWith setting p.session

/-- Applications that end well in the first way to apply rules end alike in the second one. -/
def AgreeOnSuccess (a b : Children) : Prop :=
  ∀ (p : Application) (setting : Setting) (items : Items) (t : Session),
    p.run a setting = (.ok items, t) → p.run b setting = (.ok items, t)

theorem AgreeOnSuccess.refl (a : Children) : AgreeOnSuccess a a := fun _ _ _ _ => id

theorem AgreeOnSuccess.trans {a b c : Children} (h : AgreeOnSuccess a b) (h' : AgreeOnSuccess b c) :
    AgreeOnSuccess a c :=
  fun p setting items t ht => h' p setting items t (h p setting items t ht)

namespace Application

variable {a : Children} {setting : Setting} {p q : Application}

open Classical in
/-- Rules are applied as before, apart from one application, which has another end. -/
noncomputable def ending (p : Application) (r : Except Fault Items × Session) (a : Children)
    (setting : Setting) : Children :=
  fun rule focus setting' s =>
    if setting' = setting ∧ (⟨rule, focus, s⟩ : Application) = p then r
    else (a rule focus).runWith setting' s

theorem run_ending (p : Application) (r : Except Fault Items × Session) :
    p.run (p.ending r a setting) setting = r :=
  if_pos ⟨rfl, rfl⟩

theorem run_ending_of_ne (r : Except Fault Items × Session) (h : q ≠ p) (setting' : Setting) :
    q.run (p.ending r a setting) setting' = q.run a setting' :=
  if_neg fun h' => h h'.2

theorem agreeOnSuccess_ending {fault : Fault} {t : Session} (h : p.run a setting = (.error fault, t))
    (r : Except Fault Items × Session) : AgreeOnSuccess a (p.ending r a setting) := by
  intro q setting' items u hq
  by_cases hp : setting' = setting ∧ q = p
  · obtain ⟨rfl, rfl⟩ := hp
    cases h.symm.trans hq
  · exact (if_neg hp).trans hq

end Application

/-! ### How actions end -/

section Ending

variable {α β : Type} {x : Children → Action α} {a : Children} {setting : Setting} {s : Session}
  {p q : Application}

/-- The action ends alike, whatever the applications that fail do instead. -/
def EndsAlone (x : Children → Action α) (a : Children) (setting : Setting) (s : Session) : Prop :=
  ∀ b, AgreeOnSuccess a b → (x b).runWith setting s = (x a).runWith setting s

/-- An application fails, and its fault is that of the action, whatever this and other applications
that fail do instead. Nothing is logged in between. -/
structure PassesOn (x : Children → Action α) (a : Children) (setting : Setting) (s : Session)
    (p : Application) : Prop where
  fails : ∃ fault t, p.run a setting = (.error fault, t)
  passes : ∀ b fault t, AgreeOnSuccess a b → p.run b setting = (.error fault, t) →
    ∃ u, (x b).runWith setting s = (.error fault, u) ∧ u.log = t.log

theorem PassesOn.not_endsAlone (h : PassesOn x a setting s p) : ¬ EndsAlone x a setting s := by
  obtain ⟨⟨fault, t, hp⟩, hpasses⟩ := h
  intro halone
  have hend (cause : FaultCause) :
      ∃ u, (x a).runWith setting s = (.error (.ofCause cause), u) := by
    have hagree := Application.agreeOnSuccess_ending hp (.error (.ofCause cause), t)
    obtain ⟨u, hu, -⟩ := hpasses _ _ _ hagree (p.run_ending _)
    exact ⟨u, (halone _ hagree).symm.trans hu⟩
  obtain ⟨u, hu⟩ := hend .ruleSyntax
  obtain ⟨v, hv⟩ := hend .dataSyntax
  cases hu.symm.trans hv

/-- The fault is that of one application only. -/
theorem PassesOn.unique (hp : PassesOn x a setting s p) (hq : PassesOn x a setting s q) : p = q := by
  obtain ⟨⟨fault, t, hfault⟩, hpasses⟩ := hp
  obtain ⟨⟨fault', t', hfault'⟩, hpasses'⟩ := hq
  refine Classical.byContradiction fun hne => ?_
  -- Of two applications that fail, let each fail with a fault of its own.
  have hq : q.run (p.ending (.error (.ofCause .ruleSyntax), t) a setting) setting =
      q.run a setting :=
    Application.run_ending_of_ne _ (Ne.symm hne) setting
  have hagree := (Application.agreeOnSuccess_ending hfault _).trans
    (Application.agreeOnSuccess_ending (hq.trans hfault') (.error (.ofCause .dataSyntax), t'))
  obtain ⟨u, hu, -⟩ := hpasses _ _ _ hagree
    ((Application.run_ending_of_ne _ hne setting).trans (p.run_ending _))
  obtain ⟨v, hv, -⟩ := hpasses' _ _ _ hagree (q.run_ending _)
  cases hu.symm.trans hv

/-- However the action is run, it ends on its own or with the fault of an application. -/
def Traceable (x : Children → Action α) : Prop :=
  ∀ a setting s, EndsAlone x a setting s ∨ ∃ p, PassesOn x a setting s p

/-! ### Sequences of traceable actions -/

/-- An action that applies no rules. -/
theorem Traceable.own (y : Action α) : Traceable fun _ => y := fun _ _ _ => .inl fun _ _ => rfl

/-- The application of a rule. -/
theorem traceable_apply (rule : Rule) (focus : Focus) :
    Traceable fun a : Children => a rule focus := by
  intro a setting s
  rcases h : (a rule focus).runWith setting s with ⟨fault | items, t⟩
  · exact .inr ⟨⟨rule, focus, s⟩, ⟨fault, t, h⟩, fun b fault u _ hu => ⟨u, hu, rfl⟩⟩
  · exact .inl fun b hb => (hb ⟨rule, focus, s⟩ setting items t h).trans h.symm

/-- **Sequencing.** Where the first part ends well, it does so on its own. -/
theorem Traceable.bind {f : α → Children → Action β} (hx : Traceable x)
    (hf : ∀ v, Traceable (f v)) : Traceable fun a => x a >>= fun v => f v a := by
  intro a setting s
  obtain halone | ⟨p, hp⟩ := hx a setting s
  · rcases hr : (x a).runWith setting s with ⟨fault | v, t⟩
    · refine .inl fun b hb => ?_
      simp only [Action.runWith_bind, halone b hb, hr]
    · have hb {b : Children} (hb : AgreeOnSuccess a b) : (x b).runWith setting s = (.ok v, t) :=
        (halone b hb).trans hr
      obtain hrest | ⟨p, hp⟩ := hf v a setting t
      · refine .inl fun b hagree => ?_
        rw [Action.runWith_bind_of_ok (hb hagree), Action.runWith_bind_of_ok hr, hrest b hagree]
      · refine .inr ⟨p, hp.fails, fun b fault u hagree hu => ?_⟩
        rw [Action.runWith_bind_of_ok (hb hagree)]
        exact hp.passes b fault u hagree hu
  · refine .inr ⟨p, hp.fails, fun b fault t hagree ht => ?_⟩
    obtain ⟨u, hu, hlog⟩ := hp.passes b fault t hagree ht
    exact ⟨u, by rw [Action.runWith_bind, hu], hlog⟩

theorem Traceable.ite {c : Prop} [Decidable c] {y : Children → Action α} (hx : Traceable x)
    (hy : Traceable y) : Traceable fun a => if c then x a else y a := by
  split
  · exact hx
  · exact hy

/-- What is done after an action in any case neither fails nor logs. -/
theorem Traceable.followedBy (hx : Traceable x) {after : Action Unit} {f : Session → Session}
    (hafter : ∀ setting s, after.runWith setting s = (.ok (), f s)) (hlog : ∀ s, (f s).log = s.log) :
    Traceable fun a => (x a).followedBy after := by
  have hrun (b : Children) (setting : Setting) (s : Session) :=
    Action.runWith_followedBy (x b) (hafter setting) s
  intro a setting s
  obtain halone | ⟨p, hp⟩ := hx a setting s
  · exact .inl fun b hb => by rw [hrun, hrun, halone b hb]
  · refine .inr ⟨p, hp.fails, fun b fault t hagree ht => ?_⟩
    obtain ⟨u, hu, hu'⟩ := hp.passes b fault t hagree ht
    exact ⟨f u, by rw [hrun, hu], (hlog u).trans hu'⟩

end Ending

/-! ### Commands -/

namespace Command

open Attributes

variable {children : Children → Children}
variable (hc : ∀ rule focus, Traceable fun a => children a rule focus) (rule : Rule) (focus : Focus)

include hc

theorem traceable_value : Traceable fun a => value (children a) rule focus := by
  unfold value
  cases rule.attribute? "select" with
  | some select => exact .own _
  | none => exact .ite (hc rule focus) (.own _)

theorem traceable_paragraph : Traceable fun a => paragraph (children a) rule focus :=
  (hc rule focus).bind fun _ => .own _

theorem traceable_message : Traceable fun a => message (children a) rule focus := by
  unfold message
  cases rule.attribute? "select" with
  | some select => exact .own _
  | none =>
    dsimp only
    split
    · exact (hc rule focus).bind fun _ => .own _
    · exact .own _

theorem traceable_setVariable : Traceable fun a => setVariable (children a) rule focus := by
  refine (Traceable.own (text rule "variable" focus)).bind fun name => ?_
  cases rule.attribute? "select" with
  | some select => exact .own _
  | none => exact (hc rule focus).bind fun _ => .own _

theorem traceable_textblock : Traceable fun a => textblock (children a) rule focus :=
  (Traceable.own _).bind fun _ => (Traceable.own _).bind fun _ => (Traceable.own _).bind fun _ =>
    (hc rule focus).bind fun _ => .own _

theorem traceable_placeObject : Traceable fun a => placeObject (children a) rule focus := by
  refine (Traceable.own _).bind fun _ => (Traceable.own _).bind fun _ =>
    (Traceable.own _).bind fun _ => (Traceable.own _).bind fun _ =>
      (Traceable.own _).bind fun _ => (Traceable.own _).bind fun _ =>
        (Traceable.own (text? rule "groupname" focus)).bind fun name => ?_
  cases name with
  | some name => exact .own _
  | none => exact (hc rule focus).bind fun _ => .own _

theorem traceable_group : Traceable fun a => group (children a) rule focus := by
  refine (Traceable.own (text rule "name" focus)).bind fun name => ?_
  cases rule.child? "Contents" with
  | none => exact .own _
  | some contents =>
    exact (Traceable.own _).bind fun _ => (Traceable.own _).bind fun _ =>
      (Traceable.own _).bind fun _ =>
        ((hc contents focus).followedBy (fun _ _ => Action.runWith_modifyLayout _) fun _ => rfl).bind
          fun _ => .own _

omit hc in
theorem traceable_inScope {α : Type} {x : Children → Action α} (hx : Traceable x) :
    Traceable fun a => inScope (x a) :=
  (Traceable.own _).bind fun _ =>
    hx.followedBy (fun _ _ => Action.runWith_modifyScopes _) fun _ => rfl

omit hc in
theorem traceable_forNodes {round : Children → Focus → Action Items}
    (hr : ∀ focus, Traceable fun a => round a focus) (size position : Nat)
    (nodes : List Xml.Address) :
    Traceable fun a => forNodes (round a) size position nodes := by
  induction nodes generalizing position with
  | nil => exact .own _
  | cons node rest ih => exact (hr _).bind fun _ => (ih (position + 1)).bind fun _ => .own _

omit hc in
theorem traceable_repeated {round : Children → Nat → Action Items}
    (hr : ∀ i, Traceable fun a => round a i) (first rounds : Nat) :
    Traceable fun a => repeated (round a) first rounds := by
  induction rounds generalizing first with
  | zero => exact .own _
  | succ rounds ih => exact (hr first).bind fun _ => (ih (first + 1)).bind fun _ => .own _

theorem traceable_forAll : Traceable fun a => forAll (children a) rule focus :=
  (Traceable.own _).bind fun nodes =>
    traceable_forNodes (fun focus => traceable_inScope (hc rule focus)) nodes.length 1 nodes

theorem traceable_loop : Traceable fun a => loop (children a) rule focus := by
  have hround (counter : String) (i : Nat) : Traceable fun a => inScope (do
      Action.modifyScopes (·.bind counter (.number (Float.ofNat i)))
      children a rule focus) :=
    traceable_inScope ((Traceable.own _).bind fun _ => hc rule focus)
  refine (Traceable.own _).bind fun select => (Traceable.own _).bind fun v =>
    (Traceable.own (read : Action Setting)).bind fun setting => ?_
  dsimp only
  split
  · exact (Traceable.own _).bind fun _ => (Traceable.own _).bind fun counter =>
      traceable_repeated (hround counter) 1 _
  · exact (Traceable.own _).bind fun counter => traceable_repeated (hround counter) 1 _

theorem traceable_firstBranch (branches : List Rule) :
    Traceable fun a => firstBranch (children a) focus branches := by
  induction branches with
  | nil => exact .own _
  | cons branch rest ih =>
    refine .ite ?_ (.ite (hc branch focus) ((Traceable.own _).bind fun _ => ih))
    exact (Traceable.own _).bind fun test => (Traceable.own _).bind fun _ => .ite (hc branch focus) ih

theorem traceable_processNode : Traceable fun a => processNode (children a) rule focus := by
  refine (Traceable.own _).bind fun mode => (Traceable.own _).bind fun nodes =>
    traceable_forNodes (fun focus => ?_) nodes.length 1 nodes
  refine (Traceable.own (read : Action Setting)).bind fun setting => ?_
  cases elementName? setting.data focus.node with
  | none => exact .own _
  | some name =>
    refine (Traceable.own Action.layout).bind fun l => ?_
    cases l.patterns.lookup? name mode with
    | some recorded => exact hc recorded focus
    | none => exact .own _

end Command

/-! ### Rules -/

theorem CommandName.traceable_run {children : Children → Children}
    (hc : ∀ rule focus, Traceable fun a => children a rule focus) (command : CommandName)
    (rule : Rule) (focus : Focus) : Traceable fun a => command.run (children a) rule focus := by
  cases command with
  | recordRule | pageType | copyOf | image | box | newPage | nextRow | setGrid | mark => exact .own _
  | processNode => exact Command.traceable_processNode hc rule focus
  | value => exact Command.traceable_value hc rule focus
  | paragraph => exact Command.traceable_paragraph hc rule focus
  | textblock => exact Command.traceable_textblock hc rule focus
  | message => exact Command.traceable_message hc rule focus
  | placeObject => exact Command.traceable_placeObject hc rule focus
  | group => exact Command.traceable_group hc rule focus
  | contents => exact hc rule focus
  | setVariable => exact Command.traceable_setVariable hc rule focus
  | forAll => exact Command.traceable_forAll hc rule focus
  | loop => exact Command.traceable_loop hc rule focus
  | choose => exact Command.traceable_firstBranch hc focus rule.elements

theorem Interpreter.traceable_executeAll (focus : Focus) (rules : List Rule) :
    Traceable fun a => executeAll a focus rules := by
  induction rules with
  | nil => exact .own _
  | cons rule rest ih => exact (traceable_apply rule focus).bind fun _ => ih.bind fun _ => .own _

end PageGrid
