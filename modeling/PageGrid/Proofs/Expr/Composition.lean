import Mathlib
import PageGrid.Proofs.Expr.Readable
import PageGrid.Proofs.Expr.NodeSets

/-!
# Composition of paths

A path goes from node set to node set, and after every step the nodes are brought into document order
and repetitions are dropped. The positions that predicates count, on the other hand, are counted from
each single node. So a path can be cut anywhere: to go on from a node set is to go on from each of
its nodes and to collect what is found.

What carries this is `Gathers`: a search from a list of nodes succeeds iff the search from each of
them does, and finds what these find. It holds of one step, and it is kept by sequencing, which is
the induction over the steps. The order is that of the last step.

Steps see the context node only through the nodes they go on from. Position and size of the context
can be seen by the expression that a path starts from, and by nothing else in it.

## Main definitions

* `Gathers` — a search from a list of nodes is one from each of them;
* `Expr.IgnoresPosition` — an expression does not read position and size outside predicates.

## Main results

* `PathStep.gathers_evalAll` — steps from a list of nodes are steps from each of them;
* `Expr.eval_withFocus` — an expression that does not read position and size does not depend on them;
* `path_composition` — a path that goes on with another path;
* `position_reaches_path_start` — the start of a path may depend on the position.
-/

namespace PageGrid

open Xml (Address InOrder)
open Xml.Address (Before)

variable {ε : Type}

/-! ### Searches from many nodes -/

/-- The search from a list of nodes succeeds iff the search from each of the nodes does, and then it
finds what these find. -/
structure Gathers (search : Address → Noted ε (List Address)) (nodes : List Address)
    (all : Noted ε (List Address)) : Prop where
  succeeds : (∃ set, all.outcome = .ok set) ↔
    ∀ n ∈ nodes, ∃ found, (search n).outcome = .ok found
  mem_iff : ∀ {set}, all.outcome = .ok set → ∀ a, a ∈ set ↔
    ∃ n ∈ nodes, ∃ found, (search n).outcome = .ok found ∧ a ∈ found

theorem gathers_fromEach (search : Address → Noted ExprError (List Address))
    (nodes : List Address) : Gathers search nodes (fromEach search nodes) := by
  induction nodes with
  | nil =>
    refine ⟨⟨fun _ n hn => (List.not_mem_nil hn).elim, fun _ => ⟨[], rfl⟩⟩, fun {set} h a => ?_⟩
    cases h
    simp
  | cons n ns ih =>
    constructor
    · simp only [List.forall_mem_cons, ← ih.succeeds]
      constructor
      · rintro ⟨set, h⟩
        obtain ⟨found, hfound, h⟩ := Noted.outcome_bind_eq_ok.mp h
        obtain ⟨others, hothers, -⟩ := Noted.outcome_bind_eq_ok.mp h
        exact ⟨⟨found, hfound⟩, others, hothers⟩
      · rintro ⟨⟨found, hfound⟩, others, hothers⟩
        exact ⟨found ++ others, Noted.outcome_bind_eq_ok.mpr
          ⟨found, hfound, Noted.outcome_bind_eq_ok.mpr ⟨others, hothers, rfl⟩⟩⟩
    · intro set h a
      obtain ⟨found, hfound, h⟩ := Noted.outcome_bind_eq_ok.mp h
      obtain ⟨others, hothers, h⟩ := Noted.outcome_bind_eq_ok.mp h
      cases h
      simp [ih.mem_iff hothers, hfound]

/-- Bringing the results into document order keeps what is found. -/
theorem gathers_ofList {search : Address → Noted ε (List Address)} {nodes : List Address}
    {all : Noted ε (List Address)} (h : Gathers search nodes all) :
    Gathers search nodes (do return NodeSet.ofList (← all)) := by
  constructor
  · rw [← h.succeeds]
    constructor
    · rintro ⟨set, hset⟩
      obtain ⟨found, hfound, -⟩ := Noted.outcome_bind_eq_ok.mp hset
      exact ⟨found, hfound⟩
    · rintro ⟨found, hfound⟩
      exact ⟨_, Noted.outcome_bind_eq_ok.mpr ⟨found, hfound, rfl⟩⟩
  · intro set hset a
    obtain ⟨found, hfound, hset⟩ := Noted.outcome_bind_eq_ok.mp hset
    cases hset
    rw [NodeSet.mem_ofList, h.mem_iff hfound]

/-- The search from each node may itself be the one from a list of one node. -/
theorem Gathers.singleton {search : Address → Noted ε (List Address)}
    {all : List Address → Noted ε (List Address)} (h : ∀ nodes, Gathers search nodes (all nodes))
    (nodes : List Address) : Gathers (fun n => all [n]) nodes (all nodes) := by
  have hsucceeds (n : Address) : (∃ found, (all [n]).outcome = .ok found) ↔
      ∃ found, (search n).outcome = .ok found := by
    rw [(h [n]).succeeds, List.forall_mem_singleton]
  have hmem (n a : Address) : (∃ found, (all [n]).outcome = .ok found ∧ a ∈ found) ↔
      ∃ found, (search n).outcome = .ok found ∧ a ∈ found := by
    constructor
    · rintro ⟨found, hfound, ha⟩
      simpa using ((h [n]).mem_iff hfound a).mp ha
    · rintro ⟨found, hfound, ha⟩
      obtain ⟨set, hset⟩ := (hsucceeds n).mpr ⟨found, hfound⟩
      exact ⟨set, hset, ((h [n]).mem_iff hset a).mpr ⟨n, .head _, found, hfound, ha⟩⟩
  constructor
  · simp only [hsucceeds, (h nodes).succeeds]
  · intro set hset a
    simp only [hmem, (h nodes).mem_iff hset]

section Sequencing

variable {first second : List Address → Noted ε (List Address)}

theorem Gathers.bind_succeeds
    (h : ∀ nodes, Gathers (fun n => second [n]) nodes (second nodes)) {found : Noted ε (List Address)} :
    (∃ set, (found >>= second).outcome = .ok set) ↔
      ∃ mid, found.outcome = .ok mid ∧ ∀ m ∈ mid, ∃ set, (second [m]).outcome = .ok set := by
  simp only [Noted.outcome_bind_eq_ok, ← (h _).succeeds]
  exact ⟨fun ⟨set, mid, hmid, hset⟩ => ⟨mid, hmid, set, hset⟩,
    fun ⟨mid, hmid, set, hset⟩ => ⟨set, mid, hmid, hset⟩⟩

theorem Gathers.mem_bind_iff
    (h : ∀ nodes, Gathers (fun n => second [n]) nodes (second nodes)) {found : Noted ε (List Address)}
    {mid set : List Address} (hmid : found.outcome = .ok mid)
    (hset : (found >>= second).outcome = .ok set) (a : Address) :
    a ∈ set ↔ ∃ m ∈ mid, ∃ set, (second [m]).outcome = .ok set ∧ a ∈ set := by
  obtain ⟨mid', hmid', hset⟩ := Noted.outcome_bind_eq_ok.mp hset
  obtain rfl := Except.ok.inj (hmid.symm.trans hmid')
  exact (h mid).mem_iff hset a

/-- **Sequencing.** A search that goes on from what the first one finds. -/
theorem Gathers.bind (h₁ : ∀ nodes, Gathers (fun n => first [n]) nodes (first nodes))
    (h₂ : ∀ nodes, Gathers (fun n => second [n]) nodes (second nodes)) (nodes : List Address) :
    Gathers (fun n => first [n] >>= second) nodes (first nodes >>= second) := by
  constructor
  · simp only [Gathers.bind_succeeds h₂]
    constructor
    · rintro ⟨mid, hmid, hall⟩ n hn
      obtain ⟨found, hfound⟩ := (h₁ nodes).succeeds.mp ⟨mid, hmid⟩ n hn
      exact ⟨found, hfound, fun m hm => hall m (((h₁ nodes).mem_iff hmid m).mpr
        ⟨n, hn, found, hfound, hm⟩)⟩
    · intro h
      obtain ⟨mid, hmid⟩ := (h₁ nodes).succeeds.mpr fun n hn =>
        let ⟨found, hfound, _⟩ := h n hn
        ⟨found, hfound⟩
      refine ⟨mid, hmid, fun m hm => ?_⟩
      obtain ⟨n, hn, found, hfound, hm⟩ := ((h₁ nodes).mem_iff hmid m).mp hm
      obtain ⟨found', hfound', hall⟩ := h n hn
      obtain rfl := Except.ok.inj (hfound.symm.trans hfound')
      exact hall m hm
  · intro set hset a
    obtain ⟨mid, hmid, hall⟩ := (Gathers.bind_succeeds h₂).mp ⟨set, hset⟩
    rw [Gathers.mem_bind_iff h₂ hmid hset]
    constructor
    · rintro ⟨m, hm, found, hfound, ha⟩
      obtain ⟨n, hn, midn, hmidn, hmn⟩ := ((h₁ nodes).mem_iff hmid m).mp hm
      -- The search from `n` goes on from some of the nodes that the search from all goes on from.
      have hsub : ∀ m ∈ midn, m ∈ mid := fun m hm =>
        ((h₁ nodes).mem_iff hmid m).mpr ⟨n, hn, midn, hmidn, hm⟩
      obtain ⟨setn, hsetn⟩ := (Gathers.bind_succeeds h₂).mpr
        ⟨midn, hmidn, fun m hm => hall m (hsub m hm)⟩
      exact ⟨n, hn, setn, hsetn,
        (Gathers.mem_bind_iff h₂ hmidn hsetn a).mpr ⟨m, hmn, found, hfound, ha⟩⟩
    · rintro ⟨n, hn, setn, hsetn, ha⟩
      obtain ⟨midn, hmidn, -⟩ := (Gathers.bind_succeeds h₂).mp ⟨setn, hsetn⟩
      obtain ⟨m, hm, found, hfound, ha⟩ := (Gathers.mem_bind_iff h₂ hmidn hsetn a).mp ha
      exact ⟨m, ((h₁ nodes).mem_iff hmid m).mpr ⟨n, hn, midn, hmidn, hm⟩, found, hfound, ha⟩

end Sequencing

/-! ### Steps -/

namespace PathStep

/-- **One step.** Its predicates count from each single node. -/
theorem gathers_eval (c : Context) (s : PathStep) (nodes : List Address) :
    Gathers (fun n => eval c s [n]) nodes (eval c s nodes) := by
  obtain ⟨axis, test, predicates⟩ := s
  exact Gathers.singleton (fun nodes => gathers_ofList (gathers_fromEach _ nodes)) nodes

/-- **Steps.** By induction over the steps. -/
theorem gathers_evalAll (c : Context) (steps : List PathStep) (nodes : List Address) :
    Gathers (fun n => evalAll c steps [n]) nodes (evalAll c steps nodes) := by
  induction steps generalizing nodes with
  | nil =>
    refine ⟨⟨fun _ n _ => ⟨[n], rfl⟩, fun _ => ⟨nodes, rfl⟩⟩, fun {set} h a => ?_⟩
    cases h
    constructor
    · exact fun ha => ⟨a, ha, [a], rfl, .head _⟩
    · rintro ⟨n, hn, found, hfound, ha⟩
      cases hfound
      exact List.mem_singleton.mp ha ▸ hn
  | cons s ss ih => exact Gathers.bind (gathers_eval c s) ih nodes

theorem evalAll_append_eq_ok {c : Context} {ps qs : List PathStep} {nodes set : List Address} :
    (evalAll c (ps ++ qs) nodes).outcome = .ok set ↔
      ∃ mid, (evalAll c ps nodes).outcome = .ok mid ∧ (evalAll c qs mid).outcome = .ok set := by
  induction ps generalizing nodes with
  | nil => simp [evalAll]
  | cons p ps ih =>
    simp only [List.cons_append, evalAll, Noted.outcome_bind_eq_ok, ih]
    exact ⟨fun ⟨first, hfirst, mid, hmid, h⟩ => ⟨mid, ⟨first, hfirst, hmid⟩, h⟩,
      fun ⟨mid, ⟨first, hfirst, hmid⟩, h⟩ => ⟨first, hfirst, mid, hmid, h⟩⟩

/-- What comes from a last step is in order, whatever it goes on from. -/
theorem inOrder_of_evalAll {c : Context} {steps : List PathStep} (hs : steps ≠ [])
    {nodes set : List Address} (h : (evalAll c steps nodes).outcome = .ok set) : InOrder set := by
  cases steps with
  | nil => exact absurd rfl hs
  | cons s ss =>
    obtain ⟨axis, test, predicates⟩ := s
    obtain ⟨mid, hs, h⟩ := Noted.outcome_bind_eq_ok.mp h
    obtain ⟨all, -, hall⟩ := Noted.outcome_bind_eq_ok.mp hs
    cases hall
    exact inOrder_evalAll (NodeSet.inOrder_ofList all) h

end PathStep

/-! ### The focus -/

/-- Predicates see a focus of their own. -/
theorem Expr.keepAll_withFocus (c : Context) (focus : Focus) (predicates : List Expr)
    (nodes : List Address) :
    Expr.keepAll (c.withFocus focus) predicates nodes = Expr.keepAll c predicates nodes := by
  induction predicates generalizing nodes with
  | nil => rfl
  | cons p ps ih =>
    simp only [Expr.keepAll, ih]
    rfl

theorem PathStep.evalAll_withFocus (c : Context) (focus : Focus) (steps : List PathStep)
    (nodes : List Address) :
    PathStep.evalAll (c.withFocus focus) steps nodes = PathStep.evalAll c steps nodes := by
  induction steps generalizing nodes with
  | nil => rfl
  | cons s ss ih =>
    obtain ⟨axis, test, predicates⟩ := s
    simp only [PathStep.evalAll, PathStep.eval, Expr.keepAll_withFocus, ih]
    rfl

/-- A function by name does not read position and size. -/
def FunctionIgnoresPosition (c : Context) (name : String) : Prop :=
  match CoreFunction.ofName? name with
  | some f => f ≠ .position ∧ f ≠ .last
  | none => ∀ focus focus' : Focus, focus.node = focus'.node →
    c.extension focus name = c.extension focus' name

mutual

/-- The expression does not read position and size of the context, other than in predicates of steps,
which are about foci of their own. -/
def Expr.IgnoresPosition (c : Context) : Expr → Prop
  | .literal _ | .number _ | .variable _ => True
  | .call name args => FunctionIgnoresPosition c name ∧ Expr.AllIgnorePosition c args
  | .binary _ left right => Expr.IgnoresPosition c left ∧ Expr.IgnoresPosition c right
  | .negate e => Expr.IgnoresPosition c e
  | .path start _ => PathStart.IgnoresPosition c start

/-- No expression of a list reads position and size of the context. -/
def Expr.AllIgnorePosition (c : Context) : List Expr → Prop
  | [] => True
  | e :: es => Expr.IgnoresPosition c e ∧ Expr.AllIgnorePosition c es

/-- The start of a path does not read position and size of the context. -/
def PathStart.IgnoresPosition (c : Context) : PathStart → Prop
  | .context | .root => True
  | .value e => Expr.IgnoresPosition c e

end

theorem CoreFunction.call_withFocus {c : Context} {f : CoreFunction} (hp : f ≠ .position)
    (hl : f ≠ .last) (position size : Nat) (args : List Value) :
    f.call (c.withFocus ⟨c.node, position, size⟩) args = f.call c args := by
  have happly : f.apply (c.withFocus ⟨c.node, position, size⟩) args = f.apply c args := by
    cases f
    case position => exact absurd rfl hp
    case last => exact absurd rfl hl
    all_goals
      obtain _ | ⟨v, _ | ⟨w, rest⟩⟩ := args
      · rfl
      all_goals cases v <;> rfl
  unfold CoreFunction.call
  rw [happly]

theorem callFunction_withFocus {c : Context} {name : String} (h : FunctionIgnoresPosition c name)
    (position size : Nat) (args : List Value) :
    callFunction (c.withFocus ⟨c.node, position, size⟩) name args = callFunction c name args := by
  unfold FunctionIgnoresPosition at h
  unfold callFunction
  cases hf : CoreFunction.ofName? name with
  | some f =>
    rw [hf] at h
    simp only [CoreFunction.call_withFocus h.1 h.2]
  | none =>
    rw [hf] at h
    have hext : (c.withFocus ⟨c.node, position, size⟩).extension
        (c.withFocus ⟨c.node, position, size⟩).toFocus name = c.extension c.toFocus name :=
      h _ _ rfl
    simp only [hext]

mutual

/-- **The focus.** An expression that does not read position and size does not depend on them. -/
theorem Expr.eval_withFocus {c : Context} (position size : Nat) : (e : Expr) →
    Expr.IgnoresPosition c e →
    Expr.eval (c.withFocus ⟨c.node, position, size⟩) e = Expr.eval c e
  | .literal _, _ | .number _, _ | .variable _, _ => rfl
  | .call name args, h => by
    simp only [Expr.eval, Expr.evalAll_withFocus position size args h.2,
      callFunction_withFocus h.1]
  | .binary op left right, h => by
    simp only [Expr.eval, Expr.eval_withFocus position size left h.1,
      Expr.eval_withFocus position size right h.2]
    rfl
  | .negate e, h => by
    simp only [Expr.eval, Expr.eval_withFocus position size e h]
    rfl
  | .path start steps, h => by
    simp only [Expr.eval, PathStart.eval_withFocus position size start h,
      PathStep.evalAll_withFocus]

theorem Expr.evalAll_withFocus {c : Context} (position size : Nat) : (es : List Expr) →
    Expr.AllIgnorePosition c es →
    Expr.evalAll (c.withFocus ⟨c.node, position, size⟩) es = Expr.evalAll c es
  | [], _ => rfl
  | e :: es, h => by
    simp only [Expr.evalAll, Expr.eval_withFocus position size e h.1,
      Expr.evalAll_withFocus position size es h.2]

theorem PathStart.eval_withFocus {c : Context} (position size : Nat) : (start : PathStart) →
    PathStart.IgnoresPosition c start →
    PathStart.eval (c.withFocus ⟨c.node, position, size⟩) start = PathStart.eval c start
  | .context, _ | .root, _ => rfl
  | .value e, h => by
    simp only [PathStart.eval, Expr.eval_withFocus position size e h]

end

/-! ### Paths -/

theorem Expr.selects_path {c : Context} {start : PathStart} {steps : List PathStep}
    {set : List Address} :
    Expr.Selects c (.path start steps) set ↔
      ∃ nodes, (PathStart.eval c start).outcome = .ok nodes ∧
        (PathStep.evalAll c steps nodes).outcome = .ok set := by
  constructor
  · intro h
    obtain ⟨nodes, hnodes, h⟩ := Noted.outcome_bind_eq_ok.mp h
    obtain ⟨found, hfound, h⟩ := Noted.outcome_bind_eq_ok.mp h
    cases h
    exact ⟨nodes, hnodes, hfound⟩
  · rintro ⟨nodes, hnodes, hset⟩
    exact Noted.outcome_bind_eq_ok.mpr ⟨nodes, hnodes, Noted.outcome_bind_eq_ok.mpr ⟨set, hset, rfl⟩⟩

/-- A relative path about a node takes its steps from there. -/
theorem Expr.selects_path_context {c : Context} {focus : Focus} {steps : List PathStep}
    {set : List Address} :
    Expr.Selects (c.withFocus focus) (.path .context steps) set ↔
      (PathStep.evalAll c steps [focus.node]).outcome = .ok set := by
  rw [Expr.selects_path, ← PathStep.evalAll_withFocus c focus]
  constructor
  · rintro ⟨nodes, hnodes, hset⟩
    cases hnodes
    exact hset
  · exact fun hset => ⟨_, rfl, hset⟩

theorem Expr.selects_path_append {c : Context} {start : PathStart} {ps qs : List PathStep}
    {set : List Address} :
    Expr.Selects c (.path start (ps ++ qs)) set ↔
      ∃ nodes, Expr.Selects c (.path start ps) nodes ∧
        (PathStep.evalAll c qs nodes).outcome = .ok set := by
  simp only [Expr.selects_path, PathStep.evalAll_append_eq_ok]
  exact ⟨fun ⟨from', hfrom, nodes, hnodes, h⟩ => ⟨nodes, ⟨from', hfrom, hnodes⟩, h⟩,
    fun ⟨nodes, ⟨from', hfrom, hnodes⟩, h⟩ => ⟨from', hfrom, nodes, hnodes, h⟩⟩

/-- **Composition.** A path that goes on with the steps of another path, at least one, succeeds iff
the first path does and the second one does from every node that the first one finds. It yields
the nodes that the second path yields from these nodes, in document order and each once. Position
and size of the context have no influence on it unless the first path starts from an expression
that reads them. -/
theorem path_composition (c : Context) (start : PathStart) (ps qs : List PathStep) (hq : qs ≠ []) :
    ((∃ set, Expr.Selects c (.path start (ps ++ qs)) set) ↔
      ∃ nodes, Expr.Selects c (.path start ps) nodes ∧
        ∀ n ∈ nodes, ∃ found, Expr.Selects (c.withFocus (.single n)) (.path .context qs) found) ∧
    (∀ nodes set, Expr.Selects c (.path start ps) nodes →
      Expr.Selects c (.path start (ps ++ qs)) set →
      InOrder set ∧ set.Nodup ∧ ∀ a, a ∈ set ↔ ∃ n ∈ nodes, ∃ found,
        Expr.Selects (c.withFocus (.single n)) (.path .context qs) found ∧ a ∈ found) ∧
    (∀ n position size, Expr.eval (c.withFocus ⟨n, position, size⟩) (.path .context qs) =
      Expr.eval (c.withFocus (.single n)) (.path .context qs)) ∧
    (start.IgnoresPosition c → ∀ position size,
      Expr.eval (c.withFocus ⟨c.node, position, size⟩) (.path start (ps ++ qs)) =
        Expr.eval c (.path start (ps ++ qs))) := by
  have hgathers (nodes : List Address) := PathStep.gathers_evalAll c qs nodes
  refine ⟨?_, fun nodes set hnodes hset => ?_, fun n position size => ?_, fun hstart position size =>
    Expr.eval_withFocus position size (.path start (ps ++ qs)) hstart⟩
  · simp only [Expr.selects_path_append, Expr.selects_path_context]
    constructor
    · rintro ⟨set, nodes, hnodes, hset⟩
      exact ⟨nodes, hnodes, (hgathers nodes).succeeds.mp ⟨set, hset⟩⟩
    · rintro ⟨nodes, hnodes, hall⟩
      obtain ⟨set, hset⟩ := (hgathers nodes).succeeds.mpr hall
      exact ⟨set, nodes, hnodes, hset⟩
  · obtain ⟨nodes', hnodes', hset⟩ := Expr.selects_path_append.mp hset
    obtain rfl := hnodes.unique hnodes'
    have hordered := PathStep.inOrder_of_evalAll hq hset
    simp only [Expr.selects_path_context]
    exact ⟨hordered, hordered.nodup, (hgathers nodes).mem_iff hset⟩
  · exact Expr.eval_withFocus (c := c.withFocus (.single n)) position size (.path .context qs) trivial

/-- The last item, `/data/item[position() = last()]`, in two parts. -/
def PathStep.lastItem : List PathStep :=
  [.mk .child (.name "data") [],
    .mk .child (.name "item") [.binary .equal (.call "position" []) (.call "last" [])]]

/-- The identifiers of the nodes beside a node, `../item[2]/@id`. -/
def PathStep.secondIdentifier : List PathStep :=
  [.mk .parent .node [], .mk .child (.name "item") [.number 2], .mk .attribute (.name "id") []]

theorem path_composition_twoItems :
    PathStep.secondIdentifier ≠ [] ∧
    PathStart.IgnoresPosition .twoItems .root ∧
    Expr.Selects .twoItems (.path .root PathStep.lastItem) [[.child 0, .child 1]] ∧
    (∃ found, Expr.Selects (Context.twoItems.withFocus (.single [.child 0, .child 1]))
      (.path .context PathStep.secondIdentifier) found ∧ [.child 0, .child 1, .attribute 0] ∈ found) ∧
    Expr.eval (Context.twoItems.withFocus ⟨Context.twoItems.node, 7, 9⟩)
        (.path .root (PathStep.lastItem ++ PathStep.secondIdentifier)) =
      Expr.eval .twoItems (.path .root (PathStep.lastItem ++ PathStep.secondIdentifier)) := by
  have hfirst : Expr.Selects .twoItems (.path .root PathStep.lastItem) [[.child 0, .child 1]] := by
    decide +kernel
  have hboth : Expr.Selects .twoItems (.path .root (PathStep.lastItem ++ PathStep.secondIdentifier))
      [[.child 0, .child 1, .attribute 0]] := by
    decide +kernel
  obtain ⟨-, hset, -, hfocus⟩ :=
    path_composition .twoItems .root PathStep.lastItem PathStep.secondIdentifier (List.cons_ne_nil _ _)
  obtain ⟨n, hn, hfound⟩ := ((hset _ _ hfirst hboth).2.2 _).mp (.head _)
  obtain rfl := List.mem_singleton.mp hn
  exact ⟨List.cons_ne_nil _ _, trivial, hfirst, hfound, hfocus trivial 7 9⟩

/-- A start that is true about the last node and reads an unbound variable about others. -/
def Expr.lastOrOther : Expr :=
  .binary .or (.binary .equal (.call "position" []) (.call "last" [])) (.variable "other")

/-- The identifiers of the items that a node contains, `item/@id`. -/
def PathStep.itemIdentifiers : List PathStep :=
  [.mk .child (.name "item") [], .mk .attribute (.name "id") []]

/-- The start of a path sees the position of the context: about the second of two nodes the path
`(position() = last() or $other)/item/@id` yields nothing, and about the first one it fails. -/
theorem position_reaches_path_start :
    Expr.parse "(position() = last() or $other)/item/@id" =
      .ok (.path (.value .lastOrOther) PathStep.itemIdentifiers) ∧
    Expr.Selects (Context.twoItems.withFocus ⟨Xml.Document.rootElement, 2, 2⟩)
      (.path (.value .lastOrOther) PathStep.itemIdentifiers) [] ∧
    (Expr.eval (Context.twoItems.withFocus ⟨Xml.Document.rootElement, 1, 2⟩)
      (.path (.value .lastOrOther) PathStep.itemIdentifiers)).outcome =
      .error (.unknownVariable "other") := by
  have trimmed : Text.trimChars "(position() = last() or $other)/item/@id".toList =
      "(position() = last() or $other)/item/@id".toList := by decide
  have length : "(position() = last() or $other)/item/@id".toList.length = 40 := rfl
  have read : Expr.parse "(position() = last() or $other)/item/@id" =
      .ok (.path (.value .lastOrOther) PathStep.itemIdentifiers) := by
    rw [Expr.parse_eq_ok_iff trimmed, length]
    cbv
  exact ⟨read, rfl, rfl⟩

end PageGrid
