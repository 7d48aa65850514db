import Mathlib.Data.Finset.Card
import PageGrid.Expr.Evaluation
import PageGrid.Proofs.Noted
import PageGrid.Proofs.Xml.DocumentOrder

/-!
# Node sets are in document order

Nodes from different parts of a document come together in a step and in a union, and both bring them
into document order. No other operator and no built-in function makes a node set. So what an
expression yields is in order, given that the variables and the functions of the caller are: a
variable is handed out as it is bound, and a path without steps as its start.

Predicates and arguments are evaluated like any other expression, about another node but with the
same variables and functions. So the statement about all expressions and all foci is one about all
parts of an expression, too.

## Main definitions

* `Expr.Selects` — an expression yields a node set;
* `Value.InOrder`, `Context.Ordered` — values and contexts whose node sets are in order.

## Main results

* `Expr.inOrder_eval` — the value of an expression is in order;
* `node_sets_in_document_order` — node sets, unions and counts.
-/

namespace PageGrid

open Xml (Address InOrder)
open Xml.Address (Before)

/-- The value is a node set in document order, or no node set. -/
def Value.InOrder : Value → Prop
  | .nodes set => Xml.InOrder set
  | _ => True

/-- The node sets that variables are bound to are in document order, and those that the functions
of the caller yield for arguments in order. -/
structure Context.Ordered (c : Context) : Prop where
  bindings : ∀ {name v}, c.bindings name = some v → v.InOrder
  extension : ∀ {focus name args result v}, (∀ w ∈ args, w.InOrder) →
    c.extension focus name args = some result → result.outcome = .ok v → v.InOrder

theorem Context.Ordered.withFocus {c : Context} (h : c.Ordered) (focus : Focus) :
    (c.withFocus focus).Ordered :=
  ⟨h.bindings, h.extension⟩

/-- The expression yields a node set. -/
def Expr.Selects (c : Context) (e : Expr) (set : List Address) : Prop :=
  (Expr.eval c e).outcome = .ok (.nodes set)

/-- The node set that a value is. -/
def Value.nodes? : Value → Option (List Address)
  | .nodes set => some set
  | _ => none

theorem Expr.selects_iff {c : Context} {e : Expr} {set : List Address} :
    Expr.Selects c e set ↔ (Expr.eval c e).outcome.toOption.bind Value.nodes? = some set := by
  rw [Expr.Selects]
  rcases (Expr.eval c e).outcome with _ | _ | _ | _ | _ <;> simp [Except.toOption, Value.nodes?]

instance (c : Context) (e : Expr) (set : List Address) : Decidable (Expr.Selects c e set) :=
  decidable_of_iff _ Expr.selects_iff.symm

/-! ### Operators and functions -/

theorem inOrder_applyBinary {d : Xml.Document} {op : BinaryOp} {l r v : Value}
    (h : applyBinary d op l r = .ok v) : v.InOrder := by
  cases op
  case union =>
    cases l <;> cases r <;> simp only [applyBinary, reduceCtorEq, Except.ok.injEq] at h
    subst h
    exact NodeSet.inOrder_union _ _
  all_goals
    cases h
    trivial

theorem inOrder_shortcut? {op : BinaryOp} {l v : Value} (h : shortcut? op l = some v) :
    v.InOrder := by
  cases op <;> simp only [shortcut?, reduceCtorEq] at h <;> split at h <;> cases h <;> trivial

/-- No built-in function yields a node set. -/
theorem CoreFunction.inOrder_apply {c : Context} {f : CoreFunction} {args : List Value} {v : Value}
    (h : f.apply c args = .ok v) : v.InOrder := by
  unfold CoreFunction.apply at h
  split at h <;> cases h <;> trivial

theorem CoreFunction.inOrder_call {c : Context} {f : CoreFunction} {args : List Value} {v : Value}
    (h : f.call c args = .ok v) : v.InOrder := by
  unfold CoreFunction.call at h
  split at h
  · split at h
    · exact inOrder_apply h
    · cases h
  · exact inOrder_apply h

theorem inOrder_callFunction {c : Context} (hc : c.Ordered) {name : String} {args : List Value}
    {v : Value} (hargs : ∀ w ∈ args, w.InOrder)
    (h : (callFunction c name args).outcome = .ok v) : v.InOrder := by
  unfold callFunction at h
  split at h
  · exact CoreFunction.inOrder_call (Noted.outcome_mapError_eq_ok.mp h)
  · split at h
    · next result hr => exact hc.extension hargs hr (Noted.outcome_mapError_eq_ok.mp h)
    · cases h

/-! ### Expressions -/

/-- A step brings what it finds into order, so only a path without steps can be out of order. -/
theorem PathStep.inOrder_evalAll {c : Context} {steps : List PathStep} {nodes set : List Address}
    (hn : InOrder nodes) (h : (PathStep.evalAll c steps nodes).outcome = .ok set) :
    InOrder set := by
  induction steps generalizing nodes with
  | nil =>
    cases h
    exact hn
  | cons s ss ih =>
    obtain ⟨axis, test, predicates⟩ := s
    obtain ⟨found, hs, h⟩ := Noted.outcome_bind_eq_ok.mp h
    obtain ⟨all, -, hall⟩ := Noted.outcome_bind_eq_ok.mp hs
    cases hall
    exact ih (NodeSet.inOrder_ofList all) h

mutual

/-- **Values.** The value of an expression is in document order. -/
theorem Expr.inOrder_eval {c : Context} (hc : c.Ordered) : (e : Expr) → {v : Value} →
    (Expr.eval c e).outcome = .ok v → v.InOrder
  | .literal _, _, h | .number _, _, h => by
    cases h
    trivial
  | .variable name, v, h => by
    rw [Expr.eval] at h
    split at h
    · next w hw =>
      cases h
      exact hc.bindings hw
    · cases h
  | .call name args, v, h => by
    obtain ⟨vs, hvs, h⟩ := Noted.outcome_bind_eq_ok.mp h
    exact inOrder_callFunction hc (Expr.inOrder_evalAll hc args hvs) h
  | .binary op left right, v, h => by
    obtain ⟨l, -, h⟩ := Noted.outcome_bind_eq_ok.mp h
    split at h
    · next w hw =>
      cases h
      exact inOrder_shortcut? hw
    · obtain ⟨r, -, h⟩ := Noted.outcome_bind_eq_ok.mp h
      exact inOrder_applyBinary h
  | .negate e, v, h => by
    obtain ⟨_, -, h⟩ := Noted.outcome_bind_eq_ok.mp h
    cases h
    trivial
  | .path start steps, v, h => by
    obtain ⟨nodes, hstart, h⟩ := Noted.outcome_bind_eq_ok.mp h
    obtain ⟨set, hsteps, h⟩ := Noted.outcome_bind_eq_ok.mp h
    cases h
    exact PathStep.inOrder_evalAll (PathStart.inOrder_eval hc start hstart) hsteps

theorem Expr.inOrder_evalAll {c : Context} (hc : c.Ordered) : (es : List Expr) →
    {vs : List Value} → (Expr.evalAll c es).outcome = .ok vs → ∀ v ∈ vs, v.InOrder
  | [], _, h, v, hv => by
    cases h
    cases hv
  | e :: es, _, h, v, hv => by
    obtain ⟨w, hw, h⟩ := Noted.outcome_bind_eq_ok.mp h
    obtain ⟨ws, hws, h⟩ := Noted.outcome_bind_eq_ok.mp h
    cases h
    obtain rfl | hv := List.mem_cons.mp hv
    · exact Expr.inOrder_eval hc e hw
    · exact Expr.inOrder_evalAll hc es hws v hv

theorem PathStart.inOrder_eval {c : Context} (hc : c.Ordered) : (start : PathStart) →
    {nodes : List Address} → (PathStart.eval c start).outcome = .ok nodes → InOrder nodes
  | .context, _, h | .root, _, h => by
    cases h
    exact List.pairwise_singleton _ _
  | .value e, nodes, h => by
    obtain ⟨v, hv, h⟩ := Noted.outcome_bind_eq_ok.mp h
    split at h
    · cases h
      exact Expr.inOrder_eval hc e hv
    · cases h
      exact .nil

end

/-! ### Unions and counts -/

namespace Expr

variable {c : Context} {e e₁ e₂ e₃ : Expr} {set : List Address}

/-- The union of two expressions. -/
abbrev union (e₁ e₂ : Expr) : Expr := .binary .union e₁ e₂

theorem selects_union :
    Selects c (union e₁ e₂) set ↔
      ∃ as bs, Selects c e₁ as ∧ Selects c e₂ bs ∧ NodeSet.union as bs = set := by
  constructor
  · intro h
    obtain ⟨l, hl, h⟩ := Noted.outcome_bind_eq_ok.mp h
    obtain ⟨r, hr, h⟩ := Noted.outcome_bind_eq_ok.mp h
    cases l <;> cases r <;>
      simp only [Noted.outcome_ofExcept, applyBinary, reduceCtorEq, Except.ok.injEq,
        Value.nodes.injEq] at h
    exact ⟨_, _, hl, hr, h⟩
  · rintro ⟨as, bs, ha, hb, rfl⟩
    exact Noted.outcome_bind_eq_ok.mpr ⟨_, ha, Noted.outcome_bind_eq_ok.mpr ⟨_, hb, rfl⟩⟩

theorem Selects.unique {as bs : List Address} (ha : Selects c e as) (hb : Selects c e bs) :
    as = bs :=
  Value.nodes.inj (Except.ok.inj (ha.symm.trans hb))

theorem Selects.inOrder (hc : c.Ordered) (h : Selects c e set) : InOrder set :=
  inOrder_eval hc e h

theorem selects_union_comm : Selects c (union e₁ e₂) set ↔ Selects c (union e₂ e₁) set := by
  have hswap {e₁ e₂ : Expr} (h : Selects c (union e₁ e₂) set) : Selects c (union e₂ e₁) set := by
    obtain ⟨as, bs, ha, hb, rfl⟩ := selects_union.mp h
    exact selects_union.mpr ⟨bs, as, hb, ha, NodeSet.union_comm bs as⟩
  exact ⟨hswap, hswap⟩

theorem selects_union_assoc :
    Selects c (union (union e₁ e₂) e₃) set ↔ Selects c (union e₁ (union e₂ e₃)) set := by
  simp only [selects_union]
  constructor
  · rintro ⟨_, cs, ⟨as, bs, ha, hb, rfl⟩, hcs, rfl⟩
    exact ⟨as, _, ha, ⟨bs, cs, hb, hcs, rfl⟩, (NodeSet.union_assoc as bs cs).symm⟩
  · rintro ⟨as, _, ha, ⟨bs, cs, hb, hcs, rfl⟩, rfl⟩
    exact ⟨_, cs, ⟨as, bs, ha, hb, rfl⟩, hcs, NodeSet.union_assoc as bs cs⟩

theorem selects_union_self (hc : c.Ordered) : Selects c (union e e) set ↔ Selects c e set := by
  rw [selects_union]
  constructor
  · rintro ⟨as, bs, ha, hb, rfl⟩
    rwa [← ha.unique hb, NodeSet.union_self (ha.inOrder hc)]
  · exact fun h => ⟨set, set, h, h, NodeSet.union_self (h.inOrder hc)⟩

theorem eval_count (h : Selects c e set) :
    (eval c (.call "count" [e])).outcome = .ok (.number (Float.ofNat set.length)) := by
  refine Noted.outcome_bind_eq_ok.mpr ⟨[.nodes set], ?_, rfl⟩
  exact Noted.outcome_bind_eq_ok.mpr ⟨_, h, Noted.outcome_bind_eq_ok.mpr ⟨[], rfl, rfl⟩⟩

end Expr

/-! ### Node sets -/

/-- **Node sets are in document order.** Let the node sets of the variables and of the functions of
the caller be in document order. Then so is every node set that an expression, or a part of one,
yields about any node, and no node is there twice. Document order is the order in which a walk
through the document meets its nodes, an element before its attributes and those before its
children. Unions are commutative, associative and idempotent and hold the nodes of both sides, and
a count is the number of different nodes. -/
theorem node_sets_in_document_order (c : Context) (hc : c.Ordered) :
    (∀ focus e set, Expr.Selects (c.withFocus focus) e set → InOrder set ∧ set.Nodup) ∧
    (∀ a b, (c.document.place? a).isSome = true → (c.document.place? b).isSome = true →
      (Before a b ↔ c.document.traversal.idxOf a < c.document.traversal.idxOf b)) ∧
    (∀ a i j, Before a (a ++ [.attribute i]) ∧ Before (a ++ [.attribute i]) (a ++ [.child j])) ∧
    (∀ focus e₁ e₂ as bs, Expr.Selects (c.withFocus focus) e₁ as →
      Expr.Selects (c.withFocus focus) e₂ bs →
      ∃ set, Expr.Selects (c.withFocus focus) (.union e₁ e₂) set ∧
        ∀ a, a ∈ set ↔ a ∈ as ∨ a ∈ bs) ∧
    (∀ focus e₁ e₂ set, Expr.Selects (c.withFocus focus) (.union e₁ e₂) set ↔
      Expr.Selects (c.withFocus focus) (.union e₂ e₁) set) ∧
    (∀ focus e₁ e₂ e₃ set, Expr.Selects (c.withFocus focus) (.union (.union e₁ e₂) e₃) set ↔
      Expr.Selects (c.withFocus focus) (.union e₁ (.union e₂ e₃)) set) ∧
    (∀ focus e set, Expr.Selects (c.withFocus focus) (.union e e) set ↔
      Expr.Selects (c.withFocus focus) e set) ∧
    ∀ focus e set, Expr.Selects (c.withFocus focus) e set →
      (Expr.eval (c.withFocus focus) (.call "count" [e])).outcome =
        .ok (.number (Float.ofNat set.toFinset.card)) := by
  refine ⟨fun focus e set h => ?_, fun a b => Xml.before_iff_idxOf_lt, Xml.Address.before_append,
    fun focus e₁ e₂ as bs ha hb => ?_, fun _ _ _ _ => Expr.selects_union_comm,
    fun _ _ _ _ _ => Expr.selects_union_assoc,
    fun focus _ _ => Expr.selects_union_self (hc.withFocus focus), fun focus e set h => ?_⟩
  · have hset := h.inOrder (hc.withFocus focus)
    exact ⟨hset, hset.nodup⟩
  · exact ⟨_, Expr.selects_union.mpr ⟨as, bs, ha, hb, rfl⟩, fun _ => NodeSet.mem_union⟩
  · rw [List.toFinset_card_of_nodup (h.inOrder (hc.withFocus focus)).nodup]
    exact Expr.eval_count h

/-- A document with two items, each of which has an attribute. -/
def Xml.Document.twoItems : Xml.Document :=
  ⟨⟨⟨"data", none, [], 1⟩,
    [.element ⟨"item", none, [⟨"id", none, "1"⟩], 1⟩ [.text "one"],
      .element ⟨"item", none, [⟨"id", none, "2"⟩], 1⟩ []]⟩⟩

/-- A context about its root element, with the first item in a variable and a function that yields
its argument. -/
def Context.twoItems : Context where
  toFocus := .single Xml.Document.rootElement
  document := .twoItems
  bindings name := if name = "first" then some (.nodes [[.child 0, .child 0]]) else none
  extension _ name args :=
    match args with
    | [v] => if name = "same" then some (pure v) else none
    | _ => none

theorem Context.ordered_twoItems : Context.twoItems.Ordered := by
  refine ⟨fun {name v} h => ?_, fun {focus name args result v} hargs h hv => ?_⟩
  · simp only [Context.twoItems, Option.ite_none_right_eq_some, Option.some.injEq] at h
    obtain ⟨-, rfl⟩ := h
    exact List.pairwise_singleton _ _
  · simp only [Context.twoItems] at h
    split at h
    · next w =>
      obtain ⟨-, h⟩ := Option.ite_none_right_eq_some.mp h
      cases h
      cases hv
      exact hargs _ (.head _)
    · cases h

/-- The identifiers beside the first item, `same($first)/../item/@id`. -/
def Expr.identifiers : Expr :=
  .path (.value (.call "same" [.variable "first"]))
    [.mk .parent .node [], .mk .child (.name "item") [], .mk .attribute (.name "id") []]

/-- All items, `//item`. -/
def Expr.items : Expr := .path .root [.descend, .mk .child (.name "item") []]

theorem node_sets_in_document_order_twoItems :
    Context.twoItems.Ordered ∧
    InOrder [[.child 0, .child 0], [.child 0, .child 0, .attribute 0], [.child 0, .child 1],
      [.child 0, .child 1, .attribute 0]] ∧
    Before [.child 0, .child 0, .attribute 0] [.child 0, .child 0, .child 0] ∧
    ∃ set, Expr.Selects .twoItems (.union .identifiers .items) set ∧
      (Expr.eval .twoItems (.call "count" [.union .identifiers .items])).outcome =
        .ok (.number (Float.ofNat set.toFinset.card)) := by
  obtain ⟨horder, hwalk, -, hunion, -, -, -, hcount⟩ :=
    node_sets_in_document_order .twoItems Context.ordered_twoItems
  have hidentifiers : Expr.Selects .twoItems .identifiers
      [[.child 0, .child 0, .attribute 0], [.child 0, .child 1, .attribute 0]] := rfl
  have hitems : Expr.Selects .twoItems .items [[.child 0, .child 0], [.child 0, .child 1]] := rfl
  have hboth : Expr.Selects .twoItems (.union .identifiers .items)
      [[.child 0, .child 0], [.child 0, .child 0, .attribute 0], [.child 0, .child 1],
        [.child 0, .child 1, .attribute 0]] := rfl
  obtain ⟨set, hset, -⟩ :=
    hunion (.single Xml.Document.rootElement) .identifiers .items _ _ hidentifiers hitems
  exact ⟨Context.ordered_twoItems,
    (horder (.single Xml.Document.rootElement) _ _ hboth).1,
    (hwalk _ _ (by decide) (by decide)).mpr (by decide), set, hset,
    hcount (.single Xml.Document.rootElement) _ set hset⟩

end PageGrid
