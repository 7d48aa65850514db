import Mathlib.Data.List.Sort
import PageGrid.NodeSet

/-!
# Document order

Addresses are compared without a document. What makes their order that of a document is a walk
through the document which meets every node once: first the node itself, then its attributes, then
what is below it, child after child. `Document.traversal` is this walk, and of two nodes of a
document the one that comes before the other is the one that the walk meets first.

A node set is a list in this order, strictly, so it is known from its members. That is all that the
laws of node sets need: two lists that are in order and have the same members are the same list.

## Main definitions

* `Address.Before` — document order;
* `Document.traversal` — all nodes of a document, as a walk meets them;
* `InOrder` — lists of addresses that are strictly in document order.

## Main results

* `mem_traversal` — the walk meets every node of the document and nothing else;
* `before_iff_idxOf_lt` — document order is the order of the walk;
* `InOrder.eq_of_mem_iff` — a node set is known from its members;
* `NodeSet.mem_ofList`, `NodeSet.inOrder_ofList` — the node set of a list.
-/

namespace PageGrid.Xml

/-! ### The order of addresses -/

namespace Step

theorem before_irrefl (s : Step) : s.before s = false := by
  cases s <;> simp [before]

theorem before_trans {s t u : Step} (h : s.before t = true) (h' : t.before u = true) :
    s.before u = true := by
  cases s <;> cases t <;> cases u <;> simp_all [before] <;> omega

theorem before_trichotomy (s t : Step) : s.before t = true ∨ s = t ∨ t.before s = true := by
  cases s <;> cases t <;> simp [before] <;> omega

end Step

namespace Address

/-- The first address comes before the second one in document order. -/
def Before (a b : Address) : Prop := a.before b = true

theorem nil_before_cons (s : Step) (a : Address) : Before [] (s :: a) := rfl

theorem not_before_nil (a : Address) : ¬ Before a [] := by
  cases a <;> simp [Before, before]

theorem cons_before_cons {s t : Step} {a b : Address} :
    Before (s :: a) (t :: b) ↔ s.before t = true ∨ s = t ∧ Before a b := by
  simp [Before, before]

theorem cons_before_cons_self (s : Step) {a b : Address} :
    Before (s :: a) (s :: b) ↔ Before a b := by
  simp [cons_before_cons, Step.before_irrefl]

theorem Before.irrefl (a : Address) : ¬ Before a a := by
  induction a with
  | nil => exact not_before_nil []
  | cons s a ih => rwa [cons_before_cons_self]

theorem Before.trans {a b c : Address} (h : Before a b) (h' : Before b c) : Before a c := by
  induction a generalizing b c with
  | nil =>
    cases c with
    | nil => exact absurd h' (not_before_nil b)
    | cons u c => exact nil_before_cons u c
  | cons s a ih =>
    cases b with
    | nil => exact absurd h (not_before_nil _)
    | cons t b =>
      cases c with
      | nil => exact absurd h' (not_before_nil _)
      | cons u c =>
        rw [cons_before_cons] at h h' ⊢
        obtain hst | ⟨rfl, hab⟩ := h
        · obtain htu | ⟨rfl, -⟩ := h'
          · exact .inl (Step.before_trans hst htu)
          · exact .inl hst
        · obtain htu | ⟨rfl, hbc⟩ := h'
          · exact .inl htu
          · exact .inr ⟨rfl, ih hab hbc⟩

theorem Before.asymm {a b : Address} (h : Before a b) : ¬ Before b a :=
  fun h' => Before.irrefl a (h.trans h')

theorem before_trichotomy (a b : Address) : Before a b ∨ a = b ∨ Before b a := by
  induction a generalizing b with
  | nil =>
    cases b with
    | nil => exact .inr (.inl rfl)
    | cons t b => exact .inl (nil_before_cons t b)
  | cons s a ih =>
    cases b with
    | nil => exact .inr (.inr (nil_before_cons s a))
    | cons t b =>
      simp only [cons_before_cons, List.cons.injEq]
      obtain h | rfl | h := s.before_trichotomy t
      · exact .inl (.inl h)
      · obtain h | rfl | h := ih b
        · exact .inl (.inr ⟨rfl, h⟩)
        · exact .inr (.inl ⟨rfl, rfl⟩)
        · exact .inr (.inr (.inr ⟨rfl, h⟩))
      · exact .inr (.inr (.inl h))

instance : Std.Irrefl Before := ⟨Before.irrefl⟩

instance : Std.Antisymm Before := ⟨fun _ _ h h' => absurd h' h.asymm⟩

/-- An element comes before its attributes, and those before its children. -/
theorem before_append (a : Address) (i j : Nat) :
    Before a (a ++ [.attribute i]) ∧ Before (a ++ [.attribute i]) (a ++ [.child j]) := by
  induction a with
  | nil => exact ⟨rfl, rfl⟩
  | cons s a ih => exact ⟨(cons_before_cons_self s).mpr ih.1, (cons_before_cons_self s).mpr ih.2⟩

end Address

open Address (Before)

/-! ### Lists in document order -/

/-- The addresses are strictly in document order, so none of them is there twice. -/
def InOrder (set : List Address) : Prop := set.Pairwise Before

theorem InOrder.nodup {set : List Address} (h : InOrder set) : set.Nodup := List.Pairwise.nodup h

/-- **Extensionality.** A list in document order is known from its members. -/
theorem InOrder.eq_of_mem_iff {as bs : List Address} (ha : InOrder as) (hb : InOrder bs)
    (h : ∀ a, a ∈ as ↔ a ∈ bs) : as = bs :=
  List.Pairwise.eq_of_mem_iff ha hb h

/-- In a list in document order, what comes before stands before. -/
theorem InOrder.before_iff_idxOf_lt {set : List Address} (h : InOrder set) {a b : Address}
    (ha : a ∈ set) (hb : b ∈ set) : Before a b ↔ set.idxOf a < set.idxOf b := by
  have hlt {a b : Address} (ha : a ∈ set) (hb : b ∈ set) (hab : set.idxOf a < set.idxOf b) :
      Before a b := by
    have hab := List.pairwise_iff_getElem.mp h _ _ (List.idxOf_lt_length_of_mem ha)
      (List.idxOf_lt_length_of_mem hb) hab
    rwa [List.getElem_idxOf, List.getElem_idxOf] at hab
  refine ⟨fun hab => ?_, hlt ha hb⟩
  obtain hlt' | heq | hgt := Nat.lt_trichotomy (set.idxOf a) (set.idxOf b)
  · exact hlt'
  · exact absurd (((List.idxOf_inj ha).mp heq) ▸ hab) (Before.irrefl _)
  · exact absurd (hlt hb ha hgt) hab.asymm

theorem inOrder_map_cons (s : Step) {set : List Address} (h : InOrder set) :
    InOrder (set.map (s :: ·)) :=
  List.pairwise_map.mpr (h.imp fun hab => (Address.cons_before_cons_self s).mpr hab)

/-! ### The walk through a document -/

mutual

/-- The addresses of a node and of all nodes below it, from the node on: the node itself, then its
attributes, then what is below it. -/
def Node.traversal : Node → List Address
  | .text _ => [[]]
  | .element tag children =>
    [] :: ((List.range tag.attributes.length).map fun i => [.attribute i]) ++
      Node.traversalFrom 0 children

/-- The same for the children of a node, from a child number on. -/
def Node.traversalFrom (index : Nat) : List Node → List Address
  | [] => []
  | n :: ns => (Node.traversal n).map (.child index :: ·) ++ Node.traversalFrom (index + 1) ns

end

/-- The addresses of all nodes of a document, as a walk through it meets them. -/
def Document.traversal (d : Document) : List Address :=
  [] :: d.root.toNode.traversal.map (.child 0 :: ·)

theorem mem_traversalFrom {index : Nat} {ns : List Node} {a : Address} :
    a ∈ Node.traversalFrom index ns ↔
      ∃ i n below, ns[i]? = some n ∧ below ∈ n.traversal ∧ a = .child (index + i) :: below := by
  induction ns generalizing index with
  | nil => simp [Node.traversalFrom]
  | cons n ns ih =>
    simp only [Node.traversalFrom, List.mem_append, List.mem_map, ih]
    constructor
    · rintro (⟨below, hbelow, rfl⟩ | ⟨i, m, below, hm, hbelow, rfl⟩)
      · exact ⟨0, n, below, rfl, hbelow, rfl⟩
      · exact ⟨i + 1, m, below, hm, hbelow, by rw [Nat.add_right_comm, Nat.add_assoc]⟩
    · rintro ⟨i, m, below, hm, hbelow, rfl⟩
      cases i with
      | zero =>
        obtain rfl : n = m := by simpa using hm
        exact .inl ⟨below, hbelow, rfl⟩
      | succ i => exact .inr ⟨i, m, below, hm, hbelow, by rw [Nat.add_right_comm, Nat.add_assoc]⟩

mutual

theorem inOrder_traversal_node : (n : Node) → InOrder n.traversal
  | .text _ => List.pairwise_singleton _ _
  | .element tag children => by
    have hattributes : InOrder ((List.range tag.attributes.length).map fun i => [.attribute i]) :=
      List.pairwise_map.mpr (List.pairwise_lt_range.imp fun hij => by
        simpa [Before, Address.before, Step.before] using hij)
    rw [Node.traversal, List.cons_append]
    refine List.pairwise_cons.mpr ⟨fun a ha => ?_, List.pairwise_append.mpr
      ⟨hattributes, inOrder_traversalFrom 0 children, fun a ha b hb => ?_⟩⟩
    · obtain h | h := List.mem_append.mp ha
      · obtain ⟨i, -, rfl⟩ := List.mem_map.mp h
        rfl
      · obtain ⟨i, n, below, -, -, rfl⟩ := mem_traversalFrom.mp h
        rfl
    · obtain ⟨i, -, rfl⟩ := List.mem_map.mp ha
      obtain ⟨j, n, below, -, -, rfl⟩ := mem_traversalFrom.mp hb
      rfl

theorem inOrder_traversalFrom (index : Nat) : (ns : List Node) →
    InOrder (Node.traversalFrom index ns)
  | [] => .nil
  | n :: ns => by
    refine List.pairwise_append.mpr ⟨inOrder_map_cons _ (inOrder_traversal_node n),
      inOrder_traversalFrom (index + 1) ns, fun a ha b hb => ?_⟩
    obtain ⟨_, -, rfl⟩ := List.mem_map.mp ha
    obtain ⟨i, m, below, -, -, rfl⟩ := mem_traversalFrom.mp hb
    refine Address.cons_before_cons.mpr (.inl ?_)
    simp only [Step.before, decide_eq_true_eq]
    omega

end

/-- A walk from a node meets what steps lead to from there. -/
theorem mem_traversal_node {n : Node} {a : Address} :
    a ∈ n.traversal ↔ (a.foldlM Place.step? (.node n)).isSome = true := by
  induction a generalizing n with
  | nil => cases n <;> simp [Node.traversal]
  | cons s a ih =>
    cases n with
    | text content => simp [Node.traversal, Place.step?]
    | element tag children =>
      obtain i | i := s
      · by_cases hi : i < tag.attributes.length
        · cases a <;> simp [Node.traversal, Place.step?, mem_traversalFrom, hi]
        · simp [Node.traversal, Place.step?, mem_traversalFrom, hi]
      · cases hc : children[i]? <;>
          simp [Node.traversal, Place.step?, mem_traversalFrom, hc, ih]

/-- The walk meets every node of the document and nothing else. -/
theorem mem_traversal {d : Document} {a : Address} :
    a ∈ d.traversal ↔ (d.place? a).isSome = true := by
  rw [Document.traversal, Document.place?]
  cases a with
  | nil => simp
  | cons s a =>
    obtain i | i := s
    · simp [Place.step?]
    · cases i <;> simp [Place.step?, mem_traversal_node]

theorem inOrder_traversal (d : Document) : InOrder d.traversal := by
  refine List.pairwise_cons.mpr ⟨fun a ha => ?_, inOrder_map_cons _ (inOrder_traversal_node _)⟩
  obtain ⟨_, -, rfl⟩ := List.mem_map.mp ha
  rfl

/-- **Document order.** Of two nodes of a document, the one before the other is the one that the
walk meets first. -/
theorem before_iff_idxOf_lt {d : Document} {a b : Address} (ha : (d.place? a).isSome = true)
    (hb : (d.place? b).isSome = true) :
    Before a b ↔ d.traversal.idxOf a < d.traversal.idxOf b :=
  (inOrder_traversal d).before_iff_idxOf_lt (mem_traversal.mpr ha) (mem_traversal.mpr hb)

end PageGrid.Xml

/-! ### Node sets -/

namespace PageGrid.NodeSet

open Xml (Address InOrder)
open Xml.Address (Before)

theorem mem_insert {a b : Address} {set : List Address} :
    b ∈ insert a set ↔ b = a ∨ b ∈ set := by
  induction set with
  | nil => simp [insert]
  | cons c cs ih =>
    rw [insert]
    split
    · simp
    · split
      · next h => simp [h]
      · simp [ih, or_left_comm]

theorem inOrder_insert {a : Address} {set : List Address} (h : InOrder set) :
    InOrder (insert a set) := by
  induction set with
  | nil => exact List.pairwise_singleton _ _
  | cons c cs ih =>
    obtain ⟨hc, hcs⟩ := List.pairwise_cons.mp h
    rw [insert]
    split
    · next hac =>
      refine List.pairwise_cons.mpr ⟨fun b hb => ?_, h⟩
      obtain rfl | hb := List.mem_cons.mp hb
      · exact hac
      · exact Address.Before.trans hac (hc b hb)
    · next hac =>
      split
      · exact h
      · next hne =>
        have hca : Before c a :=
          ((a.before_trichotomy c).resolve_left hac).resolve_left hne
        refine List.pairwise_cons.mpr ⟨fun b hb => ?_, ih hcs⟩
        obtain rfl | hb := mem_insert.mp hb
        · exact hca
        · exact hc b hb

theorem mem_ofList {a : Address} {as : List Address} : a ∈ ofList as ↔ a ∈ as := by
  induction as with
  | nil => rfl
  | cons b bs ih => rw [ofList, List.foldr_cons, mem_insert, ← ofList, ih, List.mem_cons]

theorem inOrder_ofList (as : List Address) : InOrder (ofList as) := by
  induction as with
  | nil => exact .nil
  | cons a as ih => exact inOrder_insert ih

theorem mem_union {a : Address} {as bs : List Address} : a ∈ union as bs ↔ a ∈ as ∨ a ∈ bs := by
  rw [union, mem_ofList, List.mem_append]

theorem inOrder_union (as bs : List Address) : InOrder (union as bs) := inOrder_ofList _

/-- Node sets are equal if they have the same members. -/
theorem ofList_congr {as bs : List Address} (h : ∀ a, a ∈ as ↔ a ∈ bs) : ofList as = ofList bs :=
  (inOrder_ofList as).eq_of_mem_iff (inOrder_ofList bs) fun a => by rw [mem_ofList, mem_ofList, h]

theorem union_comm (as bs : List Address) : union as bs = union bs as :=
  ofList_congr fun a => by simp [or_comm]

theorem union_assoc (as bs cs : List Address) :
    union (union as bs) cs = union as (union bs cs) :=
  ofList_congr fun a => by simp [mem_union, or_assoc]

theorem union_self {as : List Address} (h : InOrder as) : union as as = as :=
  (inOrder_union as as).eq_of_mem_iff h fun a => by simp [mem_union]

end PageGrid.NodeSet
