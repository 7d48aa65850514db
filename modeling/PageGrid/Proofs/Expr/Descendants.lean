import PageGrid.Proofs.Expr.Composition
import PageGrid.Proofs.Expr.RoundTrip
import PageGrid.Proofs.Xml.Descendants

/-!
# The double slash

A double slash abbreviates a step to the node itself and everything below it, and a test behind it is one
on the children of all these nodes. Together the two steps select what is below a node: every descendant is
a child of the node or of another descendant. Where the nodes of a path are nested in each other, a
descendant is found more than once, and where they are texts or attributes, nothing is found below them;
neither is seen in the result, which is in document order without repetition.

Neither of the steps can fail, so the double slash fails only with the path before it.

## Main definitions

* `PathStep.doubleSlash` — the steps that a double slash and a test stand for;
* `NodeTest.Matches` — an element or a text that a test keeps.

## Main results

* `PathStep.evalAll_doubleSlash` — the steps never fail;
* `PathStep.mem_evalAll_doubleSlash` — and find what is below the nodes they start from;
* `double_slash` — the double slash at the beginning of an expression and behind a path.
-/

namespace PageGrid

open Xml (Address Document InOrder)

/-- The steps that a double slash and a test stand for. -/
def PathStep.doubleSlash (t : NodeTest) : List PathStep := [.descend, .mk .child t []]

/-- An element or a text of the document that the test keeps. -/
def NodeTest.Matches (t : NodeTest) (d : Document) (a : Address) : Prop :=
  ∃ m, d.place? a = some (.node m) ∧ t.accepts .child (.node m) = true

variable {c : Context} {t : NodeTest} {a n : Address} {nodes set : List Address}

/-! ### Steps without predicates -/

/-- A search that cannot fail finds from all nodes what it finds from each of them. -/
theorem fromEach_pure (search : Address → List Address) (nodes : List Address) :
    fromEach (fun n => pure (search n)) nodes = pure (nodes.flatMap search) := by
  induction nodes with
  | nil => rfl
  | cons n nodes ih =>
    rw [fromEach, ih]
    rfl

namespace PathStep

theorem eval_bare (c : Context) (axis : PathAxis) (t : NodeTest) (nodes : List Address) :
    eval c (.mk axis t []) nodes =
      pure (NodeSet.ofList (nodes.flatMap (stepNodes c.document axis t))) := by
  simp only [eval, Expr.keepAll, fromEach_pure]
  rfl

/-- Both steps are without predicates, so they find what is on their axes. -/
theorem evalAll_doubleSlash (c : Context) (t : NodeTest) (nodes : List Address) :
    evalAll c (doubleSlash t) nodes =
      pure (NodeSet.ofList ((NodeSet.ofList
        (nodes.flatMap (stepNodes c.document .descendantOrSelf .node))).flatMap
          (stepNodes c.document .child t))) := by
  simp only [doubleSlash, descend, evalAll, eval_bare]
  rfl

/-! ### What is below -/

theorem mem_stepNodes_descend {d : Document} :
    a ∈ stepNodes d .descendantOrSelf .node n ↔ a ∈ d.descendants n ∧ (d.place? a).isSome = true := by
  rw [stepNodes, List.mem_filter, axisNodes]
  cases d.place? a <;> simp [NodeTest.accepts]

/-- A child is an element or a text, and the test looks at that. -/
theorem mem_stepNodes_child {d : Document} :
    a ∈ stepNodes d .child t n ↔ a ∈ d.children n ∧ t.Matches d a := by
  rw [stepNodes, List.mem_filter, axisNodes]
  refine and_congr_right fun ha => ?_
  obtain ⟨_, -, m, hm⟩ := Xml.mem_children.mp ha
  simp [NodeTest.Matches, hm]

/-- **What the steps find** is below one of the nodes that they start from. -/
theorem mem_evalAll_doubleSlash (h : (evalAll c (doubleSlash t) nodes).outcome = .ok set) :
    a ∈ set ↔ (∃ n ∈ nodes, n <+: a ∧ n ≠ a) ∧ t.Matches c.document a := by
  rw [evalAll_doubleSlash] at h
  obtain rfl := Except.ok.inj h
  simp only [NodeSet.mem_ofList, List.mem_flatMap, mem_stepNodes_descend, mem_stepNodes_child]
  constructor
  · rintro ⟨b, ⟨n, hn, hb, -⟩, ha, hmatches⟩
    exact ⟨⟨n, hn, (Xml.exists_mem_children_iff.mp ⟨b, hb, ha⟩).1⟩, hmatches⟩
  · rintro ⟨⟨n, hn, hbelow⟩, hmatches⟩
    obtain ⟨m, hm, -⟩ := id hmatches
    obtain ⟨b, hb, ha⟩ := Xml.exists_mem_children_iff.mpr ⟨hbelow, m, hm⟩
    exact ⟨b, ⟨n, hn, hb, Xml.isSome_place?_of_mem_descendants hb⟩, ha, hmatches⟩

end PathStep

/-! ### Texts -/

open PathStep (doubleSlash)

namespace Expr

variable {start : PathStart} {ps : List PathStep} {text : List Char}

theorem walk_doubleSlash (ht : t.Readable) : Walk (doubleSlash t) := .descend (.child ht) .nil

theorem prints_doubleSlash (t : NodeTest) :
    List.Forall₂ (PathStep.Prints Expr.Prints) (doubleSlash t) [[], t.written] := by
  have htest : PathStep.Prints Expr.Prints (.mk .child t []) (t.written ++ []) := .written .child .nil
  rw [List.append_nil] at htest
  exact .cons .descend (.cons htest .nil)

/-- A path that has a text has one with a double slash and a test behind it. -/
theorem Readable.append_doubleSlash (h : (Expr.path start ps).Readable) (ht : t.Readable) :
    (Expr.path start (ps ++ doubleSlash t)).Readable := by
  have hpredicates (h : ∀ s ∈ ps, ∀ p ∈ s.predicates, p.Readable) :
      ∀ s ∈ ps ++ doubleSlash t, ∀ p ∈ s.predicates, p.Readable := by
    intro s hs
    obtain hs | hs := List.mem_append.mp hs
    · exact h s hs
    · have hnone : s.predicates = [] := by
        obtain rfl | rfl : s = .descend ∨ s = .mk .child t [] := by simpa [doubleSlash] using hs
        all_goals rfl
      simp [hnone]
  cases h with
  | context hs hw hp => exact .context hs (hw.append (walk_doubleSlash ht)) (hpredicates hp)
  | root hw hp => exact .root (hw.append (walk_doubleSlash ht)) (hpredicates hp)
  | value he hpath hne hw hp =>
    exact .value he hpath (by simp [doubleSlash]) (hw.append (walk_doubleSlash ht)) (hpredicates hp)

theorem Prints.append_doubleSlash (h : (Expr.path start ps).Prints text) (hne : ps ≠ []) (t : NodeTest) :
    (Expr.path start (ps ++ doubleSlash t)).Prints (text ++ '/' :: '/' :: t.written) := by
  cases h with
  | @path _ _ front texts hfront hsteps =>
    have hprints := Prints.path hfront (List.rel_append hsteps (prints_doubleSlash t))
    obtain ⟨first, others, rfl⟩ : ∃ first others, texts = first :: others := by
      cases hsteps with
      | nil => exact absurd rfl hne
      | cons => exact ⟨_, _, rfl⟩
    have htext : ['/'].intercalate (first :: others ++ [[], t.written]) =
        ['/'].intercalate (first :: others) ++ '/' :: '/' :: t.written := by
      rw [List.cons_append, intercalate_cons, intercalate_cons]
      simp
    rwa [htext, ← List.append_assoc] at hprints

/-- **A double slash behind a path** is read as its steps behind those of the path. -/
theorem parse_append_doubleSlash (hp : (Expr.path start ps).Readable) (hne : ps ≠ [])
    (h : (Expr.path start ps).Prints text) (ht : t.Readable) :
    parse (String.ofList (text ++ '/' :: '/' :: t.written)) = .ok (.path start (ps ++ doubleSlash t)) :=
  parse_of_prints (hp.append_doubleSlash ht) (h.append_doubleSlash hne t)

/-- **A double slash in front** is read as its steps from the root. -/
theorem parse_doubleSlash (ht : t.Readable) :
    parse (String.ofList ('/' :: '/' :: t.written)) = .ok (.path .root (doubleSlash t)) := by
  have hroot : (Expr.path .root []).Readable := .root .nil (by simp)
  have hprints := Prints.path .root (prints_doubleSlash t)
  rw [intercalate_cons] at hprints
  simp only [List.map_cons, List.map_nil, List.flatten_cons, List.flatten_nil, List.append_nil,
    List.nil_append, List.singleton_append] at hprints
  exact parse_of_prints (hroot.append_doubleSlash ht) hprints

end Expr

/-! ### Selecting descendants -/

/-- **Every descendant once.** A double slash and a test select the elements and texts of the document
that the test keeps, and behind a path those of them that are below the nodes of the path, in document
order and each once. They fail where the path fails. -/
theorem double_slash (c : Context) (t : NodeTest) :
    (∃ set, Expr.Selects c (.path .root (doubleSlash t)) set ∧ InOrder set ∧ set.Nodup ∧
      ∀ a, a ∈ set ↔ a ≠ [] ∧ t.Matches c.document a) ∧
    (∀ start ps,
      (∀ nodes, Expr.Selects c (.path start ps) nodes →
        ∃ set, Expr.Selects c (.path start (ps ++ doubleSlash t)) set ∧ InOrder set ∧ set.Nodup ∧
          ∀ a, a ∈ set ↔ (∃ n ∈ nodes, n <+: a ∧ n ≠ a) ∧ t.Matches c.document a) ∧
      ∀ set, Expr.Selects c (.path start (ps ++ doubleSlash t)) set →
        ∃ nodes, Expr.Selects c (.path start ps) nodes) ∧
    (t.Readable →
      Expr.parse (String.ofList ('/' :: '/' :: t.written)) = .ok (.path .root (doubleSlash t)) ∧
      ∀ start ps text, ps ≠ [] → (Expr.path start ps).Readable → (Expr.path start ps).Prints text →
        Expr.parse (String.ofList (text ++ '/' :: '/' :: t.written)) =
          .ok (.path start (ps ++ doubleSlash t))) := by
  have hpath (start : PathStart) (ps : List PathStep) (nodes : List Address)
      (hnodes : Expr.Selects c (.path start ps) nodes) :
      ∃ set, Expr.Selects c (.path start (ps ++ doubleSlash t)) set ∧ InOrder set ∧ set.Nodup ∧
        ∀ a, a ∈ set ↔ (∃ n ∈ nodes, n <+: a ∧ n ≠ a) ∧ t.Matches c.document a := by
    have hsteps : ∃ set, (PathStep.evalAll c (doubleSlash t) nodes).outcome = .ok set :=
      ⟨_, congrArg Noted.outcome (PathStep.evalAll_doubleSlash c t nodes)⟩
    obtain ⟨set, hset⟩ := hsteps
    have hordered := PathStep.inOrder_of_evalAll (List.cons_ne_nil _ _) hset
    exact ⟨set, Expr.selects_path_append.mpr ⟨nodes, hnodes, hset⟩, hordered, hordered.nodup,
      fun a => PathStep.mem_evalAll_doubleSlash hset⟩
  refine ⟨?_, fun start ps => ⟨hpath start ps, fun set hset => ?_⟩, fun ht => ⟨Expr.parse_doubleSlash ht,
    fun start ps text hne hp hprints => Expr.parse_append_doubleSlash hp hne hprints ht⟩⟩
  · obtain ⟨set, hset, hordered, hnodup, hmem⟩ := hpath .root [] [[]] rfl
    refine ⟨set, hset, hordered, hnodup, fun a => (hmem a).trans (and_congr_left fun _ => ?_)⟩
    simp [eq_comm]
  · obtain ⟨nodes, hnodes, -⟩ := Expr.selects_path_append.mp hset
    exact ⟨nodes, hnodes⟩

/-- Everything in the document and the identifiers of its elements, `//node() | //node()/@id`. -/
def PathStart.everything : PathStart :=
  .value (.binary .union (.path .root (doubleSlash .node))
    (.path .root (doubleSlash .node ++ [.mk .attribute (.name "id") []])))

/-- Of two items, only the first one contains a text. It is below the root element as well as below the
item, it is found below neither an identifier nor itself, and it is selected once. -/
theorem double_slash_twoItems :
    Expr.Selects .twoItems (.path .everything []) [[.child 0], [.child 0, .child 0],
      [.child 0, .child 0, .attribute 0], [.child 0, .child 0, .child 0], [.child 0, .child 1],
      [.child 0, .child 1, .attribute 0]] ∧
    (∃ set, Expr.Selects .twoItems (.path .everything (doubleSlash .text)) set ∧ set.Nodup ∧
      [.child 0, .child 0, .child 0] ∈ set ∧ [.child 0, .child 0] ∉ set) ∧
    NodeTest.text.Readable ∧ Expr.parse "//text()" = .ok (.path .root (doubleSlash .text)) := by
  obtain ⟨-, hpath, hread⟩ := double_slash .twoItems .text
  have hnodes : Expr.Selects .twoItems (.path .everything []) [[.child 0], [.child 0, .child 0],
      [.child 0, .child 0, .attribute 0], [.child 0, .child 0, .child 0], [.child 0, .child 1],
      [.child 0, .child 1, .attribute 0]] := rfl
  obtain ⟨set, hset, -, hnodup, hmem⟩ := (hpath .everything []).1 _ hnodes
  refine ⟨hnodes, ⟨set, hset, hnodup, (hmem _).mpr ?_, fun h => ?_⟩, trivial, (hread trivial).1⟩
  · exact ⟨⟨_, .head _, by decide, by decide⟩, .text "one", rfl, rfl⟩
  · obtain ⟨-, m, hm, haccepts⟩ := (hmem _).mp h
    cases hm
    cases haccepts

end PageGrid
