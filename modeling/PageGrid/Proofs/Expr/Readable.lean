import PageGrid.Proofs.Expr.Printed

/-!
# Reading yields readable trees

Whatever text is read, the tree that comes out is readable: names are names, numbers have digits,
a step between two slashes has a step behind it. The steps behind a path go on with the path, so no
path becomes the start of another one.

Each rule of the grammar keeps this, given that the reader for nested expressions does; the whole
grammar keeps it by induction on the depth of nesting.

## Main results

* `Expr.Readable.extend` — steps may follow any readable tree;
* `Expr.readable_of_parse` — reading a text yields a readable tree.
-/

namespace PageGrid

open Text Text.Scan

/-! ### Steps -/

namespace ReadableSteps

variable {s : PathStep} {ss ts : List PathStep}

theorem nil : ReadableSteps [] := ⟨.nil, by simp⟩

theorem append (hs : ReadableSteps ss) (ht : ReadableSteps ts) : ReadableSteps (ss ++ ts) where
  walk := hs.walk.append ht.walk
  predicates t h := (List.mem_append.mp h).elim (hs.predicates t) (ht.predicates t)

theorem flatten {lists : List (List PathStep)} (h : ∀ l ∈ lists, ReadableSteps l) :
    ReadableSteps lists.flatten := by
  induction lists with
  | nil => exact nil
  | cons l lists ih => exact (h l (by simp)).append (ih fun l hl => h l (by simp [hl]))

theorem single (hs : s.Explicit) (hp : ∀ p ∈ s.predicates, p.Readable) : ReadableSteps [s] where
  walk := .step hs .nil
  predicates := by simpa using hp

theorem descend (hs : s.Explicit) (hp : ∀ p ∈ s.predicates, p.Readable) :
    ReadableSteps [.descend, s] where
  walk := .descend hs .nil
  predicates := by simpa [PathStep.descend, PathStep.predicates] using hp

end ReadableSteps

/-- **Steps may follow any readable tree.** -/
theorem Expr.Readable.extend {e : Expr} {steps : List PathStep} (h : e.Readable)
    (hsteps : ReadableSteps steps) : (Expr.Grammar.extend e steps).Readable := by
  cases steps with
  | nil => exact h
  | cons t steps =>
    cases e with
    | path start before =>
      have all : ReadableSteps (before ++ t :: steps) := h.readableSteps.append hsteps
      cases h with
      | context hs hw _ => exact .context hs (hw.append hsteps.walk) all.predicates
      | root _ _ => exact .root all.walk all.predicates
      | value he hne _ _ _ => exact .value he hne (by simp) all.walk all.predicates
    | _ => exact .value h rfl (by simp) hsteps.walk hsteps.predicates

end PageGrid

namespace PageGrid.Expr.Grammar

open Text Text.Scan

/-! ### Rules of the grammar -/

theorem yields_nodeTest : Yields nodeTest NodeTest.Readable := by
  refine Yields.orElse ?_ (Yields.orElse ?_ ?_)
  · exact (yields_pure trivial).seqRight
  · refine Yields.bind (P := NodeTest.Readable) ?_ fun test h => ?_
    · exact (yields_pure trivial).seqRight.orElse (yields_pure trivial).seqRight
    · exact (yields_true _).bind fun _ _ => (yields_true _).bind fun _ _ => yields_pure h
  · exact Yields.map (Q := NodeTest.Readable) yields_name

/-- Axis and test of a step agree, whatever predicates follow. -/
theorem yields_stepHead :
    Yields stepHead fun x => ∀ predicates, (PathStep.mk x.1 x.2 predicates).Explicit := by
  refine Yields.orElse ?_ (Yields.orElse ?_ (Yields.orElse ?_ ?_))
  · exact (yields_pure fun _ => .parent).seqRight
  · exact (yields_pure fun _ => .self).seqRight
  · exact (yields_true _).bind fun _ _ => yields_nodeTest.bind fun _ h =>
      yields_pure fun _ => .attribute h
  · exact yields_nodeTest.bind fun _ h => yields_pure fun _ => .child h

theorem yields_chain {op : Scan BinaryOp} {operand : Scan Expr} (h : Yields operand Readable) :
    Yields (chain op operand) Readable := by
  refine h.bind fun first hfirst => ?_
  refine (Yields.many (P := fun x => x.2.Readable) ?_).bind fun rest hrest => yields_pure ?_
  · exact (yields_true _).bind fun _ _ => h.bind fun _ he => yields_pure he
  · induction rest generalizing first with
    | nil => exact hfirst
    | cons x rest ih =>
      simp only [List.mem_cons, forall_eq_or_imp] at hrest
      exact ih _ (.binary hfirst hrest.1) hrest.2

section Nested

variable {nested : Scan Expr} (h : Yields nested Readable)

include h

theorem yields_predicate : Yields (predicate nested) Readable :=
  (yields_true _).bind fun _ _ => h.bind fun _ he => (yields_true _).bind fun _ _ => yields_pure he

theorem yields_step :
    Yields (step nested) fun s => s.Explicit ∧ ∀ p ∈ s.predicates, p.Readable :=
  yields_stepHead.bind fun _ hhead => (yields_predicate h).many.bind fun _ hp =>
    yields_pure ⟨hhead _, hp⟩

theorem yields_nextSteps : Yields (nextSteps nested) ReadableSteps := by
  refine Yields.orElse ?_ ?_
  · exact (yields_true _).bind fun _ _ => (yields_step h).bind fun _ hs =>
      yields_pure (.descend hs.1 hs.2)
  · exact (yields_true _).bind fun _ _ => (yields_step h).bind fun _ hs =>
      yields_pure (.single hs.1 hs.2)

theorem yields_pathHead : Yields (pathHead nested) fun x => (Expr.path x.1 x.2).Readable := by
  have root {steps : List PathStep} (hs : ReadableSteps steps) : (Expr.path .root steps).Readable :=
    .root hs.walk hs.predicates
  intro s x t e
  unfold pathHead at e
  split at e
  · refine Yields.map (Q := fun x => (Expr.path x.1 x.2).Readable) ?_ _ x t e
    exact (yields_step h).mono fun s hs => root (.descend hs.1 hs.2)
  · refine Yields.map (Q := fun x => (Expr.path x.1 x.2).Readable) ?_ _ x t e
    refine (yields_step h).maybe.mono fun o ho => root ?_
    cases o with
    | none => exact .nil
    | some s => exact .single (ho s rfl).1 (ho s rfl).2
  · refine Yields.map (Q := fun x => (Expr.path x.1 x.2).Readable) ?_ _ x t e
    exact (yields_step h).mono fun s hs => .context hs.1 .nil (by simpa using hs.2)

theorem yields_call : Yields (call nested) Readable := by
  refine yields_name.bind fun f hf => ?_
  by_cases hne : f = "text" ∨ f = "node"
  · simp only [hne, if_true]
    exact Yields.bind (P := fun _ => False) yields_failure fun _ h => h.elim
  · simp only [hne, if_false]
    refine (yields_true _).bind fun _ _ => (yields_true _).bind fun _ _ => ?_
    refine h.sepBy.bind fun args hargs => (yields_true _).bind fun _ _ => ?_
    exact yields_pure (.call hf hne hargs)

theorem yields_parenthesized : Yields (parenthesized nested) Readable :=
  (yields_true _).bind fun _ _ => h.bind fun _ he => (yields_true _).bind fun _ _ => yields_pure he

theorem yields_primary : Yields (primary nested) Readable := by
  refine Yields.orElse ?_ (Yields.orElse ?_ (Yields.orElse ?_ (Yields.orElse ?_ ?_)))
  · exact (yields_name.seqRight.mono fun _ => Readable.variable).map
  · exact (yields_number.mono fun _ ⟨_, hds, hx⟩ => Readable.number hds hx).map
  · exact (yields_literal.mono fun _ => Readable.literal).map
  · exact yields_call h
  · exact yields_parenthesized h

theorem yields_path : Yields (path nested) Readable := by
  refine Yields.bind (P := Readable) ?_ fun start hstart => ?_
  · exact (yields_primary h).orElse ((yields_pathHead h).bind fun _ hx => yields_pure hx)
  · exact (yields_nextSteps h).many.bind fun _ hsteps =>
      yields_pure (hstart.extend (.flatten hsteps))

theorem yields_unary : Yields (unary nested) Readable := by
  refine (yields_true _).bind fun minus _ => (yields_chain (yields_path h)).bind fun e he => ?_
  refine yields_pure ?_
  split
  · exact .negate he
  · exact he

theorem yields_loosest : Yields (loosest nested) Readable := by
  unfold loosest
  induction levels with
  | nil => exact yields_unary h
  | cons op ops ih => exact yields_chain ih

end Nested

theorem yields_expression (fuel : Nat) : Yields (expression fuel) Readable := by
  induction fuel with
  | zero => exact yields_failure
  | succ fuel ih => exact yields_loosest ih

end PageGrid.Expr.Grammar

namespace PageGrid.Expr

open Text Text.Scan

variable {input : String} {e : Expr}

/-- A text is read exactly if the grammar reads all of it without the blanks around it. -/
theorem parse_eq_ok_iff {text : List Char} (ht : trimChars input.toList = text) :
    parse input = .ok e ↔
      Scan.padded (Grammar.expression (text.length + 1)) text = some (e, []) := by
  subst ht
  unfold parse
  extract_lets text
  change _ ↔ Scan.padded (Grammar.expression (text.length + 1)) text = some (e, [])
  -- from here on it does not matter what is read
  generalize Scan.padded (Grammar.expression (text.length + 1)) = whole
  simp only [Scan.all]
  rcases whole text with _ | ⟨e', _ | ⟨c, rest⟩⟩ <;> simp

/-- **Reading a text yields a readable tree.** -/
theorem readable_of_parse (h : parse input = .ok e) : e.Readable :=
  (Grammar.yields_expression _).padded _ _ _ ((parse_eq_ok_iff rfl).mp h)

end PageGrid.Expr
