import PageGrid.Layout.Functions
import PageGrid.Proofs.Noted
import PageGrid.Template

/-!
# Remarks of expressions

The only remarks that evaluation leaves are those of the functions of the caller. The functions about
the layout warn of markers that are not resolved yet. An expression that cannot be evaluated is an
error for whoever asked for its value, and evaluation itself logs nothing about it.

## Main definitions

* `Context.Mild` — none of the remarks that functions of the caller leave is about a failure.

## Main results

* `Expr.mild_eval`, `Template.mild_eval` — nor is any remark that evaluation leaves;
* `Layout.mild_extension` — the functions about the layout are of this kind.
-/

namespace PageGrid

open Xml (Address)
open Noted (Mild mild_pure mild_fail mild_ofExcept)

/-- None of the remarks that the functions of the caller leave is about a failure. -/
def Context.Mild (c : Context) : Prop :=
  ∀ {focus name args result}, c.extension focus name args = some result → Noted.Mild result

variable {c : Context}

theorem Context.Mild.withFocus (hc : c.Mild) (focus : Focus) : (c.withFocus focus).Mild := hc

/-! ### Parts of the evaluation -/

theorem mild_callFunction (hc : c.Mild) (name : String) (args : List Value) :
    Mild (callFunction c name args) := by
  rw [callFunction]
  split
  · exact (mild_ofExcept _).mapError _
  · split
    · next hresult => exact (hc hresult).mapError _
    · exact mild_fail _

theorem mild_keepWhere {test : Focus → Noted ExprError Value} (h : ∀ focus, Mild (test focus))
    (size position : Nat) (nodes : List Address) : Mild (keepWhere test size position nodes) := by
  induction nodes generalizing position with
  | nil => exact mild_pure []
  | cons a rest ih => exact (h _).bind fun _ => (ih _).bind fun _ => mild_pure _

theorem mild_fromEach {search : Address → Noted ExprError (List Address)} (h : ∀ a, Mild (search a))
    (nodes : List Address) : Mild (fromEach search nodes) := by
  induction nodes with
  | nil => exact mild_pure []
  | cons a rest ih => exact (h a).bind fun _ => ih.bind fun _ => mild_pure _

/-! ### Expressions and templates -/

mutual

/-- **Evaluation.** By induction over the expression; predicates are about foci of their own. -/
theorem Expr.mild_eval {c : Context} (hc : c.Mild) : (e : Expr) → Mild (Expr.eval c e)
  | .literal _ | .number _ => mild_pure _
  | .variable name => by
    rw [Expr.eval]
    split
    · exact mild_pure _
    · exact mild_fail _
  | .call name args => (Expr.mild_evalAll hc args).bind fun vs => mild_callFunction hc name vs
  | .binary op left right => by
    rw [Expr.eval]
    refine (Expr.mild_eval hc left).bind fun l => ?_
    split
    · exact mild_pure _
    · exact (Expr.mild_eval hc right).bind fun _ => mild_ofExcept _
  | .negate e => (Expr.mild_eval hc e).bind fun _ => mild_pure _
  | .path start steps => (PathStart.mild_eval hc start).bind fun nodes =>
      (PathStep.mild_evalAll hc steps nodes).bind fun _ => mild_pure _

theorem Expr.mild_evalAll {c : Context} (hc : c.Mild) : (es : List Expr) → Mild (Expr.evalAll c es)
  | [] => mild_pure []
  | e :: es => (Expr.mild_eval hc e).bind fun _ => (Expr.mild_evalAll hc es).bind fun _ => mild_pure _

theorem PathStart.mild_eval {c : Context} (hc : c.Mild) :
    (start : PathStart) → Mild (PathStart.eval c start)
  | .context | .root => mild_pure _
  | .value e => by
    rw [PathStart.eval]
    refine (Expr.mild_eval hc e).bind fun v => ?_
    split <;> exact mild_pure _

theorem PathStep.mild_evalAll {c : Context} (hc : c.Mild) :
    (steps : List PathStep) → (nodes : List Address) → Mild (PathStep.evalAll c steps nodes)
  | [], nodes => mild_pure nodes
  | s :: ss, nodes => (PathStep.mild_eval hc s nodes).bind fun found =>
      PathStep.mild_evalAll hc ss found

theorem PathStep.mild_eval {c : Context} (hc : c.Mild) :
    (step : PathStep) → (nodes : List Address) → Mild (PathStep.eval c step nodes)
  | .mk _ _ predicates, nodes => by
    rw [PathStep.eval]
    exact (mild_fromEach (fun _ => Expr.mild_keepAll hc predicates _) nodes).bind fun _ => mild_pure _

theorem Expr.mild_keepAll {c : Context} (hc : c.Mild) :
    (predicates : List Expr) → (nodes : List Address) → Mild (Expr.keepAll c predicates nodes)
  | [], nodes => mild_pure nodes
  | p :: ps, nodes => by
    rw [Expr.keepAll]
    have hp (focus : Focus) : Mild (Expr.eval (c.withFocus focus) p) :=
      Expr.mild_eval (hc.withFocus focus) p
    exact (mild_keepWhere hp _ _ nodes).bind fun kept => Expr.mild_keepAll hc ps kept

end

theorem Template.mild_evalParts (hc : c.Mild) (parts : List TemplatePart) :
    Mild (Template.evalParts c parts) := by
  induction parts with
  | nil => exact mild_pure ""
  | cons part rest ih =>
    cases part with
    | literal s => exact ih.bind fun _ => mild_pure _
    | expression e => exact (Expr.mild_eval hc e).bind fun _ => ih.bind fun _ => mild_pure _

theorem Template.mild_eval (hc : c.Mild) : (template : Template) → Mild (template.eval c)
  | .static text => mild_pure text
  | .dynamic parts => Template.mild_evalParts hc parts

/-! ### Functions about the layout -/

namespace Layout

theorem mild_pageOfMarker (l : Layout) (name : String) : Mild (l.pageOfMarker name) := by
  rw [pageOfMarker]
  split
  · exact mild_pure _
  · split
    · exact mild_fail _
    · exact Mild.bind (remarks_warning _) fun _ => mild_pure _

theorem mild_groupCells (l : Layout) (name : String) (part : Group Float → Option Nat) :
    Mild (l.groupCells name part) := by
  rw [groupCells]
  split
  · exact mild_fail _
  · split
    · exact mild_pure _
    · exact mild_fail _

theorem mild_cursorValue (l : Layout) (area : String) (part : Nat × Nat → Nat) :
    Mild (l.cursorValue area part) := by
  rw [cursorValue]
  split
  · exact mild_pure _
  · split
    · exact mild_pure _
    · exact mild_fail _

theorem mild_parity (d : Xml.Document) (v : Value) (remainder : Int) :
    Mild (parity d v remainder) := by
  rw [parity]
  split
  · exact mild_pure _
  · exact mild_fail _

theorem mild_apply (l : Layout) (d : Xml.Document) (f : LayoutFunction) (args : List Value) :
    Mild (l.apply d f args) := by
  unfold apply
  dsimp only
  split
  · exact mild_pure _
  · exact mild_cursorValue l _ _
  · exact mild_cursorValue l _ _
  · exact mild_pageOfMarker l _
  · exact mild_pure _
  · exact mild_groupCells l _ _
  · exact mild_groupCells l _ _
  · exact mild_parity d _ _
  · exact mild_parity d _ _
  · exact mild_fail _

/-- The functions about the layout do not log failures. -/
theorem mild_extension {l : Layout} {d : Xml.Document} {name : String} {args : List Value}
    {result : Noted CallFault Value} (h : l.extension d name args = some result) :
    Mild result := by
  obtain ⟨f, -, rfl⟩ := Option.map_eq_some_iff.mp h
  rw [call]
  split
  · exact mild_apply l d f args
  · exact mild_fail _

end Layout

end PageGrid
