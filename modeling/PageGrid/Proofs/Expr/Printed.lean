import Mathlib.Data.List.Forall2
import PageGrid.Proofs.Expr.Token

/-!
# Printed expressions

`Expr.Prints e text` says that `text` is a fully parenthesised form of `e`: operands stand in
parentheses, whatever they are, so no operator depends on the levels of others. It is a relation
because two choices are free, the quote around a literal and the digits of a number.

A step between two slashes prints as nothing. It is the only step on its axis that a text can have,
and it needs a written step behind it; the start of a path and its first step are bound to each
other as well. `Expr.Readable` says this of a tree: it is what reading yields, and it is enough for
the tree to have a printed form.

## Main definitions

* `Expr.Prints` — the printed forms of an expression;
* `Walk` — a sequence of steps that slashes can join;
* `Expr.Readable`, `ReadableSteps` — the trees that have a text, and their steps;
* `Solid` — a text that trimming does not change.

## Main results

* `Expr.Readable.exists_prints` — every readable tree has a printed form;
* `Expr.Readable.solid` — which neither begins nor ends with a blank.
-/

namespace PageGrid

open Text
open Expr.Grammar (IsName IsNumeral)

/-! ### Printed forms -/

/-- The signs or the word of an operator. -/
def BinaryOp.written : BinaryOp → List Char
  | .or => "or".toList
  | .and => "and".toList
  | .equal => "=".toList
  | .notEqual => "!=".toList
  | .less => "<".toList
  | .lessOrEqual => "<=".toList
  | .greater => ">".toList
  | .greaterOrEqual => ">=".toList
  | .plus => "+".toList
  | .minus => "-".toList
  | .times => "*".toList
  | .divide => "div".toList
  | .modulo => "mod".toList
  | .union => "|".toList

/-- The text of a node test. -/
def NodeTest.written : NodeTest → List Char
  | .name n => n.toList
  | .any => "*".toList
  | .text => "text()".toList
  | .node => "node()".toList

/-- A text in parentheses. -/
def parens (text : List Char) : List Char := '(' :: (text ++ [')'])

/-- A text in brackets. -/
def brackets (text : List Char) : List Char := '[' :: (text ++ [']'])

/-- A step without its predicates. The node itself and its parent are abbreviated. -/
inductive PathStep.HeadPrints : PathAxis → NodeTest → List Char → Prop
  | self : HeadPrints .self .node ['.']
  | parent : HeadPrints .parent .node ['.', '.']
  | attribute {test : NodeTest} : HeadPrints .attribute test ('@' :: test.written)
  | child {test : NodeTest} : HeadPrints .child test test.written

/-- A step, given how predicates are printed. -/
inductive PathStep.Prints (prints : Expr → List Char → Prop) : PathStep → List Char → Prop
  /-- Between the two slashes stands nothing. -/
  | descend : Prints prints .descend []
  | written {axis : PathAxis} {test : NodeTest} {predicates : List Expr} {head : List Char}
      {texts : List (List Char)} :
      HeadPrints axis test head → List.Forall₂ prints predicates texts →
      Prints prints (.mk axis test predicates) (head ++ (texts.map brackets).flatten)

/-- What stands before the first step of a path, given how its start is printed. -/
inductive PathStart.Prints (prints : Expr → List Char → Prop) : PathStart → List Char → Prop
  | context : Prints prints .context []
  | root : Prints prints .root ['/']
  | value {e : Expr} {text : List Char} :
      prints e text → Prints prints (.value e) (parens text ++ ['/'])

/-- The fully parenthesised texts of an expression. -/
inductive Expr.Prints : Expr → List Char → Prop
  | literal {text : String} {quote : Char} :
      quote = '\'' ∨ quote = '"' → quote ∉ text.toList →
      Prints (.literal text) (quote :: (text.toList ++ [quote]))
  | number {x : Float} {ds : List Char} :
      IsNumeral ds → Decimal.readFloat ds = some x → Prints (.number x) ds
  | variable {name : String} : Prints (.variable name) ('$' :: name.toList)
  | call {name : String} {args : List Expr} {texts : List (List Char)} :
      List.Forall₂ Prints args texts →
      Prints (.call name args) (name.toList ++ parens ([','].intercalate texts))
  | binary {op : BinaryOp} {left right : Expr} {a b : List Char} :
      Prints left a → Prints right b →
      Prints (.binary op left right) (parens a ++ ' ' :: (op.written ++ ' ' :: parens b))
  | negate {e : Expr} {text : List Char} : Prints e text → Prints (.negate e) ('-' :: parens text)
  | path {start : PathStart} {steps : List PathStep} {front : List Char}
      {texts : List (List Char)} :
      PathStart.Prints Prints start front → List.Forall₂ (PathStep.Prints Prints) steps texts →
      Prints (.path start steps) (front ++ ['/'].intercalate texts)

/-! ### Readable trees -/

/-- The name of the test, if it has one, is a name. -/
def NodeTest.Readable : NodeTest → Prop
  | .name n => IsName n.toList
  | _ => True

/-- The step stands in a text by itself. -/
inductive PathStep.Explicit : PathStep → Prop
  | self {predicates : List Expr} : Explicit (.mk .self .node predicates)
  | parent {predicates : List Expr} : Explicit (.mk .parent .node predicates)
  | attribute {test : NodeTest} {predicates : List Expr} :
      test.Readable → Explicit (.mk .attribute test predicates)
  | child {test : NodeTest} {predicates : List Expr} :
      test.Readable → Explicit (.mk .child test predicates)

/-- Steps behind a slash each: a step that prints as nothing has an explicit one behind it. -/
inductive Walk : List PathStep → Prop
  | nil : Walk []
  | step {s : PathStep} {steps : List PathStep} : s.Explicit → Walk steps → Walk (s :: steps)
  | descend {s : PathStep} {steps : List PathStep} :
      s.Explicit → Walk steps → Walk (.descend :: s :: steps)

/-- Whether the expression is a path. -/
def Expr.isPath : Expr → Bool
  | .path _ _ => true
  | _ => false

/-- Whether the expression is made by an operator. -/
def Expr.isOperation : Expr → Bool
  | .binary _ _ _ => true
  | .negate _ => true
  | _ => false

/-- The trees that have a text. The start of a path is never a path, whose steps would go on with
those behind it, and has a step behind it; a path from the context node begins with an explicit
step; the root alone is a path. -/
inductive Expr.Readable : Expr → Prop
  | literal {text : String} : '\'' ∉ text.toList ∨ '"' ∉ text.toList → Readable (.literal text)
  | number {x : Float} {ds : List Char} :
      IsNumeral ds → Decimal.readFloat ds = some x → Readable (.number x)
  | variable {name : String} : IsName name.toList → Readable (.variable name)
  | call {name : String} {args : List Expr} :
      IsName name.toList → ¬(name = "text" ∨ name = "node") → (∀ a ∈ args, Readable a) →
      Readable (.call name args)
  | binary {op : BinaryOp} {left right : Expr} :
      Readable left → Readable right → Readable (.binary op left right)
  | negate {e : Expr} : Readable e → Readable (.negate e)
  | context {s : PathStep} {steps : List PathStep} :
      s.Explicit → Walk steps → (∀ t ∈ s :: steps, ∀ p ∈ t.predicates, Readable p) →
      Readable (.path .context (s :: steps))
  | root {steps : List PathStep} :
      Walk steps → (∀ t ∈ steps, ∀ p ∈ t.predicates, Readable p) → Readable (.path .root steps)
  | value {e : Expr} {steps : List PathStep} :
      Readable e → e.isPath = false → steps ≠ [] → Walk steps →
      (∀ t ∈ steps, ∀ p ∈ t.predicates, Readable p) → Readable (.path (.value e) steps)

theorem Walk.append {ss ts : List PathStep} (hs : Walk ss) (ht : Walk ts) : Walk (ss ++ ts) := by
  induction hs with
  | nil => exact ht
  | step h _ ih => exact .step h ih
  | descend h _ ih => exact .descend h ih

theorem Walk.explicit_or {s : PathStep} {steps : List PathStep} (h : Walk steps) (hs : s ∈ steps) :
    s.Explicit ∨ s = .descend := by
  induction h with
  | nil => cases hs
  | step h _ ih =>
    obtain rfl | hs := List.mem_cons.mp hs
    · exact .inl h
    · exact ih hs
  | descend h _ ih =>
    obtain rfl | hs := List.mem_cons.mp hs
    · exact .inr rfl
    obtain rfl | hs := List.mem_cons.mp hs
    · exact .inl h
    · exact ih hs

variable {e : Expr} {start : PathStart} {s : PathStep} {steps : List PathStep} {text : List Char}

/-- Steps behind a slash each, with readable predicates. -/
structure ReadableSteps (steps : List PathStep) : Prop where
  walk : Walk steps
  predicates : ∀ t ∈ steps, ∀ p ∈ t.predicates, p.Readable

/-- However a path begins, slashes can join its steps. -/
theorem Expr.Readable.readableSteps (h : (Expr.path start steps).Readable) :
    ReadableSteps steps := by
  cases h with
  | context hs hw hp => exact ⟨.step hs hw, hp⟩
  | root hw hp => exact ⟨hw, hp⟩
  | value _ _ _ hw hp => exact ⟨hw, hp⟩

/-! ### Existence -/

private theorem exists_forall₂ {α β : Type} {R : α → β → Prop} {as : List α}
    (h : ∀ a ∈ as, ∃ b, R a b) : ∃ bs, List.Forall₂ R as bs := by
  induction as with
  | nil => exact ⟨[], .nil⟩
  | cons a as ih =>
    obtain ⟨b, hb⟩ := h a (by simp)
    obtain ⟨bs, hbs⟩ := ih fun a ha => h a (by simp [ha])
    exact ⟨b :: bs, .cons hb hbs⟩

theorem PathStep.Explicit.exists_headPrints (h : s.Explicit) :
    ∃ head, PathStep.HeadPrints s.axis s.test head := by
  cases h with
  | self => exact ⟨_, .self⟩
  | parent => exact ⟨_, .parent⟩
  | «attribute» _ => exact ⟨_, .attribute⟩
  | child _ => exact ⟨_, .child⟩

private theorem exists_prints_steps (hw : Walk steps)
    (hp : ∀ t ∈ steps, ∀ p ∈ t.predicates, ∃ text, p.Prints text) :
    ∃ texts, List.Forall₂ (PathStep.Prints Expr.Prints) steps texts := by
  refine exists_forall₂ fun t ht => ?_
  obtain h | rfl := hw.explicit_or ht
  · obtain ⟨head, hhead⟩ := h.exists_headPrints
    obtain ⟨texts, htexts⟩ := exists_forall₂ (hp t ht)
    cases t
    exact ⟨_, .written hhead htexts⟩
  · exact ⟨[], .descend⟩

/-- **Every readable tree has a printed form.** -/
theorem Expr.Readable.exists_prints (h : e.Readable) : ∃ text, e.Prints text := by
  induction h with
  | literal h =>
    obtain h | h := h
    · exact ⟨_, .literal (.inl rfl) h⟩
    · exact ⟨_, .literal (.inr rfl) h⟩
  | number hds hx => exact ⟨_, .number hds hx⟩
  | «variable» _ => exact ⟨_, .variable⟩
  | call _ _ _ ih =>
    obtain ⟨texts, htexts⟩ := exists_forall₂ ih
    exact ⟨_, .call htexts⟩
  | binary _ _ ihl ihr =>
    obtain ⟨a, ha⟩ := ihl
    obtain ⟨b, hb⟩ := ihr
    exact ⟨_, .binary ha hb⟩
  | negate _ ih =>
    obtain ⟨text, htext⟩ := ih
    exact ⟨_, .negate htext⟩
  | context hs hsteps _ ih =>
    obtain ⟨texts, htexts⟩ := exists_prints_steps (.step hs hsteps) ih
    exact ⟨_, .path .context htexts⟩
  | root hsteps _ ih =>
    obtain ⟨texts, htexts⟩ := exists_prints_steps hsteps ih
    exact ⟨_, .path .root htexts⟩
  | value _ _ _ hsteps _ ihe ih =>
    obtain ⟨text, htext⟩ := ihe
    obtain ⟨texts, htexts⟩ := exists_prints_steps hsteps ih
    exact ⟨_, .path (.value htext) htexts⟩

/-! ### The ends of a printed form -/

/-- Neither the first character nor the last one is a blank. -/
def Solid (text : List Char) : Prop :=
  Ahead (isBlank · = false) text ∧ Ahead (isBlank · = false) text.reverse

theorem Solid.trimChars_eq (h : Solid text) : trimChars text = text := by
  simp only [trimChars, dropWhile_of_ahead h.1, dropWhile_of_ahead h.2, List.reverse_reverse]

theorem Solid.append {a b : List Char} (ha : Solid a) (hb : Solid b) : Solid (a ++ b) :=
  ⟨ha.1.append hb.1, by simpa using hb.2.append ha.2⟩

theorem Solid.flatten {ts : List (List Char)} (h : ∀ t ∈ ts, Solid t) : Solid ts.flatten := by
  induction ts with
  | nil => simp [Solid]
  | cons t ts ih => exact (h t (by simp)).append (ih fun t ht => h t (by simp [ht]))

theorem solid_of_forall (h : ∀ c ∈ text, isBlank c = false) : Solid text :=
  ⟨fun c hc => h c (List.mem_of_mem_head? hc),
    fun c hc => h c (List.mem_reverse.mp (List.mem_of_mem_head? hc))⟩

theorem solid_char {c : Char} (h : isBlank c = false) : Solid [c] := by simp [Solid, h]

/-- What stands between two characters does not matter. -/
theorem solid_between {c d : Char} (hc : isBlank c = false) (hd : isBlank d = false) :
    Solid (c :: (text ++ [d])) := by
  simp [Solid, hc, hd]

theorem solid_parens : Solid (parens text) := solid_between (by decide) (by decide)

theorem solid_brackets : Solid (brackets text) := solid_between (by decide) (by decide)

theorem solid_name (h : IsName text) : Solid text := by
  refine solid_of_forall fun c hc => ?_
  obtain hc | rfl := h.isNameChar_or_colon c hc
  · exact Expr.Grammar.isBlank_of_isNameChar hc
  · decide

theorem solid_numeral (h : IsNumeral text) : Solid text := by
  refine solid_of_forall fun c hc => ?_
  obtain hc | rfl := h.isDigit_or_point c hc
  · exact Text.isBlank_of_isDigit hc
  · decide

theorem NodeTest.Readable.solid {test : NodeTest} (h : test.Readable) : Solid test.written := by
  cases test with
  | name n => exact solid_name h
  | any | text | node => exact solid_of_forall (forall_mem_of_all (by decide))

theorem PathStep.Explicit.solid_head {head : List Char} (h : s.Explicit)
    (hp : PathStep.HeadPrints s.axis s.test head) : Solid head := by
  cases h with
  | self => cases hp; exact solid_of_forall (forall_mem_of_all (by decide))
  | parent => cases hp; exact solid_of_forall (forall_mem_of_all (by decide))
  | «attribute» ht => cases hp; exact (solid_char (by decide)).append ht.solid
  | child ht => cases hp; exact ht.solid

theorem PathStep.Prints.solid {prints : Expr → List Char → Prop}
    (hs : s.Explicit ∨ s = .descend) (h : PathStep.Prints prints s text) : Solid text := by
  cases h with
  | descend => simp [Solid]
  | written hhead _ =>
    refine Solid.append ?_ (Solid.flatten ?_)
    · obtain hs | hs := hs
      · exact hs.solid_head hhead
      · cases hs
        cases hhead
    · simpa using fun _ _ => solid_brackets

/-- Values with a separating character between them. -/
theorem intercalate_cons (c : Char) (t : List Char) (ts : List (List Char)) :
    [c].intercalate (t :: ts) = t ++ (ts.map (c :: ·)).flatten := by
  induction ts generalizing t with
  | nil => simp [List.intercalate]
  | cons u ts ih =>
    have next := ih u
    simp only [List.intercalate] at next ⊢
    simp [next]

theorem length_le_intercalate (c : Char) {ts : List (List Char)} (h : text ∈ ts) :
    text.length ≤ ([c].intercalate ts).length := by
  cases ts with
  | nil => cases h
  | cons t ts =>
    rw [intercalate_cons, List.length_append]
    obtain rfl | h := List.mem_cons.mp h
    · omega
    · have : (c :: text).length ≤ (ts.map (c :: ·)).flatten.length :=
        (List.sublist_flatten_of_mem (List.mem_map_of_mem h)).length_le
      rw [List.length_cons] at this
      omega

theorem Solid.intercalate {c : Char} {ts : List (List Char)} (hc : isBlank c = false)
    (h : ∀ t ∈ ts, Solid t) : Solid ([c].intercalate ts) := by
  cases ts with
  | nil => simp [Solid, List.intercalate]
  | cons t ts =>
    rw [intercalate_cons]
    refine (h t (by simp)).append (Solid.flatten ?_)
    simpa using fun u hu => (solid_char hc).append (h u (by simp [hu]))

private theorem solid_steps (hw : Walk steps) {texts : List (List Char)}
    (h : List.Forall₂ (PathStep.Prints Expr.Prints) steps texts) : ∀ t ∈ texts, Solid t := by
  have hs : ∀ t ∈ steps, t.Explicit ∨ t = .descend := fun t ht => hw.explicit_or ht
  clear hw
  induction h with
  | nil => simp
  | cons ht _ ih =>
    simp only [List.mem_cons, forall_eq_or_imp] at hs ⊢
    exact ⟨ht.solid hs.1, ih hs.2⟩

/-- A printed form is not trimmed. -/
theorem Expr.Readable.solid (h : e.Readable) (hp : e.Prints text) : Solid text := by
  cases hp with
  | literal hq _ => obtain rfl | rfl := hq <;> exact solid_between (by decide) (by decide)
  | number hds _ => exact solid_numeral hds
  | «variable» =>
    cases h with
    | «variable» hn => exact (solid_char (by decide)).append (solid_name hn)
  | call _ =>
    cases h with
    | call hn _ _ => exact (solid_name hn).append solid_parens
  | @binary op _ _ a b _ _ =>
    have ends : parens a ++ ' ' :: (op.written ++ ' ' :: parens b) =
        '(' :: ((a ++ ')' :: ' ' :: (op.written ++ ' ' :: '(' :: b)) ++ [')']) := by
      simp [parens]
    rw [ends]
    exact solid_between (by decide) (by decide)
  | negate _ =>
    exact (solid_char (by decide)).append solid_parens
  | @path _ steps front _ hfront hsteps =>
    have front_solid : Solid front := by
      cases hfront with
      | context => simp [Solid]
      | root => exact solid_of_forall (forall_mem_of_all (by decide))
      | value _ => exact solid_parens.append (solid_of_forall (forall_mem_of_all (by decide)))
    have hsolid := solid_steps h.readableSteps.walk hsteps
    exact front_solid.append (Solid.intercalate (by decide) hsolid)

end PageGrid
