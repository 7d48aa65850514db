import Mathlib
import PageGrid.Proofs.Expr.Paths
import PageGrid.Proofs.Expr.Readable

/-!
# Reading inverts printing

A printed form has every operand of an operator in parentheses. So no level of the grammar decides
how operands group; what is left is that each level lets the others have their operators. The levels
tighter than that of an operator stop before it, the level itself reads the operator and the operand
behind it, and all of them stop where the expression ends.

Parentheses, brackets and calls nest. The reader for nested expressions is a parameter of the
grammar, and of it is assumed only that it reads back shorter texts (`Grammar.Rereads`); one more
round of the grammar then reads back texts that are longer by one character. As many rounds as a
text has characters are enough.

## Main results

* `Grammar.levels_split` — each operator but the union belongs to one level;
* `Grammar.Rereads.loosest` — a reader for nested expressions makes one for longer expressions;
* `parse_of_prints` — a printed form of a readable tree is read as that tree;
* `parse_printed` — whatever was read can be printed, and is read again from what is printed.
-/

namespace PageGrid.Expr.Grammar

open Text Text.Scan

variable {rest s t u v text a b : List Char} {e left right : Expr}

/-! ### Levels -/

section Levels

variable {op : Scan BinaryOp} {ops : List (Scan BinaryOp)} {operand : Scan Expr} {o : BinaryOp}

/-- A level reads a single operand if none of its operators follows. -/
theorem chain_of_single (h : operand s = some (e, t)) (ho : Scan.padded op t = none) :
    chain op operand s = some (e, t) := by
  have stop : Scan.many (do let o ← Scan.padded op; let e ← operand; return (o, e)) t =
      some ([], t) :=
    Runs.many (.stop (by simp [ho]))
  simp only [chain, bind_apply, h, Option.bind_some, stop, pure_apply, List.foldl_nil]

/-- A level reads two operands with one of its operators between them. -/
theorem chain_of_pair (hl : operand s = some (left, t)) (ho : Scan.padded op t = some (o, u))
    (hr : operand u = some (right, v)) (hlt : v.length < t.length)
    (hv : Scan.padded op v = none) :
    chain op operand s = some (.binary o left right, v) := by
  have once : Scan.many (do let o ← Scan.padded op; let e ← operand; return (o, e)) t =
      some ([(o, right)], v) :=
    Runs.many (.next (by simp [ho, hr]) hlt (.stop (by simp [hv])))
  simp only [chain, bind_apply, hl, Option.bind_some, once, pure_apply, List.foldl_cons,
    List.foldl_nil]

/-- What a level reads, the looser ones read as well if none of their operators follows. -/
theorem foldr_chain (h : operand s = some (e, t)) (hops : ∀ op ∈ ops, Scan.padded op t = none) :
    ops.foldr chain operand s = some (e, t) := by
  induction ops with
  | nil => exact h
  | cons op ops ih =>
    simp only [List.mem_cons, forall_eq_or_imp] at hops
    exact chain_of_single (ih hops.2) hops.1

end Levels

/-! ### Operators -/

theorem padded_union_closing (hr : Closing rest) : Scan.padded (sign "|" .union) rest = none := by
  cases rest with
  | nil => rfl
  | cons c rest =>
    have hc : c ∈ [')', ']', ','] := Ahead.cons_iff.mp hr
    fin_cases hc <;> rfl

/-- No level has an operator where an expression ends. -/
theorem padded_levels_closing (hr : Closing rest) : ∀ op ∈ levels, Scan.padded op rest = none := by
  intro op hop
  cases rest with
  | nil => fin_cases hop <;> rfl
  | cons c rest =>
    have hc : c ∈ [')', ']', ','] := Ahead.cons_iff.mp hr
    fin_cases hc <;> fin_cases hop <;> rfl

/-- An operator begins neither with a blank nor with a slash. -/
theorem ahead_operator (op : BinaryOp) :
    Ahead (fun c => isAsciiBlank c = false ∧ c ≠ '/') (op.written ++ s) := by
  cases op <;> exact Ahead.cons_iff.mpr (by decide)

theorem padded_union_written {op : BinaryOp} (h : op ≠ .union) (r : List Char) :
    Scan.padded (sign "|" .union) (op.written ++ ' ' :: r) = none := by
  cases op <;> first | rfl | exact absurd rfl h

/-- **Each operator but the union belongs to one level**, and the tighter levels leave it alone: a
shorter operator of theirs never begins it. -/
theorem levels_split {op : BinaryOp} (h : op ≠ .union) :
    ∃ looser o tighter, levels = looser ++ o :: tighter ∧
      (∀ r, Scan.padded o (op.written ++ ' ' :: '(' :: r) = some (op, '(' :: r)) ∧
      ∀ p ∈ tighter, ∀ r, Scan.padded p (op.written ++ ' ' :: r) = none := by
  cases op with
  | or =>
    refine ⟨levels.take 0, _, _, rfl, fun _ => rfl, fun p hp r => ?_⟩
    fin_cases hp <;> rfl
  | and =>
    refine ⟨levels.take 1, _, _, rfl, fun _ => rfl, fun p hp r => ?_⟩
    fin_cases hp <;> rfl
  | equal | notEqual =>
    refine ⟨levels.take 2, _, _, rfl, fun _ => rfl, fun p hp r => ?_⟩
    fin_cases hp <;> rfl
  | less | lessOrEqual | greater | greaterOrEqual =>
    refine ⟨levels.take 3, _, _, rfl, fun _ => rfl, fun p hp r => ?_⟩
    fin_cases hp <;> rfl
  | plus | minus =>
    refine ⟨levels.take 4, _, _, rfl, fun _ => rfl, fun p hp r => ?_⟩
    fin_cases hp
    rfl
  | times | divide | modulo =>
    exact ⟨levels.take 5, _, _, rfl, fun _ => rfl, fun p hp => by cases hp⟩
  | union => exact absurd rfl h

/-! ### Operands -/

section Nested

variable {nested : Scan Expr}

/-- No operand begins with a minus. -/
theorem ahead_operand (he : e.Readable) (hp : e.Prints text) (hop : e.isOperation = false) :
    Ahead (· ≠ '-') (text ++ rest) := by
  cases hp with
  | literal hq _ => exact Ahead.cons_iff.mpr (by obtain rfl | rfl := hq <;> decide)
  | number hds _ =>
    refine hds.ahead.mono fun c hc => ?_
    obtain hd | rfl := hc
    · exact ne_of_test hd (by decide)
    · decide
  | «variable» => exact Ahead.cons_iff.mpr (by decide)
  | call _ =>
    cases he with
    | call hname _ _ =>
      rw [List.append_assoc]
      exact hname.ahead.mono fun c hc => ne_of_test hc (by decide)
  | binary _ _ => cases hop
  | negate _ => cases hop
  | path hfront hsteps =>
    cases hfront with
    | root => exact Ahead.cons_iff.mpr (by decide)
    | value _ => exact Ahead.cons_iff.mpr (by decide)
    | context =>
      cases he with
      | context hs _ _ =>
        cases hsteps with
        | cons hprints _ =>
          rw [List.nil_append, intercalate_cons, List.append_assoc]
          exact (ahead_step hs hprints).mono fun _ hc => hc.ne (by decide) (by decide)

theorem unary_of_union (hs : Ahead (fun c => isAsciiBlank c = false ∧ c ≠ '-') s)
    (h : union nested s = some (e, t)) : unary nested s = some (e, t) := by
  have minus : Scan.maybe (Scan.padded (Scan.char '-')) s = some (none, s) :=
    maybe_of_none (padded_char_eq_none hs)
  simp [unary, minus, h]

theorem dropWhile_parens (text s : List Char) :
    (parens text ++ s).dropWhile isAsciiBlank = parens text ++ s :=
  dropWhile_of_ahead (Ahead.cons_iff.mpr (by decide))

section Rereads

variable {k : Nat} (hn : Rereads nested k)

include hn

theorem unary_append (he : e.Readable) (hp : e.Prints text) (hop : e.isOperation = false)
    (hk : text.length ≤ k) (hr : Closing rest) : unary nested (text ++ rest) = some (e, rest) := by
  have minus : Ahead (· ≠ '-') (text ++ rest) := ahead_operand he hp hop
  have blank := ahead_printed he hp hr
  exact unary_of_union (fun c hc => ⟨blank c hc, minus c hc⟩)
    (chain_of_single (path_append hn he hp hop hk hr) (padded_union_closing hr))

/-- An operand in parentheses takes the blanks behind it along. -/
theorem path_parens (he : e.Readable) (hp : e.Prints text) (hk : text.length < k)
    (hs : Ahead (· ≠ '/') (s.dropWhile isAsciiBlank)) :
    path nested (parens text ++ s) = some (e, s.dropWhile isAsciiBlank) :=
  path_of_primary (primary_parens hn he hp hk) (.stop (nextSteps_eq_none hs))

/-- The last operand in parentheses. -/
theorem path_parens_closing (he : e.Readable) (hp : e.Prints text) (hk : text.length < k)
    (hr : Closing rest) : path nested (parens text ++ rest) = some (e, rest) := by
  have blanks : rest.dropWhile isAsciiBlank = rest := dropWhile_of_ahead (hr.of_mem (by decide))
  have read := path_parens hn he hp hk (s := rest) (by rw [blanks]; exact hr.of_mem (by decide))
  rwa [blanks] at read

/-- An operand in parentheses before an operator. -/
theorem path_parens_written (he : e.Readable) (hp : e.Prints text) (hk : text.length < k)
    (op : BinaryOp) :
    path nested (parens text ++ ' ' :: (op.written ++ s)) = some (e, op.written ++ s) := by
  have blanks : (' ' :: (op.written ++ s)).dropWhile isAsciiBlank = op.written ++ s := by
    rw [List.dropWhile_cons_of_pos (by decide)]
    exact dropWhile_of_ahead ((ahead_operator op).mono fun _ => And.left)
  have read := path_parens hn he hp hk (s := ' ' :: (op.written ++ s))
    (by rw [blanks]; exact (ahead_operator op).mono fun _ => And.right)
  rwa [blanks] at read

/-! ### Operations -/

/-- **A printed negation is read back.** -/
theorem unary_negate (he : e.Readable) (hp : e.Prints text) (hk : text.length < k)
    (hr : Closing rest) :
    unary nested ('-' :: parens text ++ rest) = some (.negate e, rest) := by
  have minus : Scan.maybe (Scan.padded (Scan.char '-')) ('-' :: (parens text ++ rest)) =
      some (some '-', parens text ++ rest) :=
    maybe_of_some (by rw [padded_char (by decide), dropWhile_parens])
  have operand : union nested (parens text ++ rest) = some (e, rest) :=
    chain_of_single (path_parens_closing hn he hp hk hr) (padded_union_closing hr)
  simp [unary, minus, operand]

section Operands

variable (hl : left.Readable) (ha : left.Prints a) (hka : a.length < k)
variable (hr : right.Readable) (hb : right.Prints b) (hkb : b.length < k) (hrest : Closing rest)

include hl ha hka hr hb hkb hrest

/-- **A printed union is read back.** -/
theorem unary_union :
    unary nested (parens a ++ ' ' :: (BinaryOp.union.written ++ ' ' :: (parens b ++ rest))) =
      some (.binary .union left right, rest) := by
  have op : Scan.padded (sign "|" .union) (BinaryOp.union.written ++ ' ' :: (parens b ++ rest)) =
      some (.union, parens b ++ rest) := rfl
  refine unary_of_union (Ahead.cons_iff.mpr (by decide)) ?_
  refine chain_of_pair (path_parens_written hn hl ha hka .union) op
    (path_parens_closing hn hr hb hkb hrest) ?_ (padded_union_closing hrest)
  simp only [List.length_append, List.length_cons]
  omega

/-- **Any other printed binary operation is read back.** -/
theorem loosest_binary {op : BinaryOp} (hop : op ≠ .union) :
    loosest nested (parens a ++ ' ' :: (op.written ++ ' ' :: (parens b ++ rest))) =
      some (.binary op left right, rest) := by
  obtain ⟨looser, o, tighter, hlevels, ho, htighter⟩ := levels_split hop
  have closed : ∀ p ∈ looser ++ o :: tighter, Scan.padded p rest = none := by
    rw [← hlevels]
    exact padded_levels_closing hrest
  simp only [List.mem_append, List.mem_cons] at closed
  -- the tighter levels read no more than the operands
  have first : tighter.foldr chain (unary nested)
      (parens a ++ ' ' :: (op.written ++ ' ' :: (parens b ++ rest))) =
      some (left, op.written ++ ' ' :: (parens b ++ rest)) := by
    refine foldr_chain (unary_of_union (Ahead.cons_iff.mpr (by decide)) ?_) fun p hp =>
      htighter p hp _
    exact chain_of_single (path_parens_written hn hl ha hka op) (padded_union_written hop _)
  have second : tighter.foldr chain (unary nested) (parens b ++ rest) = some (right, rest) := by
    refine foldr_chain (unary_of_union (Ahead.cons_iff.mpr (by decide)) ?_) fun p hp =>
      closed p (.inr (.inr hp))
    exact chain_of_single (path_parens_closing hn hr hb hkb hrest) (padded_union_closing hrest)
  have shorter : rest.length < (op.written ++ ' ' :: (parens b ++ rest)).length := by
    simp only [List.length_append, List.length_cons]
    omega
  rw [loosest, hlevels, List.foldr_append, List.foldr_cons]
  exact foldr_chain (chain_of_pair first (ho _) second shorter (closed o (.inr (.inl rfl))))
    fun p hp => closed p (.inl hp)

end Operands

/-- **A reader for nested expressions makes one for longer expressions.** -/
theorem Rereads.loosest : Rereads (loosest nested) (k + 1) where
  reads := by
    intro e text rest he hp hk hr
    by_cases hop : e.isOperation = true
    · cases hp with
      | @binary op left right a b ha hb =>
        cases he with
        | binary hl hr' =>
          have split : parens a ++ ' ' :: (op.written ++ ' ' :: parens b) ++ rest =
              parens a ++ ' ' :: (op.written ++ ' ' :: (parens b ++ rest)) := by
            simp
          simp only [parens, List.length_append, List.length_cons] at hk
          rw [split]
          by_cases hunion : op = .union
          · subst hunion
            exact foldr_chain (unary_union hn hl ha (by omega) hr' hb (by omega) hr)
              (padded_levels_closing hr)
          · exact loosest_binary hn hl ha (by omega) hr' hb (by omega) hr hunion
      | negate hp =>
        cases he with
        | negate he =>
          simp only [parens, List.length_append, List.length_cons] at hk
          exact foldr_chain (unary_negate hn he hp (by omega) hr) (padded_levels_closing hr)
      | _ => cases hop
    · exact foldr_chain (unary_append hn he hp (by simpa using hop) (by omega) hr)
        (padded_levels_closing hr)
  closing _ := rfl

end Rereads

end Nested

/-- **With fuel for its characters, every printed form is read back.** -/
theorem rereads_expression (fuel : Nat) : Rereads (expression fuel) fuel := by
  induction fuel with
  | zero => exact ⟨fun _ _ h => absurd h (Nat.not_lt_zero _), fun _ => rfl⟩
  | succ fuel ih => exact ih.loosest

end PageGrid.Expr.Grammar

namespace PageGrid.Expr

open Text Text.Scan

variable {input : String} {e : Expr} {text : List Char}

/-- **Reading inverts printing.** -/
theorem parse_of_prints (he : e.Readable) (hp : e.Prints text) :
    parse (String.ofList text) = .ok e := by
  have trimmed : trimChars (String.ofList text).toList = text := by
    rw [String.toList_ofList, (he.solid hp).trimChars_eq]
  have closing : Grammar.Closing [] := Ahead.nil
  have blank := Grammar.ahead_printed he hp closing
  have read := (Grammar.rereads_expression (text.length + 1)).reads he hp (by omega) closing
  rw [List.append_nil] at blank read
  rw [parse_eq_ok_iff trimmed, padded_of_ahead blank, read]
  rfl

/-- **Whatever was read can be printed, and is read again from what is printed.** The tree has a
printed form, and whichever quotes and digits are chosen, the text is read as that very tree. -/
theorem parse_printed (h : parse input = .ok e) :
    (∃ text, e.Prints text) ∧ ∀ text, e.Prints text → parse (String.ofList text) = .ok e :=
  ⟨(readable_of_parse h).exists_prints, fun _ => parse_of_prints (readable_of_parse h)⟩

/-- A path in parentheses with further steps, which are merged, and with names that look like a node
type and an operator. -/
def mergedPath : Expr :=
  .path .context
    [.mk .child (.name "a.b") [], .mk .child (.name "text") [], .descend,
      .mk .child (.name "x:div-1") [.binary .equal (.path .root []) (.variable "or")],
      .mk .child .node []]

theorem parse_printed_mergedPath :
    parse "(a.b/text)//x:div-1[/ = $or]/node()" = .ok mergedPath ∧
      mergedPath.Prints "a.b/text//x:div-1[(/) = ($or)]/node()".toList ∧
      parse "a.b/text//x:div-1[(/) = ($or)]/node()" = .ok mergedPath := by
  have trimmed : trimChars "(a.b/text)//x:div-1[/ = $or]/node()".toList =
      "(a.b/text)//x:div-1[/ = $or]/node()".toList := by decide
  have read : parse "(a.b/text)//x:div-1[/ = $or]/node()" = .ok mergedPath := by
    rw [parse_eq_ok_iff trimmed]
    change Scan.padded (Grammar.expression 36) _ = _
    cbv
  have condition : (binary .equal (.path .root []) (.variable "or")).Prints
      "(/) = ($or)".toList := .binary (.path .root .nil) .variable
  have printed : mergedPath.Prints "a.b/text//x:div-1[(/) = ($or)]/node()".toList :=
    .path .context (.cons (.written .child .nil) (.cons (.written .child .nil) (.cons .descend
      (.cons (.written .child (.cons condition .nil)) (.cons (.written .child .nil) .nil)))))
  exact ⟨read, printed, (parse_printed read).2 _ printed⟩

end PageGrid.Expr
