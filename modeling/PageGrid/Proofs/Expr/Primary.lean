import PageGrid.Proofs.Expr.Steps

/-!
# Reading printed operands: primary expressions

Variables, numbers, literals, calls and parentheses are read back by the first rule that an operand
tries. That rule has to leave every step to the rule for paths: a point is no number before anything
but a digit, a name is no call before anything but a parenthesis, and the names of node types are no
functions.

## Main results

* `primary_head` — a printed step is no primary expression;
* `primary_variable`, `primary_number`, `primary_literal`, `primary_call`, `primary_parens` —
  printed primary expressions are read back.
-/

namespace PageGrid.Expr.Grammar

open Text Text.Scan

variable {rest s t text head : List Char} {texts : List (List Char)} {e : Expr}
variable {args predicates : List Expr} {axis : PathAxis} {test : NodeTest}

/-! ### Steps are left alone -/

/-- A step is no number: no digit follows the point of the self step. -/
theorem numberText_head (h : (PathStep.mk axis test predicates).Explicit)
    (hp : PathStep.HeadPrints axis test head) (hr : AfterTest rest) :
    numberText (head ++ rest) = none := by
  cases h with
  | self => cases hp; exact numberText_point_eq_none (hr.of_mem (by decide))
  | parent => cases hp; exact numberText_point_eq_none (Ahead.cons_iff.mpr (by decide))
  | «attribute» _ => cases hp; exact numberText_eq_none (Ahead.cons_iff.mpr (by decide))
  | child ht =>
    cases hp
    refine numberText_eq_none ((ahead_written ht).mono fun c hc => ?_)
    obtain hc | rfl := hc
    · exact ⟨isDigit_of_isNameStart hc, ne_of_test hc (by decide)⟩
    · decide

section Nested

variable {nested : Scan Expr}

theorem call_of_name_eq_none (h : name s = none) : call nested s = none := by
  simp [call, h]

/-- A name without a parenthesis behind it is no call. -/
theorem call_of_ahead {f : String} (h : name s = some (f, t))
    (ht : Ahead (fun c => isAsciiBlank c = false ∧ c ≠ '(') t) : call nested s = none := by
  simp only [call, bind_apply, h, Option.bind_some]
  split
  · rfl
  · simp [blanks, dropWhile_of_ahead (ht.mono fun _ => And.left),
      char_eq_none (ht.mono fun _ => And.right)]

/-- A node type is no function. -/
theorem call_of_nodeType {f : String} (h : name s = some (f, t)) (hf : f = "text" ∨ f = "node") :
    call nested s = none := by
  simp [call, h, hf]

/-- A step is no call: a name has no parenthesis behind it, and a node
type is no function. -/
theorem call_head (h : (PathStep.mk axis test predicates).Explicit)
    (hp : PathStep.HeadPrints axis test head) (hr : AfterTest rest) :
    call nested (head ++ rest) = none := by
  have no_name {c : Char} {s : List Char} (hc : isNameStart c = false) :
      call nested (c :: s) = none :=
    call_of_name_eq_none (name_eq_none (Ahead.cons_iff.mpr hc))
  have node_type {w : List Char} (hw : IsName w)
      (hf : String.ofList w = "text" ∨ String.ofList w = "node") :
      call nested (w ++ '(' :: ')' :: rest) = none :=
    call_of_nodeType (name_append hw (Ahead.cons_iff.mpr (by decide))) hf
  cases h with
  | self => cases hp; exact no_name (by decide)
  | parent => cases hp; exact no_name (by decide)
  | «attribute» _ => cases hp; exact no_name (by decide)
  | child ht =>
    cases hp
    cases test with
    | any => exact no_name (by decide)
    | name n => exact call_of_ahead (name_append ht hr.name_ends) (hr.of_mem (by decide))
    | text =>
      have word : IsName ['t', 'e', 'x', 't'] :=
        .plain (.mk (by decide) (forall_mem_of_all (by decide)))
      exact node_type word (.inl rfl)
    | node =>
      have word : IsName ['n', 'o', 'd', 'e'] :=
        .plain (.mk (by decide) (forall_mem_of_all (by decide)))
      exact node_type word (.inr rfl)

/-- **A step is no primary expression.** -/
theorem primary_head (h : (PathStep.mk axis test predicates).Explicit)
    (hp : PathStep.HeadPrints axis test head) (hr : AfterTest rest) :
    primary nested (head ++ rest) = none := by
  have ahead : Ahead BeginsStep (head ++ rest) := ahead_head h hp
  have dollar := variableName_eq_none (ahead.mono fun _ hc => hc.ne (by decide) (by decide))
  have numeral : number (head ++ rest) = none := by simp [number, numberText_head h hp hr]
  have quotes := literal_eq_none
    (ahead.mono fun _ hc => ⟨hc.ne (by decide) (by decide), hc.ne (by decide) (by decide)⟩)
  have paren : Scan.padded (Scan.char '(') (head ++ rest) = none :=
    padded_char_eq_none (ahead.mono fun _ hc => ⟨hc.isAsciiBlank, hc.ne (by decide) (by decide)⟩)
  simp [primary, dollar, numeral, quotes, call_head h hp hr, parenthesized, paren]

/-! ### Primary expressions are read back -/

theorem primary_variable {name : String} (hn : IsName name.toList) (hr : Closing rest) :
    primary nested ('$' :: name.toList ++ rest) = some (.variable name, rest) := by
  simp [primary, variableName_append hn (hr.of_mem (by decide))]

theorem primary_number {x : Float} {ds : List Char} (hds : IsNumeral ds)
    (hx : Decimal.readFloat ds = some x) (hr : Closing rest) :
    primary nested (ds ++ rest) = some (.number x, rest) := by
  have dollar : Ahead (· ≠ '$') (ds ++ rest) := hds.ahead.mono fun c hc => by
    obtain hd | rfl := hc
    · exact ne_of_test hd (by decide)
    · decide
  simp [primary, variableName_eq_none dollar, number_append hds hx (hr.of_mem (by decide))]

theorem primary_literal {text : String} {quote : Char} (hq : quote = '\'' ∨ quote = '"')
    (h : quote ∉ text.toList) :
    primary nested (quote :: (text.toList ++ [quote]) ++ rest) = some (.literal text, rest) := by
  have read : literal (quote :: (text.toList ++ quote :: rest)) =
      some (String.ofList text.toList, rest) :=
    literal_append hq h
  have dollar : variableName (quote :: (text.toList ++ quote :: rest)) = none :=
    variableName_eq_none (Ahead.cons_iff.mpr (by obtain rfl | rfl := hq <;> decide))
  have numeral : numberText (quote :: (text.toList ++ quote :: rest)) = none :=
    numberText_eq_none (Ahead.cons_iff.mpr (by obtain rfl | rfl := hq <;> decide))
  simp [primary, dollar, number, numeral, read]

/-- A word ahead is neither a variable nor a number nor a literal. -/
theorem primary_of_name (h : Ahead (isNameStart · = true) s) :
    primary nested s = (call nested s).or (parenthesized nested s) := by
  have dollar := variableName_eq_none (h.mono fun _ hc => ne_of_test hc (by decide))
  have numeral := numberText_eq_none
    (h.mono fun _ hc => ⟨isDigit_of_isNameStart hc, ne_of_test hc (by decide)⟩)
  have quotes := literal_eq_none
    (h.mono fun _ hc => ⟨ne_of_test hc (by decide), ne_of_test hc (by decide)⟩)
  simp [primary, dollar, number, numeral, quotes]

section Rereads

variable {k : Nat} (hn : Rereads nested k)

include hn

/-- **An expression in parentheses is read back**, and the blanks behind it are read along. -/
theorem primary_parens (he : e.Readable) (hp : e.Prints text) (hk : text.length < k) :
    primary nested (parens text ++ rest) = some (e, rest.dropWhile isAsciiBlank) := by
  have closing : Closing (')' :: rest) := Ahead.cons_iff.mpr (by decide)
  have opened := padded_char_printed (c := '(') (by decide) he hp closing
  have inner : nested (text ++ ')' :: rest) = some (e, ')' :: rest) := hn.reads he hp hk closing
  have closed : Scan.padded (Scan.char ')') (')' :: rest) =
      some (')', rest.dropWhile isAsciiBlank) :=
    padded_char (by decide)
  have read : parenthesized nested ('(' :: (text ++ ')' :: rest)) =
      some (e, rest.dropWhile isAsciiBlank) := by
    simp [parenthesized, opened, inner, closed]
  have others : variableName ('(' :: (text ++ ')' :: rest)) = none ∧
      number ('(' :: (text ++ ')' :: rest)) = none ∧
      literal ('(' :: (text ++ ')' :: rest)) = none ∧
      call nested ('(' :: (text ++ ')' :: rest)) = none :=
    ⟨rfl, rfl, rfl, rfl⟩
  simp [primary, parens, others, read]

/-- The arguments behind the first one, each with its comma. -/
theorem runs_args (rest : List Char) (ha : ∀ a ∈ args, a.Readable)
    (hp : List.Forall₂ Expr.Prints args texts) (hk : ∀ t ∈ texts, t.length < k) :
    Runs (Scan.padded (Scan.char ',') *> nested)
      ((texts.map (',' :: ·)).flatten ++ ')' :: rest) args (')' :: rest) := by
  induction hp with
  | nil =>
    have comma : Scan.padded (Scan.char ',') (')' :: rest) = none := rfl
    exact .stop (by simp [comma])
  | @cons a text args texts hp _ ih =>
    simp only [List.mem_cons, forall_eq_or_imp] at ha hk
    simp only [List.map_cons, List.flatten_cons, List.cons_append, List.append_assoc]
    have closing := closing_args texts rest
    have comma := padded_char_printed (c := ',') (by decide) ha.1 hp closing
    have read := hn.reads ha.1 hp hk.1 closing
    exact .next (by simp [comma, read]) (length_lt_cons_append ',' text _) (ih ha.2 hk.2)

/-- The arguments are read up to the end of the call, also where there are none. -/
theorem sepBy_args (rest : List Char) (ha : ∀ a ∈ args, a.Readable)
    (hp : List.Forall₂ Expr.Prints args texts) (hk : ∀ t ∈ texts, t.length < k) :
    Scan.sepBy nested (Scan.padded (Scan.char ',')) ([','].intercalate texts ++ ')' :: rest) =
      some (args, ')' :: rest) := by
  cases hp with
  | nil => simp [Scan.sepBy, Scan.sepBy1, List.intercalate, hn.closing]
  | @cons a text args texts hp htail =>
    simp only [List.mem_cons, forall_eq_or_imp] at ha hk
    have read := hn.reads ha.1 hp hk.1 (closing_args texts rest)
    have others := (runs_args hn rest ha.2 htail hk.2).many
    simp [Scan.sepBy, Scan.sepBy1, intercalate_cons, read, others]

/-- **A printed call is read back.** -/
theorem primary_call {name : String} (hname : IsName name.toList)
    (hne : ¬(name = "text" ∨ name = "node")) (ha : ∀ a ∈ args, a.Readable)
    (hp : List.Forall₂ Expr.Prints args texts) (hk : ∀ t ∈ texts, t.length < k)
    (hr : Closing rest) :
    primary nested (name.toList ++ parens ([','].intercalate texts) ++ rest) =
      some (.call name args, rest) := by
  have first : Grammar.name (name.toList ++ '(' :: ([','].intercalate texts ++ ')' :: rest)) =
      some (String.ofList name.toList, '(' :: ([','].intercalate texts ++ ')' :: rest)) :=
    name_append hname (Ahead.cons_iff.mpr (by decide))
  have arguments := sepBy_args hn rest ha hp hk
  have closed : Scan.padded (Scan.char ')') (')' :: rest) = some (')', rest) := by
    rw [padded_char (by decide), dropWhile_of_ahead (hr.of_mem (by decide))]
  have read : call nested (name.toList ++ '(' :: ([','].intercalate texts ++ ')' :: rest)) =
      some (.call name args, rest) := by
    have opened : ('(' :: ([','].intercalate texts ++ ')' :: rest)).dropWhile isAsciiBlank =
        '(' :: ([','].intercalate texts ++ ')' :: rest) :=
      dropWhile_of_ahead (Ahead.cons_iff.mpr (by decide))
    simp only [call, bind_apply, first, Option.bind_some, String.ofList_toList, hne, if_false]
    simp [blanks, opened, arguments, closed]
  have split : name.toList ++ parens ([','].intercalate texts) ++ rest =
      name.toList ++ '(' :: ([','].intercalate texts ++ ')' :: rest) := by
    simp [parens]
  rw [split, primary_of_name hname.ahead, read, Option.some_or]

end Rereads

end Nested

end PageGrid.Expr.Grammar
