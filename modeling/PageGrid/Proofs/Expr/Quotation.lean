import Mathlib.Data.List.TakeWhile
import PageGrid.Proofs.Expr.Readable
import PageGrid.Proofs.Template

/-!
# Quotes and braces in expressions

The grammar of expressions has quotes around string literals only, and no braces at all. So in a text that
is read as an expression quotes come in pairs, and a brace stands between the two quotes of a pair. A text
that ends before such a brace has a quote without a partner, and is no expression.

That a scanner reads such a text only is shown for every rule of the grammar. It goes through sequence,
choice and repetition, since such texts may be put together.

## Main definitions

* `Delimited` — quotes come in pairs, and braces stand between them;
* `Scan.Delimits` — a scanner reads such texts only.

## Main results

* `delimited_of_parse` — expressions are such texts;
* `Delimited.of_append_brace` — what stands before a brace in such a text is none.
-/

namespace PageGrid

open Text Text.Scan
open Template (IsBrace)

variable {c quote : Char} {cs ds text s t : List Char}

/-! ### Texts -/

/-- A character that string literals begin and end with. -/
def IsQuote (c : Char) : Prop := c = '\'' ∨ c = '"'

/-- A character that means nothing to string literals and templates. -/
def IsOrdinary (c : Char) : Prop := ¬ IsQuote c ∧ ¬ IsBrace c

instance : DecidablePred IsQuote := fun _ => inferInstanceAs (Decidable (_ ∨ _))

instance : DecidablePred IsOrdinary := fun _ => inferInstanceAs (Decidable (_ ∧ _))

/-- Quotes come in pairs of one kind, with a text between them that does not have this quote. Braces stand
between quotes only. -/
inductive Delimited : List Char → Prop
  | nil : Delimited []
  | ordinary {c : Char} {cs : List Char} : IsOrdinary c → Delimited cs → Delimited (c :: cs)
  | literal {quote : Char} {text cs : List Char} :
      IsQuote quote → quote ∉ text → Delimited cs → Delimited (quote :: (text ++ quote :: cs))

theorem Delimited.append (hs : Delimited cs) (ht : Delimited ds) : Delimited (cs ++ ds) := by
  induction hs with
  | nil => exact ht
  | ordinary hc _ ih => exact .ordinary hc ih
  | literal hquote htext _ ih =>
    rw [List.cons_append, List.append_assoc, List.cons_append]
    exact .literal hquote htext ih

theorem delimited_of_forall (h : ∀ c ∈ cs, IsOrdinary c) : Delimited cs := by
  induction cs with
  | nil => exact .nil
  | cons c cs ih =>
    rw [List.forall_mem_cons] at h
    exact .ordinary h.1 (ih h.2)

theorem not_isBrace_of_isQuote (h : IsQuote quote) : ¬ IsBrace quote := by
  obtain rfl | rfl := h <;> decide

/-- No such text begins with a brace. -/
theorem Delimited.ahead (h : Delimited cs) : Ahead (¬ IsBrace ·) cs := by
  cases h with
  | nil => simp
  | ordinary hc _ => simpa using hc.2
  | literal hquote _ _ => simpa using not_isBrace_of_isQuote hquote

/-- Where a quote comes first is one place. -/
theorem append_quote_inj {text' cs' : List Char} (h : quote ∉ text) (h' : quote ∉ text')
    (heq : text ++ quote :: cs = text' ++ quote :: cs') : text = text' ∧ cs = cs' := by
  induction text generalizing text' with
  | nil =>
    cases text' with
    | nil => exact ⟨rfl, (List.cons.inj heq).2⟩
    | cons d text' =>
      cases heq
      simp at h'
  | cons d text ih =>
    cases text' with
    | nil =>
      cases heq
      simp at h
    | cons d' text' =>
      rw [List.mem_cons, not_or] at h h'
      rw [List.cons_append, List.cons_append, List.cons.injEq] at heq
      obtain ⟨rfl, heq⟩ := heq
      obtain ⟨rfl, rfl⟩ := ih h.2 h'.2 heq
      exact ⟨rfl, rfl⟩

/-- **What stands before a brace** ends in a string literal. By induction on the whole text; both texts
begin with the same literals. -/
theorem Delimited.of_append_brace {whole rest : List Char} (hwhole : Delimited whole) (hc : IsBrace c)
    (heq : whole = cs ++ c :: rest) : ¬ Delimited cs := by
  induction hwhole generalizing cs with
  | nil => simp at heq
  | ordinary hd _ ih =>
    cases cs with
    | nil =>
      cases heq
      exact absurd hc hd.2
    | cons d cs =>
      cases heq
      intro hcs
      cases hcs with
      | ordinary _ hcs => exact ih rfl hcs
      | literal hquote _ _ => exact hd.1 hquote
  | @literal quote text _ hquote htext _ ih =>
    cases cs with
    | nil =>
      cases heq
      exact absurd hc (not_isBrace_of_isQuote hquote)
    | cons d cs =>
      rw [List.cons_append, List.cons.injEq] at heq
      obtain ⟨rfl, heq⟩ := heq
      intro hcs
      cases hcs with
      | ordinary hd _ => exact hd.1 hquote
      | literal _ htext' hcs =>
        rw [List.append_assoc, List.cons_append] at heq
        obtain ⟨rfl, hrest⟩ := append_quote_inj htext htext' heq
        exact ih hrest hcs

/-! ### Scanners -/

namespace Text.Scan

variable {α β : Type} {p : Scan α}

/-- The scanner reads texts only in which quotes come in pairs and braces stand between them. -/
def Delimits (p : Scan α) : Prop := ∀ s a t, p s = some (a, t) → ∃ read, Delimited read ∧ s = read ++ t

theorem delimits_pure (a : α) : Delimits (pure a) := by
  intro s b t h
  cases h
  exact ⟨[], .nil, rfl⟩

theorem delimits_failure : Delimits (failure : Scan α) := by
  intro s a t h
  cases h

theorem Delimits.bind {f : α → Scan β} (hp : Delimits p) (hf : ∀ a, Delimits (f a)) :
    Delimits (p >>= f) := by
  intro s b u h
  rw [bind_apply, Option.bind_eq_some_iff] at h
  obtain ⟨⟨a, t⟩, h, h'⟩ := h
  obtain ⟨first, hfirst, rfl⟩ := hp s a t h
  obtain ⟨second, hsecond, rfl⟩ := hf a t b u h'
  exact ⟨first ++ second, hfirst.append hsecond, (List.append_assoc ..).symm⟩

theorem Delimits.map (f : α → β) (hp : Delimits p) : Delimits (f <$> p) := by
  intro s b t h
  rw [map_apply, Option.map_eq_some_iff] at h
  obtain ⟨⟨a, u⟩, h, heq⟩ := h
  cases heq
  exact hp s a u h

theorem Delimits.seqRight {q : Scan β} (hp : Delimits p) (hq : Delimits q) : Delimits (p *> q) := by
  intro s b u h
  rw [seqRight_apply, Option.bind_eq_some_iff] at h
  obtain ⟨⟨a, t⟩, h, h'⟩ := h
  obtain ⟨first, hfirst, rfl⟩ := hp s a t h
  obtain ⟨second, hsecond, rfl⟩ := hq t b u h'
  exact ⟨first ++ second, hfirst.append hsecond, (List.append_assoc ..).symm⟩

theorem Delimits.orElse {q : Scan α} (hp : Delimits p) (hq : Delimits q) : Delimits (p <|> q) := by
  intro s a t h
  rw [orElse_apply, Option.or_eq_some_iff] at h
  obtain h | ⟨-, h⟩ := h
  · exact hp s a t h
  · exact hq s a t h

theorem delimits_char (hc : IsOrdinary c) : Delimits (char c) := by
  intro s d t h
  exact ⟨[c], .ordinary hc .nil, eq_cons_of_char h⟩

theorem delimits_word {w : String} (hw : w.toList.all (IsOrdinary ·) = true) : Delimits (word w) := by
  intro s u t h
  have hordinary (c : Char) (hc : c ∈ w.toList) : IsOrdinary c :=
    of_decide_eq_true (List.all_eq_true.mp hw c hc)
  exact ⟨w.toList, delimited_of_forall hordinary, eq_append_of_chars h⟩

theorem delimits_takeWhile {test : Char → Bool} (ht : ∀ c, test c = true → IsOrdinary c) :
    Delimits (takeWhile test) := by
  intro s a t h
  cases h
  exact ⟨_, delimited_of_forall fun c hc => ht c (List.mem_takeWhile_imp hc),
    List.takeWhile_append_dropWhile.symm⟩

theorem delimits_takeWhile1 {test : Char → Bool} (ht : ∀ c, test c = true → IsOrdinary c) :
    Delimits (takeWhile1 test) := by
  intro s a t h
  rw [takeWhile1] at h
  split at h
  · cases h
  · next run _ =>
    refine delimits_takeWhile ht s a t ?_
    rwa [takeWhile]

theorem isOrdinary_of_isBlank (h : isBlank c = true) : IsOrdinary c := by
  constructor
  · rintro (rfl | rfl) <;> simp [isBlank] at h
  · rintro (rfl | rfl) <;> simp [isBlank] at h

theorem delimits_blanks : Delimits blanks := by
  intro s a t h
  cases h
  exact ⟨s.takeWhile isAsciiBlank, delimited_of_forall fun c hc =>
    isOrdinary_of_isBlank (isBlank_of_isAsciiBlank (List.mem_takeWhile_imp hc)),
    List.takeWhile_append_dropWhile.symm⟩

theorem Delimits.padded (hp : Delimits p) : Delimits (padded p) :=
  delimits_blanks.bind fun _ => hp.bind fun a => delimits_blanks.bind fun _ => delimits_pure a

theorem delimits_notNext (test : Char → Bool) : Delimits (notNext test) := by
  intro s a t h
  refine ⟨[], .nil, ?_⟩
  rw [notNext.eq_def] at h
  split at h
  · cases h
    rfl
  · split at h <;> cases h
    rfl

theorem Delimits.maybe (hp : Delimits p) : Delimits (maybe p) := by
  intro s o t h
  cases hs : p s with
  | none =>
    rw [maybe_of_none hs] at h
    cases h
    exact ⟨[], .nil, rfl⟩
  | some x =>
    rw [maybe_of_some hs] at h
    cases h
    exact hp s x.1 x.2 hs

theorem Delimits.many (hp : Delimits p) : Delimits (many p) := by
  have run (fuel : Nat) : ∀ s, ∃ read, Delimited read ∧ s = read ++ (manyUpTo p fuel s).2 := by
    induction fuel with
    | zero => exact fun s => ⟨[], .nil, rfl⟩
    | succ fuel ih =>
      intro s
      rw [manyUpTo]
      split
      · exact ⟨[], .nil, rfl⟩
      · next a t h =>
        obtain ⟨first, hfirst, rfl⟩ := hp s a t h
        obtain ⟨others, hothers, heq⟩ := ih t
        refine ⟨first ++ others, hfirst.append hothers, ?_⟩
        rw [List.append_assoc]
        exact congrArg (first ++ ·) heq
  intro s as t h
  obtain ⟨read, hread, heq⟩ := run s.length s
  rw [Option.some.inj h] at heq
  exact ⟨read, hread, heq⟩

theorem Delimits.sepBy {separator : Scan β} (hp : Delimits p) (hs : Delimits separator) :
    Delimits (sepBy p separator) := by
  refine Delimits.orElse ?_ (delimits_pure [])
  exact hp.bind fun a => (hs.seqRight hp).many.bind fun _ => delimits_pure _

end Text.Scan

/-! ### The grammar -/

namespace Expr.Grammar

/-- Neither quotes nor braces stand in a name. -/
theorem isOrdinary_of_isNameChar (h : isNameChar c = true) : IsOrdinary c := by
  have hall : ['\'', '"', '\x7b', '\x7d'].all (!isNameChar ·) = true := by decide +kernel
  have hspecial (d : Char) (hd : d ∈ ['\'', '"', '\x7b', '\x7d']) : isNameChar d = false := by
    simpa using List.all_eq_true.mp hall d hd
  constructor
  · rintro (rfl | rfl) <;> simp [hspecial] at h
  · rintro (rfl | rfl) <;> simp [hspecial] at h

theorem isOrdinary_of_isDigit (h : c.isDigit = true) : IsOrdinary c := by
  constructor
  · rintro (rfl | rfl) <;> simp at h
  · rintro (rfl | rfl) <;> simp at h

theorem delimits_localName : Delimits localName :=
  (delimits_takeWhile1 fun _ h => isOrdinary_of_isNameChar (isNameChar_of_isNameStart h)).bind fun _ =>
    (delimits_takeWhile fun _ => isOrdinary_of_isNameChar).bind fun _ => delimits_pure _

theorem delimits_name : Delimits name :=
  delimits_localName.bind fun _ =>
    ((delimits_char (by decide)).seqRight delimits_localName).maybe.bind fun _ => delimits_pure _

theorem delimits_digits : Delimits digits := delimits_takeWhile1 fun _ => isOrdinary_of_isDigit

theorem delimits_numberText : Delimits numberText := by
  refine Delimits.orElse ?_ ?_
  · exact delimits_digits.bind fun _ =>
      ((delimits_char (by decide)).seqRight delimits_digits.maybe).maybe.bind fun _ => delimits_pure _
  · exact (delimits_char (by decide)).bind fun _ => delimits_digits.bind fun _ => delimits_pure _

theorem delimits_number : Delimits number := by
  refine delimits_numberText.bind fun text => ?_
  cases Decimal.readFloat text with
  | none => exact delimits_failure
  | some x => exact delimits_pure x

/-- A string literal is a pair of quotes with a text between them. -/
theorem delimits_quotedBy (hquote : IsQuote quote) : Delimits (quotedBy quote) := by
  intro s a t h
  rw [quotedBy, bind_apply, Option.bind_eq_some_iff] at h
  obtain ⟨⟨_, u⟩, hopen, h⟩ := h
  obtain rfl := eq_cons_of_char hopen
  rw [bind_apply, takeWhile, Option.bind_some, bind_apply, Option.bind_eq_some_iff] at h
  obtain ⟨⟨_, v⟩, hclose, h⟩ := h
  have hsplit : u.takeWhile (· != quote) ++ quote :: v = u := by
    rw [← eq_cons_of_char hclose, List.takeWhile_append_dropWhile]
  cases h
  refine ⟨quote :: (u.takeWhile (· != quote) ++ [quote]), .literal hquote (fun hmem => ?_) .nil, ?_⟩
  · simpa using List.mem_takeWhile_imp hmem
  · rw [List.cons_append, List.append_assoc, List.singleton_append, hsplit]

theorem delimits_literal : Delimits literal :=
  (delimits_quotedBy (by decide)).orElse (delimits_quotedBy (by decide))

theorem delimits_variableName : Delimits variableName :=
  (delimits_char (by decide)).seqRight delimits_name

theorem delimits_keyword {word : String} (op : BinaryOp) (h : word.toList.all (IsOrdinary ·) = true) :
    Delimits (keyword word op) :=
  (delimits_word h).bind fun _ => (delimits_notNext _).bind fun _ => delimits_pure op

theorem delimits_sign {signs : String} (op : BinaryOp) (h : signs.toList.all (IsOrdinary ·) = true) :
    Delimits (sign signs op) :=
  (delimits_word h).bind fun _ => delimits_pure op

theorem delimits_chain {op : Scan BinaryOp} {operand : Scan Expr} (ho : Delimits op)
    (h : Delimits operand) : Delimits (chain op operand) :=
  h.bind fun _ =>
    (Delimits.many (ho.padded.bind fun _ => h.bind fun _ => delimits_pure _)).bind fun _ =>
      delimits_pure _

theorem delimits_levels : ∀ op ∈ levels, Delimits op := by
  simp only [levels, List.forall_mem_cons, List.not_mem_nil, IsEmpty.forall_iff, implies_true, and_true]
  refine ⟨delimits_keyword _ (by decide), delimits_keyword _ (by decide), ?_, ?_, ?_, ?_⟩
  · exact (delimits_sign _ (by decide)).orElse (delimits_sign _ (by decide))
  · exact (delimits_sign _ (by decide)).orElse ((delimits_sign _ (by decide)).orElse
      ((delimits_sign _ (by decide)).orElse (delimits_sign _ (by decide))))
  · exact (delimits_sign _ (by decide)).orElse (delimits_sign _ (by decide))
  · exact (delimits_sign _ (by decide)).orElse
      ((delimits_keyword _ (by decide)).orElse (delimits_keyword _ (by decide)))

theorem delimits_nodeTest : Delimits nodeTest := by
  refine Delimits.orElse ?_ (Delimits.orElse ?_ (delimits_name.map _))
  · exact (delimits_char (by decide)).seqRight (delimits_pure _)
  · refine Delimits.bind (Delimits.orElse ?_ ?_) fun _ => ?_
    · exact (delimits_word (by decide)).seqRight (delimits_pure _)
    · exact (delimits_word (by decide)).seqRight (delimits_pure _)
    · exact (delimits_char (by decide)).padded.bind fun _ =>
        (delimits_char (by decide)).bind fun _ => delimits_pure _

theorem delimits_stepHead : Delimits stepHead := by
  refine Delimits.orElse ?_ (Delimits.orElse ?_ (Delimits.orElse ?_ ?_))
  · exact (delimits_word (by decide)).seqRight (delimits_pure _)
  · exact (delimits_char (by decide)).seqRight (delimits_pure _)
  · exact (delimits_char (by decide)).bind fun _ => delimits_nodeTest.bind fun _ => delimits_pure _
  · exact delimits_nodeTest.bind fun _ => delimits_pure _

section Nested

variable {nested : Scan Expr} (h : Delimits nested)

include h

theorem delimits_predicate : Delimits (predicate nested) :=
  (delimits_char (by decide)).padded.bind fun _ => h.bind fun _ =>
    (delimits_char (by decide)).padded.bind fun _ => delimits_pure _

theorem delimits_step : Delimits (step nested) :=
  delimits_stepHead.bind fun _ => (delimits_predicate h).many.bind fun _ => delimits_pure _

theorem delimits_nextSteps : Delimits (nextSteps nested) := by
  refine Delimits.orElse ?_ ?_
  · exact (delimits_word (by decide)).bind fun _ => (delimits_step h).bind fun _ => delimits_pure _
  · exact (delimits_char (by decide)).bind fun _ => (delimits_step h).bind fun _ => delimits_pure _

theorem delimits_pathHead : Delimits (pathHead nested) := by
  have hslash : Delimited ['/'] := .ordinary (by decide) .nil
  intro s x t hx
  unfold pathHead at hx
  split at hx
  · obtain ⟨read, hread, rfl⟩ := ((delimits_step h).map _) _ _ _ hx
    exact ⟨['/'] ++ (['/'] ++ read), hslash.append (hslash.append hread), rfl⟩
  · obtain ⟨read, hread, rfl⟩ := ((delimits_step h).maybe.map _) _ _ _ hx
    exact ⟨['/'] ++ read, hslash.append hread, rfl⟩
  · exact ((delimits_step h).map _) _ _ _ hx

theorem delimits_call : Delimits (call nested) := by
  refine delimits_name.bind fun f => ?_
  have hrest : Delimits (do
      Scan.blanks
      let _ ← Scan.char '('
      let args ← Scan.sepBy nested (Scan.padded (Scan.char ','))
      let _ ← Scan.padded (Scan.char ')')
      return Expr.call f args) :=
    delimits_blanks.bind fun _ => (delimits_char (by decide)).bind fun _ =>
      (h.sepBy (delimits_char (by decide)).padded).bind fun _ =>
        (delimits_char (by decide)).padded.bind fun _ => delimits_pure _
  dsimp only
  split
  · exact delimits_failure.bind fun _ => hrest
  · exact hrest

theorem delimits_parenthesized : Delimits (parenthesized nested) :=
  (delimits_char (by decide)).padded.bind fun _ => h.bind fun _ =>
    (delimits_char (by decide)).padded.bind fun _ => delimits_pure _

theorem delimits_primary : Delimits (primary nested) :=
  (delimits_variableName.map _).orElse <| (delimits_number.map _).orElse <|
    (delimits_literal.map _).orElse <| (delimits_call h).orElse (delimits_parenthesized h)

theorem delimits_path : Delimits (path nested) := by
  refine Delimits.bind ?_ fun _ => (delimits_nextSteps h).many.bind fun _ => delimits_pure _
  exact (delimits_primary h).orElse ((delimits_pathHead h).bind fun _ => delimits_pure _)

theorem delimits_unary : Delimits (unary nested) :=
  (delimits_char (by decide)).padded.maybe.bind fun _ =>
    (delimits_chain (delimits_sign _ (by decide)) (delimits_path h)).bind fun _ => delimits_pure _

theorem delimits_loosest : Delimits (loosest nested) := by
  have hlevels := delimits_levels
  unfold loosest
  generalize levels = ops at hlevels ⊢
  induction ops with
  | nil => exact delimits_unary h
  | cons op ops ih =>
    rw [List.forall_mem_cons] at hlevels
    exact delimits_chain hlevels.1 (ih hlevels.2)

end Nested

theorem delimits_expression (fuel : Nat) : Delimits (expression fuel) := by
  induction fuel with
  | zero => exact delimits_failure
  | succ fuel ih => exact delimits_loosest ih

end Expr.Grammar

/-! ### Whole texts -/

/-- Blanks around a text do not matter. -/
theorem delimited_of_trimChars (h : Delimited (trimChars cs)) : Delimited cs := by
  have hblanks (ds : List Char) : Delimited (ds.takeWhile isBlank) :=
    delimited_of_forall fun c hc => isOrdinary_of_isBlank (List.mem_takeWhile_imp hc)
  have hbehind : cs.dropWhile isBlank = trimChars cs ++
      (((cs.dropWhile isBlank).reverse.takeWhile isBlank)).reverse := by
    rw [trimChars, ← List.reverse_append, List.takeWhile_append_dropWhile, List.reverse_reverse]
  rw [← List.takeWhile_append_dropWhile (p := isBlank) (l := cs), hbehind]
  refine (hblanks cs).append (h.append (delimited_of_forall fun c hc => ?_))
  exact isOrdinary_of_isBlank (List.mem_takeWhile_imp (List.mem_reverse.mp hc))

/-- **Expressions have braces in string literals only**, and their quotes come in pairs. -/
theorem delimited_of_parse {input : String} {e : Expr} (h : Expr.parse input = .ok e) :
    Delimited input.toList := by
  refine delimited_of_trimChars ?_
  obtain ⟨read, hread, heq⟩ :=
    (Expr.Grammar.delimits_expression _).padded _ _ _ ((Expr.parse_eq_ok_iff rfl).mp h)
  rw [List.append_nil] at heq
  rwa [heq]

end PageGrid
