import Mathlib.Tactic.ByContra
import PageGrid.Expr.Parser
import PageGrid.Proofs.Text.Blank

/-!
# Names, numerals and literals in expressions

For each kind of token a predicate says which texts are one, without a word on how they are read.
Its scanner reads every such text, up to a character that does not go on with it, and yields nothing
else. A literal needs no predicate: any text without the quote is one.

## Main definitions

* `IsNumeral` — digits with an optional point and fraction, or a point and a fraction;
* `IsLocalName`, `IsName` — names without prefix, and names.

## Main results

* `name_append`, `number_append`, `literal_append` — tokens are read;
* `yields_name`, `yields_number`, `yields_literal` — nothing else is.
-/

namespace PageGrid.Expr.Grammar

open Text Text.Scan

variable {c d quote : Char} {cs ds text rest s : List Char} {x : Float}

/-! ### Characters -/

/-- A character that passes a test is none that does not. -/
theorem ne_of_test {test : Char → Bool} (hc : test c = true) (hd : test d = false) : c ≠ d := by
  rintro rfl
  simp [hc] at hd

theorem isNameChar_of_isNameStart (h : isNameStart c = true) : isNameChar c = true := by
  simp only [isNameStart, isNameChar, Bool.or_eq_true] at h ⊢
  obtain h | h := h <;> simp [h]

theorem isNameStart_of_isNameChar (h : isNameChar c = false) : isNameStart c = false := by
  by_contra hs
  rw [isNameChar_of_isNameStart (by simpa using hs)] at h
  cases h

private theorem isNameStart_digitCode :
    ∀ n ∈ List.range' 48 10, isNameStart (Char.ofNat n) = false := by
  decide +kernel

/-- No name begins with a digit. -/
theorem isDigit_of_isNameStart (h : isNameStart c = true) : c.isDigit = false := by
  by_contra hd
  obtain ⟨low, high⟩ := toNat_of_isDigit (by simpa using hd)
  have code := isNameStart_digitCode c.toNat (by rw [List.mem_range'_1]; omega)
  rw [Char.ofNat_toNat, h] at code
  cases code

private theorem isNameChar_blankCode : ∀ n ∈ [0x9, 0xA, 0xB, 0xC, 0xD, 0x20, 0x85, 0xA0, 0x1680,
    0x2000, 0x2001, 0x2002, 0x2003, 0x2004, 0x2005, 0x2006, 0x2007, 0x2008, 0x2009, 0x200A, 0x2028,
    0x2029, 0x202F, 0x205F, 0x3000], isNameChar (Char.ofNat n) = false := by
  decide +kernel

/-- No blank stands in a name. -/
theorem isBlank_of_isNameChar (h : isNameChar c = true) : isBlank c = false := by
  by_contra hb
  simp only [Bool.not_eq_false, isBlank, Bool.or_eq_true, Bool.and_eq_true, decide_eq_true_eq,
    beq_iff_eq] at hb
  have code := isNameChar_blankCode c.toNat (by
    simp only [List.mem_cons, List.not_mem_nil, or_false]
    omega)
  rw [Char.ofNat_toNat, h] at code
  cases code

theorem isAsciiBlank_of_isBlank (h : isBlank c = false) : isAsciiBlank c = false := by
  by_contra ha
  rw [isBlank_of_isAsciiBlank (by simpa using ha)] at h
  cases h

/-! ### Names -/

/-- A text that is a name without prefix. -/
inductive IsLocalName : List Char → Prop
  | mk {c : Char} {cs : List Char} :
      isNameStart c = true → (∀ d ∈ cs, isNameChar d = true) → IsLocalName (c :: cs)

/-- A text that is a name: perhaps a prefix and a colon stand in front. -/
inductive IsName : List Char → Prop
  | plain {cs : List Char} : IsLocalName cs → IsName cs
  | qualified {cs ds : List Char} : IsLocalName cs → IsLocalName ds → IsName (cs ++ ':' :: ds)

theorem IsLocalName.isNameChar (h : IsLocalName cs) : ∀ c ∈ cs, isNameChar c = true := by
  cases h with
  | mk hc hcs => simpa using ⟨isNameChar_of_isNameStart hc, hcs⟩

theorem IsLocalName.exists_cons (h : IsLocalName cs) :
    ∃ c ds, cs = c :: ds ∧ isNameStart c = true := by
  cases h with
  | mk hc _ => exact ⟨_, _, rfl, hc⟩

theorem IsName.exists_cons (h : IsName cs) : ∃ c ds, cs = c :: ds ∧ isNameStart c = true := by
  cases h with
  | plain h => exact h.exists_cons
  | qualified h _ =>
    obtain ⟨c, ds, rfl, hc⟩ := h.exists_cons
    exact ⟨c, _, rfl, hc⟩

/-- A name followed by anything begins like a name. -/
theorem IsName.ahead (h : IsName cs) : Ahead (isNameStart · = true) (cs ++ rest) := by
  obtain ⟨c, ds, rfl, hc⟩ := h.exists_cons
  simpa using hc

theorem IsName.isNameChar_or_colon (h : IsName cs) : ∀ c ∈ cs, isNameChar c = true ∨ c = ':' := by
  cases h with
  | plain h => exact fun c hc => .inl (h.isNameChar c hc)
  | qualified h h' =>
    intro c hc
    simp only [List.mem_append, List.mem_cons] at hc
    obtain hc | rfl | hc := hc
    · exact .inl (h.isNameChar c hc)
    · exact .inr rfl
    · exact .inl (h'.isNameChar c hc)

/-- The whole name is read, although its beginning is read by a narrower test. -/
theorem localName_append (h : IsLocalName cs) (hr : Ahead (isNameChar · = false) rest) :
    localName (cs ++ rest) = some (cs, rest) := by
  have hr' : Ahead (isNameStart · = false) rest := hr.mono fun _ => isNameStart_of_isNameChar
  obtain ⟨c, ds, rfl, hc⟩ := h.exists_cons
  have first : Scan.takeWhile1 isNameStart (c :: (ds ++ rest)) =
      some (c :: ds.takeWhile isNameStart, ds.dropWhile isNameStart ++ rest) := by
    simp only [takeWhile1, List.takeWhile_cons_of_pos hc, List.dropWhile_cons_of_pos hc,
      takeWhile_append_of_ahead hr', dropWhile_append_of_ahead hr']
  have others : Scan.takeWhile isNameChar (ds.dropWhile isNameStart ++ rest) =
      some (ds.dropWhile isNameStart, rest) :=
    takeWhile_append (fun d hd => h.isNameChar d
      (List.mem_cons_of_mem c ((List.dropWhile_sublist _).mem hd))) hr
  simp [localName, first, others]

theorem localName_eq_none (h : Ahead (isNameStart · = false) s) : localName s = none := by
  simp [localName, takeWhile1_eq_none h]

theorem yields_localName : Yields localName IsLocalName := by
  refine (yields_takeWhile1 _).bind fun first hfirst => ?_
  refine (yields_takeWhile _).bind fun others ho => yields_pure ?_
  obtain ⟨hne, hall⟩ := hfirst
  cases first with
  | nil => exact absurd rfl hne
  | cons c cs =>
    refine .mk (hall c (by simp)) fun d hd => ?_
    obtain hd | hd := List.mem_append.mp hd
    · exact isNameChar_of_isNameStart (hall d (by simp [hd]))
    · exact ho d hd

theorem name_append (h : IsName cs) (hr : Ahead (fun c => isNameChar c = false ∧ c ≠ ':') rest) :
    name (cs ++ rest) = some (String.ofList cs, rest) := by
  have hrest : Ahead (isNameChar · = false) rest := hr.mono fun _ => And.left
  cases h with
  | plain h =>
    have second : Scan.maybe (Scan.char ':' *> localName) rest = some (none, rest) :=
      maybe_of_none (by simp [char_eq_none (hr.mono fun _ => And.right)])
    simp [name, localName_append h hrest, second]
  | @qualified cs ds h h' =>
    have first : localName (cs ++ ':' :: (ds ++ rest)) = some (cs, ':' :: (ds ++ rest)) :=
      localName_append h (Ahead.cons_iff.mpr (by decide))
    have second : Scan.maybe (Scan.char ':' *> localName) (':' :: (ds ++ rest)) =
        some (some ds, rest) :=
      maybe_of_some (by simp [localName_append h' hrest])
    simp [name, first, second]

theorem name_eq_none (h : Ahead (isNameStart · = false) s) : name s = none := by
  simp [name, localName_eq_none h]

theorem yields_name : Yields name fun n => IsName n.toList := by
  refine yields_localName.bind fun first hfirst => ?_
  refine (yields_localName.seqRight.maybe).bind fun second hsecond => yields_pure ?_
  cases second with
  | none => simpa using IsName.plain hfirst
  | some second => simpa using IsName.qualified hfirst (hsecond second rfl)

/-! ### Numerals -/

/-- At least one digit, and nothing else. -/
def IsDigits (cs : List Char) : Prop := cs ≠ [] ∧ ∀ c ∈ cs, c.isDigit = true

/-- A text that is a number: digits, perhaps with a point and a fraction, which may be empty, or a
point and a fraction. -/
inductive IsNumeral : List Char → Prop
  | whole {ds : List Char} : IsDigits ds → IsNumeral ds
  | point {ds fs : List Char} :
      IsDigits ds → (∀ c ∈ fs, c.isDigit = true) → IsNumeral (ds ++ '.' :: fs)
  | fraction {fs : List Char} : IsDigits fs → IsNumeral ('.' :: fs)

/-- Digits and points are all that a numeral has. -/
theorem IsNumeral.isDigit_or_point (h : IsNumeral ds) : ∀ c ∈ ds, c.isDigit = true ∨ c = '.' := by
  cases h with
  | whole h => exact fun c hc => .inl (h.2 c hc)
  | point h hf =>
    intro c hc
    simp only [List.mem_append, List.mem_cons] at hc
    obtain hc | rfl | hc := hc
    · exact .inl (h.2 c hc)
    · exact .inr rfl
    · exact .inl (hf c hc)
  | fraction h =>
    intro c hc
    obtain rfl | hc := List.mem_cons.mp hc
    · exact .inr rfl
    · exact .inl (h.2 c hc)

/-- A numeral followed by anything begins like a numeral. -/
theorem IsNumeral.ahead (h : IsNumeral ds) :
    Ahead (fun c => c.isDigit = true ∨ c = '.') (ds ++ rest) := by
  have hne : ds ≠ [] := by
    cases h with
    | whole h => exact h.1
    | point _ _ => simp
    | fraction _ => simp
  exact Ahead.append_left hne fun c hc => h.isDigit_or_point c (List.mem_of_mem_head? hc)

theorem digits_append (h : IsDigits ds) (hr : Ahead (Char.isDigit · = false) rest) :
    digits (ds ++ rest) = some (ds, rest) :=
  takeWhile1_append h.1 h.2 hr

theorem digits_eq_none (h : Ahead (Char.isDigit · = false) s) : digits s = none :=
  takeWhile1_eq_none h

/-- The fraction after a point, which may be empty. -/
theorem maybe_digits_append (h : ∀ c ∈ ds, c.isDigit = true)
    (hr : Ahead (Char.isDigit · = false) rest) :
    ∃ o, Scan.maybe digits (ds ++ rest) = some (o, rest) ∧ o.getD [] = ds := by
  cases ds with
  | nil => exact ⟨none, maybe_of_none (digits_eq_none hr), rfl⟩
  | cons c cs => exact ⟨some (c :: cs), maybe_of_some (digits_append ⟨by simp, h⟩ hr), rfl⟩

theorem numberText_append (h : IsNumeral ds)
    (hr : Ahead (fun c => c.isDigit = false ∧ c ≠ '.') rest) :
    numberText (ds ++ rest) = some (ds, rest) := by
  have hdigit : Ahead (Char.isDigit · = false) rest := hr.mono fun _ => And.left
  cases h with
  | whole h =>
    have fraction : Scan.maybe (Scan.char '.' *> Scan.maybe digits) rest = some (none, rest) :=
      maybe_of_none (by simp [char_eq_none (hr.mono fun _ => And.right)])
    simp [numberText, digits_append h hdigit, fraction]
  | @point ds fs h hf =>
    obtain ⟨o, ho, hfs⟩ := maybe_digits_append hf hdigit
    have whole : digits (ds ++ '.' :: (fs ++ rest)) = some (ds, '.' :: (fs ++ rest)) :=
      digits_append h (by simp)
    have fraction : Scan.maybe (Scan.char '.' *> Scan.maybe digits) ('.' :: (fs ++ rest)) =
        some (some o, rest) :=
      maybe_of_some (by simp [ho])
    simp [numberText, whole, fraction, hfs]
  | @fraction fs h =>
    have whole : digits ('.' :: (fs ++ rest)) = none := digits_eq_none (by simp)
    simp [numberText, whole, digits_append h hdigit]

theorem numberText_eq_none (h : Ahead (fun c => c.isDigit = false ∧ c ≠ '.') s) :
    numberText s = none := by
  simp [numberText, digits_eq_none (h.mono fun _ => And.left),
    char_eq_none (h.mono fun _ => And.right)]

/-- A point alone is no number. -/
theorem numberText_point_eq_none (h : Ahead (Char.isDigit · = false) s) :
    numberText ('.' :: s) = none := by
  simp [numberText, digits_eq_none (s := '.' :: s) (by simp), digits_eq_none h]

theorem yields_numberText : Yields numberText IsNumeral := by
  refine Yields.orElse ?_ ?_
  · refine (yields_takeWhile1 _).bind fun whole hwhole => ?_
    refine (((yields_takeWhile1 _).maybe).seqRight.maybe).bind fun fraction hfraction => ?_
    refine yields_pure ?_
    cases fraction with
    | none => simpa using IsNumeral.whole hwhole
    | some fraction =>
      cases fraction with
      | none =>
        have numeral : IsNumeral (whole ++ ['.']) := .point hwhole (by simp)
        simpa using numeral
      | some fs => simpa using IsNumeral.point hwhole (hfraction _ rfl fs rfl).2
  · exact (yields_true _).bind fun _ _ => (yields_takeWhile1 _).bind fun fs hfs =>
      yields_pure (.fraction hfs)

theorem number_append (h : IsNumeral ds) (hx : Decimal.readFloat ds = some x)
    (hr : Ahead (fun c => c.isDigit = false ∧ c ≠ '.') rest) :
    number (ds ++ rest) = some (x, rest) := by
  simp [number, numberText_append h hr, hx]

theorem yields_number :
    Yields number fun x => ∃ ds, IsNumeral ds ∧ Decimal.readFloat ds = some x := by
  refine yields_numberText.bind fun ds hds => ?_
  split
  · next x hx => exact yields_pure ⟨ds, hds, hx⟩
  · exact yields_failure

/-! ### Literals -/

theorem quotedBy_append (h : quote ∉ text) :
    quotedBy quote (quote :: (text ++ quote :: rest)) = some (String.ofList text, rest) := by
  have inside : Scan.takeWhile (· != quote) (text ++ quote :: rest) = some (text, quote :: rest) :=
    takeWhile_append (fun c hc => bne_iff_ne.mpr (by rintro rfl; exact h hc)) (by simp)
  simp [quotedBy, inside]

theorem literal_append (hq : quote = '\'' ∨ quote = '"') (h : quote ∉ text) :
    literal (quote :: (text ++ quote :: rest)) = some (String.ofList text, rest) := by
  obtain rfl | rfl := hq
  · simp [literal, quotedBy_append h]
  · have single : quotedBy '\'' ('"' :: (text ++ '"' :: rest)) = none := by
      simp [quotedBy, char_eq_none]
    simp [literal, single, quotedBy_append h]

theorem literal_eq_none (h : Ahead (fun c => c ≠ '\'' ∧ c ≠ '"') s) : literal s = none := by
  simp [literal, quotedBy, char_eq_none (h.mono fun _ => And.left),
    char_eq_none (h.mono fun _ => And.right)]

theorem yields_quotedBy (quote : Char) : Yields (quotedBy quote) (quote ∉ ·.toList) := by
  refine (yields_true _).bind fun _ _ => (yields_takeWhile _).bind fun cs hcs => ?_
  refine (yields_true _).bind fun _ _ => yields_pure ?_
  simpa using fun h => by simpa using hcs quote h

theorem yields_literal : Yields literal fun t => '\'' ∉ t.toList ∨ '"' ∉ t.toList :=
  ((yields_quotedBy _).mono fun _ => .inl).orElse ((yields_quotedBy _).mono fun _ => .inr)

/-! ### Variables -/

theorem variableName_append (h : IsName cs)
    (hr : Ahead (fun c => isNameChar c = false ∧ c ≠ ':') rest) :
    variableName ('$' :: (cs ++ rest)) = some (String.ofList cs, rest) := by
  simp [variableName, name_append h hr]

theorem variableName_eq_none (h : Ahead (· ≠ '$') s) : variableName s = none := by
  simp [variableName, char_eq_none h]

end PageGrid.Expr.Grammar
