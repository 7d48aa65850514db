import Mathlib.Data.List.Basic
import PageGrid.Json.Parser
import PageGrid.Json.Printer
import PageGrid.Proofs.Decimal
import PageGrid.Proofs.Text.Scan

/-!
# Numbers in JSON

A number is written without a needless zero in front, with a point only between digits, and with a sign in
its exponent. Such a text is read up to a character that does not go on with it, and what it stands for
depends on its parts alone.

A whole number that is kept exactly stands for itself. A float is read as some float: it is computed in two
roundings from its digits, which need not lead back to the float that was written.

## Main definitions

* `Json.Numeral` — the parts of a number as it is written;
* `Json.Numeral.ofInt`, `Json.Numeral.positional`, `Json.Numeral.scientific` — what numbers are written as.

## Main results

* `Json.numeral_append` — numbers are read;
* `Json.Numeral.chars_ofInt`, `Json.Numeral.value_ofInt` — whole numbers are written and read;
* `Json.exists_numeral_json` — floats are written as numbers with a fraction or an exponent.
-/

namespace PageGrid.Json

open Text (Ahead Scan)

variable {s rest : List Char}

/-- A character that does not go on with a number. -/
def EndsNumeral (c : Char) : Prop := c.isDigit = false ∧ c ≠ '.' ∧ c ≠ 'e' ∧ c ≠ 'E'

instance : DecidablePred EndsNumeral := fun _ => inferInstanceAs (Decidable (_ ∧ _))

/-- The digits of a whole number, without a needless zero in front. -/
inductive IsWhole : List Char → Prop
  | zero : IsWhole ['0']
  | digits {c : Char} {cs : List Char} : c ≠ '0' → (∀ d ∈ c :: cs, d.isDigit = true) → IsWhole (c :: cs)

/-- Digits, at least one. -/
def IsDigits (ds : List Char) : Prop := ds ≠ [] ∧ ∀ c ∈ ds, c.isDigit = true

/-- The parts of a number as it is written. -/
structure Numeral where
  negative : Bool
  whole : List Char
  fraction : Option (List Char)
  /-- The sign of the exponent, and its digits. -/
  exponent : Option (Char × List Char)
  isWhole : IsWhole whole
  isDigits_fraction : ∀ ds ∈ fraction, IsDigits ds
  sign_exponent : ∀ e ∈ exponent, e.1 = '+' ∨ e.1 = '-'
  isDigits_exponent : ∀ e ∈ exponent, IsDigits e.2

namespace Numeral

variable (t : Numeral)

/-- The text of a fraction. -/
def fractionChars : List Char := (t.fraction.map ('.' :: ·)).getD []

/-- The text of an exponent. -/
def exponentChars : List Char := (t.exponent.map fun e => 'e' :: e.1 :: e.2).getD []

/-- The text of a number. -/
def chars : List Char :=
  (if t.negative then ['-'] else []) ++ (t.whole ++ (t.fractionChars ++ t.exponentChars))

/-- The whole number in front of the fraction. -/
def wholeValue : Int :=
  if t.negative then -(Decimal.digitsValue t.whole : Int) else Decimal.digitsValue t.whole

/-- What the number stands for. -/
def value : Json :=
  if t.fraction.isNone && t.exponent.isNone && isExact t.wholeValue &&
      !(t.negative && t.wholeValue == 0) then
    .whole t.wholeValue
  else
    .number (floatOf t.negative t.whole (t.fraction.getD [])
      ((t.exponent.map fun e => exponentValue (e.1 :: e.2)).getD 0))

end Numeral

/-! ### The text of a number -/

theorem IsWhole.isDigit {whole : List Char} (h : IsWhole whole) : ∀ c ∈ whole, c.isDigit = true := by
  cases h with
  | zero => exact List.forall_mem_singleton.mpr rfl
  | digits _ hcs => exact hcs

theorem IsWhole.ahead {whole : List Char} (h : IsWhole whole) (s : List Char) :
    Ahead (Char.isDigit · = true) (whole ++ s) := by
  cases h with
  | zero => exact Ahead.cons_iff.mpr rfl
  | digits _ hcs => exact Ahead.cons_iff.mpr (hcs _ (List.mem_cons_self ..))

namespace Numeral

variable (t : Numeral)

/-- A number begins with a digit or a minus sign. -/
theorem ahead_chars (s : List Char) : Ahead (fun c => c.isDigit = true ∨ c = '-') (t.chars ++ s) := by
  rw [chars]
  split
  · exact Ahead.cons_iff.mpr (.inr rfl)
  · rw [List.nil_append, List.append_assoc]
    exact (t.isWhole.ahead _).mono fun _ => .inl

/-- The characters of a number. -/
theorem mem_chars {c : Char} (h : c ∈ t.chars) : c.isDigit = true ∨ c ∈ ['-', '+', '.', 'e'] := by
  rw [chars, List.mem_append, List.mem_append, List.mem_append] at h
  obtain h | h | h | h := h
  · split at h <;> simp_all
  · exact .inl (t.isWhole.isDigit c h)
  · rw [fractionChars] at h
    cases hfraction : t.fraction with
    | none => simp [hfraction] at h
    | some ds =>
      simp only [hfraction, Option.map_some, Option.getD_some, List.mem_cons] at h
      obtain rfl | h := h
      · exact .inr (by simp)
      · exact .inl ((t.isDigits_fraction ds hfraction).2 c h)
  · rw [exponentChars] at h
    cases hexponent : t.exponent with
    | none => simp [hexponent] at h
    | some e =>
      simp only [hexponent, Option.map_some, Option.getD_some, List.mem_cons] at h
      obtain rfl | rfl | h := h
      · exact .inr (by simp)
      · obtain hsign | hsign := t.sign_exponent e hexponent
        · exact .inr (by simp [hsign])
        · exact .inr (by simp [hsign])
      · exact .inl ((t.isDigits_exponent e hexponent).2 c h)

end Numeral

/-! ### The parts of a number -/

theorem notNext_of_ahead {test : Char → Bool} (h : Ahead (test · = false) s) :
    Scan.notNext test s = some ((), s) := by
  cases s with
  | nil => rfl
  | cons c s => simp_all [Scan.notNext]

theorem wholeDigits_append {whole : List Char} (h : IsWhole whole)
    (hs : Ahead (Char.isDigit · = false) s) : wholeDigits (whole ++ s) = some (whole, s) := by
  have hnext := notNext_of_ahead hs
  rw [wholeDigits, Scan.orElse_apply]
  cases h with
  | zero => simp [hnext]
  | @digits c cs hc hcs =>
    have hzero : Scan.char '0' (c :: (cs ++ s)) = none := Scan.char_eq_none (Ahead.cons_iff.mpr hc)
    have hrun := Scan.takeWhile1_append (List.cons_ne_nil c cs) hcs hs
    rw [List.cons_append] at hrun ⊢
    simp [hzero, Scan.notNext, hc, hrun]

theorem maybe_fraction_append (t : Numeral) (hs : Ahead (fun c => c.isDigit = false ∧ c ≠ '.') s) :
    Scan.maybe fraction (t.fractionChars ++ s) = some (t.fraction, s) := by
  obtain ⟨-, -, ds, -, -, hds, -, -⟩ := t
  cases ds with
  | none =>
    refine Scan.maybe_of_none ?_
    rw [fraction, Scan.seqRight_apply, Numeral.fractionChars]
    dsimp only [Option.map_none, Option.getD_none, List.nil_append]
    rw [Scan.char_eq_none (hs.mono fun _ => And.right)]
    rfl
  | some ds =>
    obtain ⟨hne, hdigits⟩ := hds ds rfl
    refine Scan.maybe_of_some ?_
    rw [fraction, Scan.seqRight_apply, Numeral.fractionChars]
    dsimp only [Option.map_some, Option.getD_some]
    rw [List.cons_append, Scan.char_cons, Option.bind_some,
      Scan.takeWhile1_append hne hdigits (hs.mono fun _ => And.left)]

theorem maybe_exponent_append (t : Numeral)
    (hs : Ahead (fun c => c.isDigit = false ∧ c ≠ 'e' ∧ c ≠ 'E') s) :
    Scan.maybe exponent (t.exponentChars ++ s) = some (t.exponent.map fun e => e.1 :: e.2, s) := by
  obtain ⟨-, -, -, e, -, -, hsign, hds⟩ := t
  rw [Numeral.exponentChars]
  cases e with
  | none =>
    refine Scan.maybe_of_none ?_
    dsimp only [Option.map_none, Option.getD_none, List.nil_append]
    rw [exponent, Scan.bind_apply, Scan.orElse_apply, Scan.char_eq_none (hs.mono fun _ h => h.2.1),
      Scan.char_eq_none (hs.mono fun _ h => h.2.2)]
    rfl
  | some e =>
    obtain ⟨sign, ds⟩ := e
    obtain ⟨hne, hdigits⟩ := hds _ rfl
    have hrun := Scan.takeWhile1_append hne hdigits (hs.mono fun _ => And.left)
    have hmark : Scan.maybe (Scan.char '+' <|> Scan.char '-') (sign :: (ds ++ s)) =
        some (some sign, ds ++ s) := by
      obtain rfl | rfl := hsign _ rfl
      · rfl
      · rfl
    refine Scan.maybe_of_some ?_
    dsimp only [Option.map_some, Option.getD_some]
    rw [List.cons_append, List.cons_append, exponent, Scan.bind_apply, Scan.orElse_apply, Scan.char_cons]
    dsimp only [Option.some_or, Option.bind_some]
    rw [Scan.bind_apply, hmark, Option.bind_some, Scan.bind_apply, hrun]
    rfl

theorem ahead_fractionChars {P : Char → Prop} (t : Numeral) (hpoint : P '.') (hs : Ahead P s) :
    Ahead P (t.fractionChars ++ s) := by
  rw [Numeral.fractionChars]
  cases t.fraction with
  | none => exact hs
  | some ds => exact Ahead.cons_iff.mpr hpoint

theorem ahead_exponentChars {P : Char → Prop} (t : Numeral) (hletter : P 'e') (hs : Ahead P s) :
    Ahead P (t.exponentChars ++ s) := by
  rw [Numeral.exponentChars]
  cases t.exponent with
  | none => exact hs
  | some e => exact Ahead.cons_iff.mpr hletter

/-- The sign is read, or there is none where a digit is ahead. -/
theorem maybe_sign_append (negative : Bool) (hs : Ahead (Char.isDigit · = true) s) :
    Scan.maybe (Scan.char '-') ((if negative then ['-'] else []) ++ s) =
      some (if negative then some '-' else none, s) := by
  cases negative with
  | false =>
    refine Scan.maybe_of_none (Scan.char_eq_none (hs.mono ?_))
    rintro c hc rfl
    cases hc
  | true => rfl

/-- **Numbers are read** up to a character that does not go on with them. -/
theorem numeral_append (t : Numeral) (h : Ahead EndsNumeral rest) :
    numeral (t.chars ++ rest) = some (t.value, rest) := by
  have hexponent := maybe_exponent_append t (h.mono fun c hc => ⟨hc.1, hc.2.2⟩)
  have hfraction := maybe_fraction_append t (s := t.exponentChars ++ rest)
    (ahead_exponentChars t ⟨rfl, by decide⟩ (h.mono fun c hc => ⟨hc.1, hc.2.1⟩))
  have hwhole := wholeDigits_append (s := t.fractionChars ++ (t.exponentChars ++ rest)) t.isWhole
    (ahead_fractionChars t rfl (ahead_exponentChars t rfl (h.mono fun c hc => hc.1)))
  have hsign := maybe_sign_append t.negative
    (t.isWhole.ahead (t.fractionChars ++ (t.exponentChars ++ rest)))
  have hisSome : (if t.negative then some '-' else none).isSome = t.negative := by
    cases t.negative <;> rfl
  rw [Numeral.chars, List.append_assoc, List.append_assoc, List.append_assoc]
  simp only [numeral, Scan.bind_apply, hsign, hwhole, hfraction, hexponent, Option.bind_some, hisSome,
    Option.isNone_map, Option.map_map, Function.comp_def]
  rw [← Numeral.wholeValue, Numeral.value]
  split <;> rfl

/-- There is no number where neither a digit nor a minus sign is ahead. -/
theorem numeral_eq_none (h : Ahead (fun c => c.isDigit = false ∧ c ≠ '-') s) : numeral s = none := by
  have hsign : Scan.maybe (Scan.char '-') s = some (none, s) :=
    Scan.maybe_of_none (Scan.char_eq_none (h.mono fun _ => And.right))
  have hzero : Ahead (· ≠ '0') s := by
    refine h.mono ?_
    rintro c ⟨hc, -⟩ rfl
    cases hc
  have hnext : Scan.notNext (· == '0') s = some ((), s) :=
    notNext_of_ahead (hzero.mono fun _ hc => by simpa using hc)
  have hrun : Scan.takeWhile1 Char.isDigit s = none := Scan.takeWhile1_eq_none (h.mono fun _ => And.left)
  have hwhole : wholeDigits s = none := by
    rw [wholeDigits, Scan.orElse_apply, Scan.bind_apply, Scan.char_eq_none hzero, Option.bind_none,
      Option.none_or, Scan.bind_apply, hnext, Option.bind_some, hrun]
  rw [numeral, Scan.bind_apply, hsign, Option.bind_some, Scan.bind_apply, hwhole, Option.bind_none]

/-! ### Whole numbers -/

theorem head?_digits_ne {n : Nat} (h : n ≠ 0) : (Decimal.digits n).head? ≠ some '0' := by
  induction n using Nat.strongRecOn with
  | ind n ih =>
    rw [Decimal.digits]
    obtain hlt | hle := Nat.lt_or_ge n 10
    · have hdigit : ∀ m < 10, m ≠ 0 → Nat.digitChar m ≠ '0' := by decide
      rw [Nat.toDigits_of_lt_base hlt]
      simpa using hdigit n hlt h
    · rw [Nat.toDigits_of_base_le (by decide) hle, List.head?_append_of_ne_nil _ Nat.toDigits_ne_nil]
      exact ih (n / 10) (by omega) (by omega)

theorem isWhole_of_head? {ds : List Char} (hne : ds ≠ []) (hds : ∀ c ∈ ds, c.isDigit = true)
    (hhead : ds.head? ≠ some '0') : IsWhole ds := by
  cases ds with
  | nil => exact absurd rfl hne
  | cons c cs => exact .digits (by simpa using hhead) hds

theorem isWhole_digits (n : Nat) : IsWhole (Decimal.digits n) := by
  obtain rfl | hn := eq_or_ne n 0
  · exact .zero
  · exact isWhole_of_head? (Decimal.digits_ne_nil n) (fun c => Decimal.isDigit_of_mem_digits)
      (head?_digits_ne hn)

/-- A whole number as a number without fraction and exponent. -/
def Numeral.ofInt (n : Int) : Numeral where
  negative := decide (n < 0)
  whole := Decimal.digits n.natAbs
  fraction := none
  exponent := none
  isWhole := isWhole_digits _
  isDigits_fraction := nofun
  sign_exponent := nofun
  isDigits_exponent := nofun

/-- **Whole numbers are written as numbers.** -/
theorem Numeral.chars_ofInt (n : Int) : (Numeral.ofInt n).chars = (toString n).toList := by
  cases n with
  | ofNat n =>
    have htext : (toString (Int.ofNat n)).toList = Decimal.digits n := String.toList_ofList
    rw [htext]
    simp [ofInt, chars, fractionChars, exponentChars]
  | negSucc n =>
    have htext : (toString (Int.negSucc n)).toList = '-' :: Decimal.digits (n + 1) := by
      change ("-" ++ (n + 1).repr).toList = _
      rw [String.toList_append]
      exact congrArg ('-' :: ·) String.toList_ofList
    rw [htext]
    simp [ofInt, chars, fractionChars, exponentChars, Int.negSucc_lt_zero]

theorem Numeral.wholeValue_ofInt (n : Int) : (Numeral.ofInt n).wholeValue = n := by
  rw [wholeValue, ofInt, Decimal.digitsValue_digits]
  simp only [decide_eq_true_eq]
  split <;> omega

/-- A whole number that is kept exactly stands for itself. -/
theorem Numeral.value_ofInt {n : Int} (h : isExact n = true) : (Numeral.ofInt n).value = .whole n := by
  rw [value, wholeValue_ofInt]
  simp [ofInt, h]
  omega

/-! ### Floats -/

/-- The digits in front of the point of a decimal are a whole number. -/
theorem isWhole_positional (d : Decimal.Scaled) : IsWhole d.positional.1 := by
  have hwhole := (Decimal.isNumeral_positional d).whole
  have hne := Decimal.positional_ne_nil d
  rw [Decimal.Scaled.positional] at hwhole hne ⊢
  dsimp only at hwhole hne ⊢
  split_ifs at hwhole hne ⊢ with hexponent hcoefficient hplaces
  all_goals dsimp only at hwhole hne ⊢
  · exact .zero
  · refine isWhole_of_head? hne hwhole ?_
    rw [List.head?_append_of_ne_nil _ (Decimal.digits_ne_nil _)]
    exact head?_digits_ne hcoefficient
  · refine isWhole_of_head? hne hwhole ?_
    rw [List.head?_take, if_neg (by omega)]
    refine head?_digits_ne fun hzero => ?_
    have hlength : (Decimal.digits 0).length = 1 := rfl
    rw [hzero] at hplaces
    omega
  · exact .zero

/-- The digits of a fraction, of which there is at least one. -/
theorem isDigits_orZero {ds : List Char} (h : ∀ c ∈ ds, c.isDigit = true) :
    IsDigits (if ds.isEmpty then ['0'] else ds) := by
  cases ds with
  | nil => exact ⟨by simp, List.forall_mem_singleton.mpr rfl⟩
  | cons c ds => exact ⟨by simp, h⟩

namespace Numeral

/-- A decimal as a number with a point. -/
def positional (negative : Bool) (d : Decimal.Scaled) : Numeral where
  negative := negative
  whole := d.positional.1
  fraction := some (if d.positional.2.isEmpty then ['0'] else d.positional.2)
  exponent := none
  isWhole := isWhole_positional d
  isDigits_fraction := by simpa using isDigits_orZero (Decimal.isNumeral_positional d).fraction
  sign_exponent := nofun
  isDigits_exponent := nofun

/-- A decimal as a number with an exponent. -/
def scientific (negative : Bool) (d : Decimal.Scaled) (h : d.coefficient ≠ 0) : Numeral where
  negative := negative
  whole := (Decimal.digits d.coefficient).take 1
  fraction :=
    if ((Decimal.digits d.coefficient).drop 1).isEmpty then none
    else some ((Decimal.digits d.coefficient).drop 1)
  exponent := some (if d.leadingExponent < 0 then '-' else '+', Decimal.digits d.leadingExponent.natAbs)
  isWhole := by
    refine isWhole_of_head? ?_ (fun c hc => Decimal.isDigit_of_mem_digits (List.mem_of_mem_take hc)) ?_
    · simpa [List.take_eq_nil_iff] using Decimal.digits_ne_nil _
    · simpa [List.head?_take] using head?_digits_ne h
  isDigits_fraction := by
    intro ds hds
    obtain ⟨hne, rfl⟩ := by simpa only [Option.mem_def, Option.ite_none_left_eq_some, Option.some.injEq] using hds
    exact ⟨by simpa using hne, fun c hc => Decimal.isDigit_of_mem_digits (List.mem_of_mem_drop hc)⟩
  sign_exponent := by
    simp only [Option.mem_def, Option.some.injEq, forall_eq']
    split <;> simp
  isDigits_exponent := by
    simp only [Option.mem_def, Option.some.injEq, forall_eq']
    exact ⟨Decimal.digits_ne_nil _, fun c => Decimal.isDigit_of_mem_digits⟩

theorem fractionChars_scientific {negative : Bool} {d : Decimal.Scaled} (h : d.coefficient ≠ 0) :
    (scientific negative d h).fractionChars =
      if ((Decimal.digits d.coefficient).drop 1).isEmpty then []
      else '.' :: (Decimal.digits d.coefficient).drop 1 := by
  rw [fractionChars, scientific]
  dsimp only
  split <;> rfl

/-- A number with a fraction or an exponent is a float. -/
theorem exists_value_eq_number (t : Numeral) (h : t.fraction.isSome ∨ t.exponent.isSome) :
    ∃ y, t.value = .number y := by
  have hnone : (t.fraction.isNone && t.exponent.isNone) = false := by
    obtain h | h := h
    · rw [Option.isNone_eq_false_iff.mpr h, Bool.false_and]
    · rw [Option.isNone_eq_false_iff.mpr h, Bool.and_false]
  rw [value, hnone]
  exact ⟨_, rfl⟩

end Numeral

/-- **Floats are written as numbers**, and stand for some float. -/
theorem exists_numeral_json (x : Float) :
    ∃ t : Numeral, t.chars = (Decimal.json x).toList ∧ ∃ y, t.value = .number y := by
  let d := Decimal.shortest .even x
  let cs := Decimal.digits d.coefficient
  -- the two layouts of the writer, with the sign written out
  have hjson : Decimal.json x = String.ofList (
      if d.coefficient = 0 ∨ (-5 ≤ d.leadingExponent ∧ d.leadingExponent < 16) then
        (if Decimal.signBit x then ['-'] else []) ++ d.positional.1 ++
          '.' :: (if d.positional.2.isEmpty then ['0'] else d.positional.2)
      else
        (if Decimal.signBit x then ['-'] else []) ++ cs.take 1 ++
          (if (cs.drop 1).isEmpty then [] else '.' :: cs.drop 1) ++
          'e' :: (if d.leadingExponent < 0 then '-' else '+') :: Decimal.digits d.leadingExponent.natAbs) :=
    (rfl)
  rw [hjson, String.toList_ofList]
  split
  · refine ⟨.positional (Decimal.signBit x) d, ?_, Numeral.exists_value_eq_number _ (.inl rfl)⟩
    simp [Numeral.chars, Numeral.fractionChars, Numeral.exponentChars, Numeral.positional]
  · next hscientific =>
    rw [not_or] at hscientific
    refine ⟨.scientific (Decimal.signBit x) d hscientific.1, ?_,
      Numeral.exists_value_eq_number _ (.inr rfl)⟩
    rw [Numeral.chars, Numeral.fractionChars_scientific]
    simp [Numeral.exponentChars, Numeral.scientific, cs]

end PageGrid.Json
