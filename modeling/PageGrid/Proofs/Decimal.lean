import Mathlib.Data.List.TakeWhile
import PageGrid.Decimal.Notation
import PageGrid.Decimal.Reader
import PageGrid.Proofs.Text.Blank

/-!
# Written numbers can be read

A whole number is read from its digits, and a numeral, that is digits with or without a point, as the float
that is nearest to it. The plain form of a float is a numeral or one of the words that stand for the values
without digits, so there is always a float to be read from it. That it is the same one is not proved here.

## Main definitions

* `numeral`, `numeralValue` — the text of a numeral, and the float that it is read as.

## Main results

* `readNat_digits` — whole numbers are read as they were written;
* `readFloat_numeral` — numerals are read;
* `isSome_readFloat_plain` — the plain form of any number is read as some number.
-/

namespace PageGrid.Decimal

/-! ### Whole numbers -/

theorem digitsValue_digits (n : Nat) : digitsValue (digits n) = n :=
  Nat.ofDigitChars_toDigits (by decide) (by decide)

theorem digits_ne_nil (n : Nat) : digits n ≠ [] := Nat.toDigits_ne_nil

theorem isDigit_of_mem_digits {c : Char} {n : Nat} (h : c ∈ digits n) : c.isDigit = true :=
  Nat.isDigit_of_mem_toDigits (by decide) (by decide) h

/-- Digits are read as the number that they stand for, if it is within the limit. -/
theorem readNat_of_isDigit {limit : Nat} {cs : List Char} (hne : cs ≠ [])
    (hcs : ∀ c ∈ cs, c.isDigit = true) (h : digitsValue cs ≤ limit) :
    readNat limit cs = some (digitsValue cs) := by
  have hall : cs.all Char.isDigit = true := List.all_eq_true.mpr hcs
  cases cs with
  | nil => exact absurd rfl hne
  | cons c cs =>
    have hsign : c ≠ '+' := by
      rintro rfl
      exact absurd (hcs '+' (List.mem_cons_self ..)) (by decide)
    simp [readNat, hsign, hall, h]

/-- A number within the limit is read from its digits. -/
theorem readNat_digits {limit n : Nat} (h : n ≤ limit) : readNat limit (digits n) = some n := by
  have hread : readNat limit (digits n) = some (digitsValue (digits n)) :=
    readNat_of_isDigit (digits_ne_nil n) (fun c => isDigit_of_mem_digits) (by rwa [digitsValue_digits])
  rwa [digitsValue_digits] at hread

/-! ### Numerals -/

/-- Digits on both sides of a point, of which those on one side may be missing. -/
structure IsNumeral (whole fraction : List Char) : Prop where
  ne_nil : whole ≠ [] ∨ fraction ≠ []
  whole : ∀ c ∈ whole, c.isDigit = true
  fraction : ∀ c ∈ fraction, c.isDigit = true

theorem isDigit_of_mem_zeros {c : Char} {n : Nat} (h : c ∈ zeros n) : c.isDigit = true := by
  rw [List.eq_of_mem_replicate h]
  rfl

theorem positional_ne_nil (d : Scaled) : d.positional.1 ≠ [] := by
  rw [Scaled.positional]
  dsimp only
  split
  · split
    · exact List.cons_ne_nil _ _
    · exact List.append_ne_nil_of_left_ne_nil (digits_ne_nil _) _
  · split
    · next hplaces =>
      rw [ne_eq, List.take_eq_nil_iff, not_or]
      exact ⟨by omega, digits_ne_nil _⟩
    · exact List.cons_ne_nil _ _

/-- A decimal is written out in digits. -/
theorem isNumeral_positional (d : Scaled) : IsNumeral d.positional.1 d.positional.2 := by
  have hdigits : ∀ c ∈ digits d.coefficient, c.isDigit = true := fun c => isDigit_of_mem_digits
  have hzero : ∀ c ∈ ['0'], c.isDigit = true := List.forall_mem_singleton.mpr rfl
  refine ⟨.inl (positional_ne_nil d), ?_, ?_⟩
  · rw [Scaled.positional]
    dsimp only
    split_ifs with hexponent hcoefficient hplaces
    · exact hzero
    · rw [List.forall_mem_append]
      exact ⟨hdigits, fun c => isDigit_of_mem_zeros⟩
    · exact fun c hc => hdigits c (List.mem_of_mem_take hc)
    · exact hzero
  · rw [Scaled.positional]
    dsimp only
    split_ifs with hexponent hcoefficient hplaces
    · exact nofun
    · exact nofun
    · exact fun c hc => hdigits c (List.mem_of_mem_drop hc)
    · rw [List.forall_mem_append]
      exact ⟨fun c => isDigit_of_mem_zeros, hdigits⟩

variable {whole fraction : List Char}

/-- The text of a numeral. -/
def numeral (whole fraction : List Char) : List Char :=
  whole ++ if fraction.isEmpty then [] else '.' :: fraction

/-- The float nearest to a numeral. -/
def numeralValue (whole fraction : List Char) : Float :=
  ofDecimal (digitsValue (whole ++ fraction)) (-fraction.length)

/-- A numeral begins with a digit or a point. -/
theorem exists_numeral_eq_cons (h : IsNumeral whole fraction) :
    ∃ c cs, numeral whole fraction = c :: cs ∧ (c.isDigit = true ∨ c = '.') := by
  cases whole with
  | cons c whole => exact ⟨c, _, rfl, .inl (h.whole c (List.mem_cons_self ..))⟩
  | nil =>
    cases fraction with
    | nil => exact absurd h.ne_nil (by simp)
    | cons d fraction => exact ⟨'.', _, rfl, .inr rfl⟩

theorem readMagnitude_numeral (h : IsNumeral whole fraction) :
    readMagnitude (numeral whole fraction) = some (numeralValue whole fraction) := by
  have htake (tail : List Char) :
      (whole ++ tail).takeWhile Char.isDigit = whole ++ tail.takeWhile Char.isDigit :=
    List.takeWhile_append_of_pos h.whole
  have hdrop (tail : List Char) :
      (whole ++ tail).dropWhile Char.isDigit = tail.dropWhile Char.isDigit :=
    List.dropWhile_append_of_pos h.whole
  cases fraction with
  | nil =>
    have hne : whole ≠ [] := by simpa using h.ne_nil
    rw [show numeral whole [] = whole ++ [] from rfl, readMagnitude, htake, hdrop]
    simp [hne, readExponent, numeralValue]
  | cons c cs =>
    have hall : (c :: cs).takeWhile Char.isDigit = c :: cs :=
      List.takeWhile_eq_self_iff.mpr h.fraction
    have hrest : (c :: cs).dropWhile Char.isDigit = [] := List.dropWhile_eq_nil_iff.mpr h.fraction
    have hpoint : ('.' :: c :: cs).takeWhile Char.isDigit = [] := rfl
    have hpoint' : ('.' :: c :: cs).dropWhile Char.isDigit = '.' :: c :: cs := rfl
    rw [show numeral whole (c :: cs) = whole ++ '.' :: c :: cs from rfl, readMagnitude, htake, hdrop]
    simp [hpoint, hpoint', hall, hrest, readExponent, numeralValue]

theorem toLower_of_isDigit {c : Char} (h : c.isDigit = true) : c.toLower = c := by
  refine dif_neg fun hupper => ?_
  have hle : 65 ≤ c.toNat := UInt32.le_iff_toNat_le.mp hupper.1
  have hcode := Text.toNat_of_isDigit h
  omega

theorem le_toNat_of_isLower {c : Char} (h : c.isLower = true) : 97 ≤ c.toNat :=
  UInt32.le_iff_toNat_le.mp (of_decide_eq_true (Bool.and_eq_true_iff.mp h).1)

/-- What a numeral begins with is no letter. -/
theorem toLower_ne_of_isLower {c d : Char} (hc : c.isDigit = true ∨ c = '.') (hd : d.isLower = true) :
    c.toLower ≠ d := by
  rintro rfl
  obtain hc | rfl := hc
  · rw [toLower_of_isDigit hc] at hd
    have hcode := Text.toNat_of_isDigit hc
    have hle := le_toNat_of_isLower hd
    omega
  · cases hd

/-- The words for values without digits do not begin as numerals do. -/
theorem map_toLower_numeral_ne (h : IsNumeral whole fraction) {d : Char} (hd : d.isLower = true)
    (word : List Char) : (numeral whole fraction).map Char.toLower ≠ d :: word := by
  obtain ⟨c, cs, hcons, hc⟩ := exists_numeral_eq_cons h
  rw [hcons, List.map_cons]
  exact fun heq => toLower_ne_of_isLower hc hd (List.cons.inj heq).1

/-- **Numerals are read**, with a sign or without. -/
theorem readFloat_numeral (h : IsNumeral whole fraction) {sign : Option Char}
    (hsign : ∀ c ∈ sign, c = '+' ∨ c = '-') :
    readFloat (sign.toList ++ numeral whole fraction) =
      some (if sign = some '-' then -numeralValue whole fraction else numeralValue whole fraction) := by
  have hsplit : splitSign (sign.toList ++ numeral whole fraction) =
      (decide (sign = some '-'), numeral whole fraction) := by
    cases sign with
    | none =>
      obtain ⟨c, cs, hcons, hc⟩ := exists_numeral_eq_cons h
      have hminus : c ≠ '-' := by
        rintro rfl
        simp at hc
      have hplus : c ≠ '+' := by
        rintro rfl
        simp at hc
      simp [hcons, splitSign, hminus, hplus]
    | some c =>
      obtain rfl | rfl := hsign c rfl
      · rfl
      · rfl
  have hinf : ¬ ((numeral whole fraction).map Char.toLower = "inf".toList ∨
      (numeral whole fraction).map Char.toLower = "infinity".toList) :=
    not_or.mpr ⟨map_toLower_numeral_ne h rfl _, map_toLower_numeral_ne h rfl _⟩
  have hnan : (numeral whole fraction).map Char.toLower ≠ "nan".toList := map_toLower_numeral_ne h rfl _
  rw [readFloat, hsplit]
  dsimp only
  rw [if_neg hinf, if_neg hnan, readMagnitude_numeral h]
  simp

/-- The sign in front of the plain form. -/
def plainSign (x : Float) : Option Char := if signBit x then some '-' else none

theorem toList_plain (x : Float) :
    (plain x).toList =
      if !isFinite x then
        if isNaN x then "NaN".toList else (plainSign x).toList ++ "inf".toList
      else
        (plainSign x).toList ++
          numeral (shortest .upper x).positional.1 (shortest .upper x).positional.2 := by
  have hsign : (plainSign x).toList = if signBit x then ['-'] else [] := by
    rw [plainSign]
    split <;> rfl
  have hplain : plain x = String.ofList (
      if !isFinite x then
        if isNaN x then "NaN".toList else (if signBit x then ['-'] else []) ++ "inf".toList
      else
        (if signBit x then ['-'] else []) ++ (shortest .upper x).positional.1 ++
          if (shortest .upper x).positional.2.isEmpty then []
          else '.' :: (shortest .upper x).positional.2) :=
    (rfl)
  rw [hplain, String.toList_ofList, hsign, numeral, List.append_assoc]

theorem eq_minus_of_mem_plainSign {x : Float} : ∀ c ∈ plainSign x, c = '-' := by
  rw [plainSign]
  split <;> simp

/-- **The plain form of a number can be read.** -/
theorem isSome_readFloat_plain (x : Float) : (readFloat (plain x).toList).isSome = true := by
  rw [toList_plain]
  split
  · split
    · rfl
    · rw [plainSign]
      split <;> rfl
  · rw [readFloat_numeral (isNumeral_positional _) fun c hc => .inr (eq_minus_of_mem_plainSign c hc)]
    rfl

theorem mem_numeral (h : IsNumeral whole fraction) {c : Char} (hc : c ∈ numeral whole fraction) :
    c.isDigit = true ∨ c = '.' := by
  rw [numeral, List.mem_append] at hc
  obtain hc | hc := hc
  · exact .inl (h.whole c hc)
  · split at hc
    · cases hc
    · exact (List.mem_cons.mp hc).symm.imp_left (h.fraction c)

/-- What the plain form of a number is made of. -/
theorem mem_plain {c : Char} {x : Float} (h : c ∈ (plain x).toList) :
    c.isDigit = true ∨ c ∈ "-.NaNinf".toList := by
  have hsign : ∀ c ∈ (plainSign x).toList, c ∈ "-.NaNinf".toList := fun c hc =>
    eq_minus_of_mem_plainSign c (Option.mem_toList.mp hc) ▸ by decide
  rw [toList_plain] at h
  split at h
  · split at h
    · exact .inr (Text.forall_mem_of_all (P := (· ∈ "-.NaNinf".toList)) (by decide) c h)
    · obtain h | h := List.mem_append.mp h
      · exact .inr (hsign c h)
      · exact .inr (Text.forall_mem_of_all (P := (· ∈ "-.NaNinf".toList)) (by decide) c h)
  · obtain h | h := List.mem_append.mp h
    · exact .inr (hsign c h)
    · obtain h | rfl := mem_numeral (isNumeral_positional _) h
      · exact .inl h
      · exact .inr (by decide)

end PageGrid.Decimal
