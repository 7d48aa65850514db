import Mathlib
import PageGrid.Decimal.Binary

/-!
# Numbers below one

Comparisons of floats are made by the number model of the library, and rounding to whole numbers by the
exact reading of the bit pattern. Here the two meet: a finite number whose floor is not positive is below
one. The parts of the bit pattern are the same for both, and a number that is not negative is at least
one as soon as its exponent bits are those of one.

## Main results

* `lt_iff_compare` — the comparison of two floats is the one of the model;
* `floorInt_pos` — a number with the exponent of one, or a greater one, has a positive floor;
* `lt_one_of_floorInt_nonpos` — a number without a positive floor is below one.
-/

namespace PageGrid.Decimal

open Float.Model UnpackedFloat

variable {x : Float}

/-! ### Parts of the bit pattern -/

theorem toNat_unpackExponent (x : Float) :
    (@unpackExponent .binary64 x.toModel.toBits.toBitVec).toNat = exponentBits x := by
  rw [unpackExponent_def, BitVec.extractLsb'_toNat, Nat.shiftRight_eq_div_pow]
  rfl

theorem toNat_unpackSign (x : Float) :
    (@unpackSign .binary64 x.toModel.toBits.toBitVec).toNat = if signBit x then 1 else 0 := by
  have hrange := x.toModel.toBits.toNat_lt
  have hbit : signBit x = decide (x.toModel.toBits.toNat / 2 ^ 63 = 1) := rfl
  rw [unpackSign_def, BitVec.extractLsb'_toNat, Nat.shiftRight_eq_div_pow, hbit]
  change x.toModel.toBits.toNat / 2 ^ 63 % 2 ^ 1 = _
  simp only [decide_eq_true_eq]
  split <;> omega

theorem ofBitVec_unpackSign (x : Float) :
    Sign.ofBitVec (@unpackSign .binary64 x.toModel.toBits.toBitVec) =
      if signBit x then .negative else .positive := by
  have hbit := toNat_unpackSign x
  cases hsign : signBit x with
  | false =>
    rw [hsign] at hbit
    rw [BitVec.eq_of_toNat_eq (y := 0#1) hbit]
    rfl
  | true =>
    rw [hsign] at hbit
    rw [BitVec.eq_of_toNat_eq (y := 1#1) hbit]
    rfl

/-! ### Comparison with one -/

theorem lt_iff_compare (x y : Float) :
    x < y ↔ x.toModel.unpack.compare y.toModel.unpack = some .lt := by
  change decide (x.toModel.lt y.toModel = true) = true ↔ _
  simp [Float.Model.lt, UnpackedFloat.lt]

theorem unpack_one :
    (1 : Float).toModel.unpack = .finite .positive (Nat.pow 2 52) (-52) (by decide) := by
  have hbits : (1 : Float).toModel.toBits = 0x3FF0000000000000 := by decide +kernel
  rw [Float.Model.unpack, hbits]
  rfl

/-- A negative number is below one, and so is one with a smaller exponent. -/
theorem compare_one {sign : Sign} {m : Nat} {e : Int} {hm : 0 < m}
    (h : sign = .negative ∨ e < -52) :
    UnpackedFloat.compare (.finite sign m e hm) (1 : Float).toModel.unpack = some .lt := by
  rw [unpack_one]
  cases sign with
  | negative => rfl
  | positive =>
    have he : compare e (-52) = .lt := Int.compare_eq_lt.mpr (by simpa using h)
    simp only [UnpackedFloat.compare, he]
    rfl

/-! ### The floor -/

/-- A number that is not negative has a positive floor if its exponent is at least the one of one. -/
theorem floorInt_pos (hpos : signBit x = false) (hexp : 1023 ≤ exponentBits x) : 1 ≤ floorInt x := by
  have hbinary : Binary.ofFloat x =
      ⟨false, Nat.pow 2 52 + fractionBits x, (exponentBits x : Int) - 1075⟩ := by
    rw [Binary.ofFloat, hpos]
    exact if_neg (by omega)
  obtain ⟨n, d, hratio, hd, hle⟩ : ∃ n d, (Binary.ofFloat x).ratio = (n, d) ∧ 0 < d ∧ d ≤ n := by
    rw [hbinary, Binary.ratio]
    dsimp only
    split
    · exact ⟨_, _, rfl, Nat.one_pos, Nat.mul_pos (by simp) (Nat.pow_pos (by decide))⟩
    · next k hk =>
      have hle : Nat.pow 2 (k + 1) ≤ Nat.pow 2 52 :=
        Nat.pow_le_pow_right (by decide) (by omega)
      exact ⟨_, _, rfl, Nat.pow_pos (by decide), hle.trans (Nat.le_add_right ..)⟩
  have hquotient : 1 ≤ n / d := Nat.div_pos hle hd
  have hfloor : floorInt x = (n / d : Nat) := by
    rw [floorInt, hratio, hbinary]
    rfl
  omega

/-- **A finite number without a positive floor is below one.** -/
theorem lt_one_of_floorInt_nonpos (hx : isFinite x = true) (h : floorInt x ≤ 0) : x < 1 := by
  have hexp := toNat_unpackExponent x
  rw [lt_iff_compare, Float.Model.unpack, UnpackedFloat.unpack]
  dsimp only
  split
  · -- infinities and not-a-number
    next htop =>
    rw [htop] at hexp
    simp [isFinite, ← hexp] at hx
  · split
    · -- zeros and the numbers without an implicit leading bit
      next hbottom =>
      split
      · rw [unpack_one]
        rfl
      · refine compare_one (.inr ?_)
        rw [hbottom]
        decide
    · refine compare_one ?_
      rw [ofBitVec_unpackSign, hexp]
      by_cases hsign : signBit x = true
      · simp [hsign]
      · have hsmall := mt (floorInt_pos (Bool.eq_false_iff.mpr hsign)) (by omega)
        right
        simp only [Format.exponentBias]
        omega

end PageGrid.Decimal
