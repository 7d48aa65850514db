import PageGrid.Proofs.Decimal.Binary

/-!
# Whole numbers as floats

A whole number below two to the power of fifty-three is a float. The library makes it from an integer and
multiplies it by one, and rounds after each of these; the significand has room for all digits, so nothing is
rounded away. The exact reading of the bit pattern gives the number back.

## Main definitions

* `Denotes` — the exact value of a float is a whole number.

## Main results

* `denotes_ofNat` — whole numbers below the limit are floats;
* `floorInt_nonpos_of_not_isFinite` — what is not finite has no floor between zero and the limit.
-/

namespace PageGrid.Decimal

open Float.Model UnpackedFloat

variable {x : Float} {m n : Nat} {e : Int}

/-- The float is finite, and its exact value is this whole number. -/
structure Denotes (x : Float) (n : Int) : Prop where
  finite : isFinite x = true
  floor : floorInt x = n
  ceil : ceilInt x = n

/-! ### Packing -/

theorem toNat_unpackMantissa (x : Float) :
    (@unpackMantissa .binary64 x.toModel.toBits.toBitVec).toNat = fractionBits x := by
  rw [unpackMantissa_def, BitVec.extractLsb'_toNat, Nat.shiftRight_zero]
  rfl

section Normal

variable (hm : 0 < m) (hlow : 2 ^ 52 ≤ m) (hhigh : m < 2 ^ 53) (he : e ≤ 0) (he' : -52 ≤ e)

include hlow hhigh in
theorem log2_eq : m.log2 = 52 := (Nat.log2_eq_iff (by omega)).mpr ⟨hlow, hhigh⟩

include hlow hhigh he he'

/-- A significand of fifty-three bits and its exponent, in the form of a float that is not negative. -/
theorem pack_normal : UnpackedFloat.pack .binary64 (.finite .positive m e hm) =
    packComponents .binary64 .positive (BitVec.ofNat 11 (e + 1075).toNat) (BitVec.ofNat 52 m) := by
  have hbiased : e + (Format.binary64.exponentBias : Nat) +
      (Format.binary64.mantissaBitsWithoutImplicit : Nat) = e + 1075 := by
    change e + (1023 : Int) + (52 : Int) = _
    omega
  have hbits : 52 + 1 = Format.binary64.mantissaBits := rfl
  rw [UnpackedFloat.pack]
  dsimp only
  rw [hbiased, log2_eq hlow hhigh, if_neg, if_pos hbits]
  change ¬ 2048 ≤ _
  omega

/-- The parts of this form. -/
theorem parts_normal (hx : x.toModel = Float.Model.pack (.finite .positive m e hm)) :
    signBit x = false ∧ exponentBits x = (e + 1075).toNat ∧ fractionBits x = m - 2 ^ 52 := by
  have hbits : x.toModel.toBits.toBitVec =
      packComponents .binary64 .positive (BitVec.ofNat 11 (e + 1075).toNat) (BitVec.ofNat 52 m) := by
    rw [hx]
    exact pack_normal hm hlow hhigh he he'
  have hsign := toNat_unpackSign x
  have hexponent := toNat_unpackExponent x
  have hfraction := toNat_unpackMantissa x
  rw [hbits, unpackSign_packComponents] at hsign
  rw [hbits, unpackExponent_packComponents, BitVec.toNat_ofNat] at hexponent
  rw [hbits, unpackMantissa_packComponents, BitVec.toNat_ofNat] at hfraction
  change (e + 1075).toNat % 2048 = _ at hexponent
  change m % 4503599627370496 = _ at hfraction
  refine ⟨?_, by omega, by omega⟩
  cases hx : signBit x with
  | false => rfl
  | true =>
    rw [hx] at hsign
    cases hsign

theorem unpack_pack_normal :
    (Float.Model.pack (.finite .positive m e hm)).unpack = .finite .positive m e hm := by
  have hmantissa : (1#1 ++ BitVec.ofNat 52 m).toNat = m := by
    have hfraction : (BitVec.ofNat 52 m).toNat = m - 2 ^ 52 := by
      rw [BitVec.toNat_ofNat]
      omega
    rw [BitVec.toNat_append, ← Nat.shiftLeft_add_eq_or_of_lt (BitVec.isLt _), hfraction]
    change 1 <<< 52 + _ = m
    omega
  have hexponent : (BitVec.ofNat 11 (e + 1075).toNat).toNat = (e + 1075).toNat := by
    rw [BitVec.toNat_ofNat]
    omega
  have htop : BitVec.ofNat 11 (e + 1075).toNat ≠ -1#11 := by
    intro h
    have hnat := congrArg BitVec.toNat h
    rw [hexponent] at hnat
    change _ = 2047 at hnat
    omega
  have hbottom : BitVec.ofNat 11 (e + 1075).toNat ≠ 0#11 := by
    intro h
    have hnat := congrArg BitVec.toNat h
    rw [hexponent] at hnat
    change _ = 0 at hnat
    omega
  have hbias : ((e + 1075).toNat : Int) - ((Format.binary64.exponentBias : Nat) +
      (Format.binary64.mantissaBitsWithoutImplicit : Nat)) = e := by
    change _ - ((1023 : Int) + (52 : Int)) = e
    omega
  change UnpackedFloat.unpack .binary64 (UnpackedFloat.pack .binary64 (.finite .positive m e hm)) = _
  rw [pack_normal hm hlow hhigh he he', UnpackedFloat.unpack]
  simp only [unpackMantissa_packComponents, unpackExponent_packComponents, unpackSign_packComponents]
  rw [if_neg htop, if_neg hbottom]
  simp only [hmantissa, hexponent, hbias]
  rfl

/-- A float of this form has the value of the significand where no digit of it is behind the point. -/
theorem denotes_normal (hx : x.toModel = Float.Model.pack (.finite .positive m e hm))
    (hn : m = n * 2 ^ (-e).toNat) : Denotes x n := by
  obtain ⟨hsign, hexponent, hfraction⟩ := parts_normal hm hlow hhigh he he' hx
  have hbinary : Binary.ofFloat x = ⟨false, m, e⟩ := by
    rw [Binary.ofFloat, hsign, hexponent, hfraction, if_neg (by omega)]
    have hsignificand : Nat.pow 2 52 + (m - 2 ^ 52) = m := Nat.add_sub_cancel' hlow
    have hback : ((e + 1075).toNat : Int) - 1075 = e := by omega
    rw [hsignificand, hback]
  have hratio : ∃ d, 0 < d ∧ (⟨false, m, e⟩ : Binary).ratio = (n * d, d) := by
    cases e with
    | ofNat k =>
      obtain rfl : k = 0 := by simpa using he
      refine ⟨1, Nat.one_pos, ?_⟩
      simp [Binary.ratio, hn]
    | negSucc k =>
      refine ⟨Nat.pow 2 (k + 1), Nat.pow_pos (by decide), ?_⟩
      rw [hn]
      rfl
  obtain ⟨d, hd, hratio⟩ := hratio
  refine ⟨?_, ?_, ?_⟩
  · rw [isFinite, hexponent, bne_iff_ne]
    omega
  · rw [floorInt, hbinary, hratio]
    simp [Nat.mul_div_cancel _ hd]
  · rw [ceilInt, hbinary, hratio]
    have hquotient : (n * d + (d - 1)) / d = n := by
      rw [Nat.mul_comm, Nat.mul_add_div hd, Nat.div_eq_of_lt (by omega), Nat.add_zero]
    simp [hquotient]

end Normal

/-! ### Rounding -/

/-- Shifting back what has been shifted loses no digits. -/
theorem shiftRight_mul_two_pow (m j : Nat) :
    (⟨m * 2 ^ j, false, false⟩ : ExtendedMantissa) >>> j = ⟨m, false, false⟩ := by
  change j.repeat ExtendedMantissa.shiftRightOne _ = _
  induction j generalizing m with
  | zero => simp [Nat.repeat]
  | succ j ih =>
    have hsplit : m * 2 ^ (j + 1) = m * 2 * 2 ^ j := by ring
    rw [Nat.repeat, hsplit, ih]
    simp [ExtendedMantissa.shiftRightOne]

theorem log2_mul_two_pow (hm : m ≠ 0) (j : Nat) : (m * 2 ^ j).log2 = m.log2 + j := by
  have hpos : 0 < 2 ^ j := Nat.two_pow_pos j
  refine (Nat.log2_eq_iff (Nat.mul_ne_zero hm (Nat.ne_of_gt hpos))).mpr ⟨?_, ?_⟩
  · rw [Nat.pow_add]
    exact Nat.mul_le_mul_right _ (Nat.log2_self_le hm)
  · rw [Nat.add_right_comm, Nat.pow_add]
    exact Nat.mul_lt_mul_of_pos_right Nat.lt_log2_self hpos

/-- The first shift of rounding goes to fifty-three digits. -/
theorem shiftToTargetExponent_eq (hlow : 2 ^ 52 ≤ m) (hhigh : m < 2 ^ 53) (he' : -52 ≤ e) (j : Nat) :
    shiftToTargetExponent .binary64 (m * 2 ^ j) (e - j) .exact = (⟨m, false, false⟩, e) := by
  have htarget : Format.binary64.targetExponent (totalExponent (m * 2 ^ j) (e - j)) = e := by
    rw [totalExponent, log2_mul_two_pow (by omega), log2_eq hlow hhigh]
    change max (((52 + j : Nat) : Int) + 1 + (e - j) - (53 : Int)) (-1074) = e
    omega
  have hshift : (e - (e - j)).toNat = j := by omega
  have hmantissa : ExtendedMantissa.ofMantissaAndAccuracy (m * 2 ^ j) .exact =
      ⟨m * 2 ^ j, false, false⟩ := rfl
  simp only [shiftToTargetExponent, htarget, shiftToExponent, hshift, hmantissa, shiftRight_mul_two_pow,
    Int.sub_add_cancel]

/-- Rounding takes away no digit that is not zero. -/
theorem roundWithAccuracy_eq (hm : 0 < m) (hlow : 2 ^ 52 ≤ m) (hhigh : m < 2 ^ 53) (he' : -52 ≤ e)
    (j : Nat) :
    roundWithAccuracy .binary64 .positive (m * 2 ^ j) (e - j) .exact = .finite .positive m e hm := by
  have hsecond := shiftToTargetExponent_eq hlow hhigh he' 0
  rw [Nat.pow_zero, Nat.mul_one, Int.natCast_zero, Int.sub_zero] at hsecond
  have hrounded : ExtendedMantissa.roundedMantissa ⟨m, false, false⟩ = m := rfl
  simp only [roundWithAccuracy, shiftToTargetExponent_eq hlow hhigh he', hrounded, hsecond,
    Nat.ne_of_gt hm, dite_false]

/-! ### Whole numbers -/

/-- A whole number with as many zeros behind it as a significand of fifty-three bits has room for. -/
def significand (n : Nat) : Nat := n * 2 ^ (52 - n.log2)

section Whole

variable (hpos : 0 < n) (hn : n < 2 ^ 53)

include hpos hn

theorem log2_le : n.log2 ≤ 52 := Nat.lt_succ_iff.mp ((Nat.log2_lt (Nat.ne_of_gt hpos)).mpr hn)

theorem significand_bounds : 2 ^ 52 ≤ significand n ∧ significand n < 2 ^ 53 := by
  have hlog := log2_mul_two_pow (Nat.ne_of_gt hpos) (52 - n.log2)
  rw [Nat.add_sub_cancel' (log2_le hpos hn)] at hlog
  have hne : significand n ≠ 0 := Nat.mul_ne_zero (Nat.ne_of_gt hpos) (Nat.ne_of_gt (Nat.two_pow_pos _))
  exact (Nat.log2_eq_iff hne).mp hlog

/-- The float of an integer. -/
theorem ofUInt64_eq (hm : 0 < significand n) :
    UnpackedFloat.ofUInt64 .binary64 n.toUInt64 =
      .finite .positive (significand n) (n.log2 - 52) hm := by
  obtain ⟨hlow, hhigh⟩ := significand_bounds hpos hn
  have hlog := log2_le hpos hn
  have hsize : n.toUInt64.toNat = n := UInt64.toNat_ofNat_of_lt' (by change n < 2 ^ 64; omega)
  have hcompare : compare (n : Int) 0 = .gt := Int.compare_eq_gt.mpr (by omega)
  have htarget : Format.binary64.targetExponent (totalExponent n 0) = n.log2 - 52 := by
    rw [totalExponent]
    change max ((n.log2 : Int) + 1 + 0 - (53 : Int)) (-1074) = _
    omega
  have hshift : (0 - ((n.log2 : Int) - 52)).toNat = 52 - n.log2 := by omega
  have hexponent : (0 : Int) - (52 - n.log2 : Nat) = n.log2 - 52 := by omega
  have hleast : -52 ≤ (n.log2 : Int) - 52 := by omega
  have hround := roundWithAccuracy_eq hm hlow hhigh hleast 0
  rw [Nat.pow_zero, Nat.mul_one, Int.natCast_zero, Int.sub_zero] at hround
  rw [UnpackedFloat.ofUInt64, UnpackedFloat.ofNat, UnpackedFloat.ofInt, hsize]
  unfold UnpackedFloat.normalize
  rw [hcompare]
  simp only [UnpackedFloat.round, Int.toNat_natCast, htarget, decreaseExponent, hshift, hexponent,
    Nat.shiftLeft_eq]
  exact hround

/-- The float of a whole number. -/
theorem toModel_ofNat (hm : 0 < significand n) :
    (Float.ofNat n).toModel =
      Float.Model.pack (.finite .positive (significand n) (n.log2 - 52) hm) := by
  obtain ⟨hlow, hhigh⟩ := significand_bounds hpos hn
  have hlog := log2_le hpos hn
  have hleast : -52 ≤ (n.log2 : Int) - 52 := by omega
  have hinteger : n.toUInt64.toFloat.toModel.unpack =
      .finite .positive (significand n) (n.log2 - 52) hm := by
    change (Float.Model.pack (UnpackedFloat.ofUInt64 .binary64 n.toUInt64)).unpack = _
    rw [ofUInt64_eq hpos hn hm, unpack_pack_normal hm hlow hhigh (by omega) hleast]
  have hone : (Float.ofBits 4607182418800017408).toModel.unpack =
      .finite .positive (2 ^ 52) (-52) (Nat.two_pow_pos 52) := by
    have hbits : (Float.ofBits 4607182418800017408).toModel.toBits = 0x3FF0000000000000 := by
      decide +kernel
    rw [Float.Model.unpack, hbits]
    rfl
  have hproduct : Float.ofNat n = n.toUInt64.toFloat * Float.ofBits 4607182418800017408 := by
    change Float.ofScientific n false 0 = _
    rw [Float.ofScientific, dif_pos ⟨hn, by decide⟩]
    rfl
  rw [hproduct]
  change Float.Model.pack (UnpackedFloat.mul .binary64 n.toUInt64.toFloat.toModel.unpack
    (Float.ofBits 4607182418800017408).toModel.unpack) = _
  rw [hinteger, hone]
  exact congrArg _ (roundWithAccuracy_eq hm hlow hhigh hleast 52)

end Whole

/-- **Whole numbers below the limit are floats.** -/
theorem denotes_ofNat (hn : n < 2 ^ 53) : Denotes (Float.ofNat n) n := by
  obtain rfl | hpos := Nat.eq_zero_or_pos n
  · exact ⟨by decide +kernel, by decide +kernel, by decide +kernel⟩
  · obtain ⟨hlow, hhigh⟩ := significand_bounds hpos hn
    have hm : 0 < significand n := by omega
    have hlog := log2_le hpos hn
    refine denotes_normal hm hlow hhigh (by omega) (by omega) (toModel_ofNat hpos hn hm) ?_
    rw [significand]
    congr 2
    omega

/-- The floats that are not finite have the value of one more exponent in the exact reading. -/
theorem ratio_of_not_isFinite (hx : isFinite x = false) :
    ∃ k, (Binary.ofFloat x).negative = signBit x ∧
      (Binary.ofFloat x).ratio = ((Nat.pow 2 52 + fractionBits x) * Nat.pow 2 (k + 1), 1) := by
  have hexponent : exponentBits x = 2047 := by simpa [isFinite] using hx
  have hbinary : Binary.ofFloat x = ⟨signBit x, Nat.pow 2 52 + fractionBits x, .ofNat (971 + 1)⟩ := by
    rw [Binary.ofFloat, hexponent, if_neg (by decide)]
    rfl
  exact ⟨971, by rw [hbinary], by rw [hbinary, Binary.ratio]⟩

/-- They are read as large numbers, so that no number of rounds below the limit comes from them. -/
theorem floorInt_nonpos_of_not_isFinite (hx : isFinite x = false) (h : floorInt x < 2 ^ 53) :
    floorInt x ≤ 0 := by
  obtain ⟨k, hnegative, hratio⟩ := ratio_of_not_isFinite hx
  rw [floorInt, hnegative, hratio] at h ⊢
  have hlarge : 2 ^ 53 ≤ (Nat.pow 2 52 + fractionBits x) * Nat.pow 2 (k + 1) := by
    have hpower : 2 ≤ Nat.pow 2 (k + 1) := Nat.le_self_pow (Nat.succ_ne_zero k) 2
    calc 2 ^ 53 = 2 ^ 52 * 2 := by norm_num
      _ ≤ _ := Nat.mul_le_mul (Nat.le_add_right _ _) hpower
  generalize (Nat.pow 2 52 + fractionBits x) * Nat.pow 2 (k + 1) = n at h hlarge ⊢
  cases hs : signBit x with
  | false =>
    rw [hs] at h
    simp only [Nat.div_one, Bool.false_eq_true, if_false] at h
    omega
  | true =>
    simp only [if_true]
    omega

end PageGrid.Decimal
