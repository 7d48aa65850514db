import PageGrid.Proofs.Decimal.Binary

/-!
# Sums that stay above zero

A sum of floats is rounded, and what is rounded might vanish. A sum of a number above zero and one that is
not below zero does not: the exact sum is positive, its digits reach at least as far down as the least digit
of a float, and rounding to fifty-three digits keeps the first of them. Where the sum is too large for a
float it is infinite, which is above zero as well.

What is not a number is neither at most zero nor below it, and a sum with it is not a number again. So the
statements say of both what is not the case.

## Main definitions

* `Above`, `NotBelow` — what is not at most zero, and what is not below zero.

## Main results

* `round_above` — rounding keeps a positive number above zero;
* `not_add_le_zero` — a sum of floats stays above zero.
-/

namespace PageGrid.Decimal

open Float.Model UnpackedFloat

variable {m : Nat} {e : Int}

/-- The number is positive, or not a number. -/
def Above : UnpackedFloat → Prop
  | .notANumber => True
  | .infinity sign => sign = .positive
  | .zero _ => False
  | .finite sign _ _ _ => sign = .positive

/-- The number is positive or zero, or not a number. -/
def NotBelow : UnpackedFloat → Prop
  | .notANumber => True
  | .infinity sign => sign = .positive
  | .zero _ => True
  | .finite sign _ _ _ => sign = .positive

/-! ### Comparison with zero -/

theorem le_iff_compare (x y : Float) :
    x ≤ y ↔ (x.toModel.unpack.compare y.toModel.unpack).any (·.isLE) = true := by
  change decide (x.toModel.le y.toModel = true) = true ↔ _
  rw [decide_eq_true_eq]
  rfl

theorem unpack_zero : (0 : Float).toModel.unpack = .zero .positive := (rfl)

theorem above_iff {x : Float} : Above x.toModel.unpack ↔ ¬ x ≤ 0 := by
  rw [le_iff_compare, unpack_zero]
  rcases x.toModel.unpack with sign | _ | sign | ⟨sign, m, e, hm⟩
  · cases sign <;> simp [Above, UnpackedFloat.compare]
  · simp [Above, UnpackedFloat.compare]
  · simp [Above, UnpackedFloat.compare]
  · cases sign <;> simp [Above, UnpackedFloat.compare]

theorem notBelow_iff {x : Float} : NotBelow x.toModel.unpack ↔ ¬ x < 0 := by
  rw [lt_iff_compare, unpack_zero]
  rcases x.toModel.unpack with sign | _ | sign | ⟨sign, m, e, hm⟩
  · cases sign <;> simp [NotBelow, UnpackedFloat.compare]
  · simp [NotBelow, UnpackedFloat.compare]
  · simp [NotBelow, UnpackedFloat.compare]
  · cases sign <;> simp [NotBelow, UnpackedFloat.compare]

/-! ### Packing -/

/-- A bit pattern without a sign is above zero if any bit is set. -/
theorem above_unpack_packComponents {exponent : BitVec 11} {mantissa : BitVec 52}
    (h : exponent ≠ 0 ∨ mantissa ≠ 0) :
    Above (UnpackedFloat.unpack .binary64 (packComponents .binary64 .positive exponent mantissa)) := by
  rw [UnpackedFloat.unpack]
  simp only [unpackMantissa_packComponents, unpackExponent_packComponents, unpackSign_packComponents,
    Sign.ofBitVec_toBitVec]
  split
  · split
    · rfl
    · trivial
  · split
    · next hexponent =>
      have hmantissa : ¬ mantissa = 0#52 := h.resolve_left (not_not.mpr hexponent)
      rw [dif_neg hmantissa]
      rfl
    · rfl

/-- A positive number that has the digits of a float does not vanish in the bit pattern. -/
theorem above_pack (hm : 0 < m) (hhigh : m < 2 ^ 53) (he : -1074 ≤ e) :
    Above (Float.Model.pack (.finite .positive m e hm)).unpack := by
  change Above (UnpackedFloat.unpack .binary64 (UnpackedFloat.pack .binary64 (.finite .positive m e hm)))
  have hbiased : e + (Format.binary64.exponentBias : Nat) +
      (Format.binary64.mantissaBitsWithoutImplicit : Nat) = e + 1075 := by
    change e + (1023 : Int) + (52 : Int) = _
    omega
  rw [UnpackedFloat.pack]
  dsimp only
  rw [hbiased]
  split
  · -- too large: the pattern of infinity
    exact above_unpack_packComponents (.inl (by decide))
  · next hrange =>
    split
    · -- the exponent is at least one
      refine above_unpack_packComponents (.inl fun h => ?_)
      have hnat := congrArg BitVec.toNat h
      rw [BitVec.toNat_ofNat] at hnat
      change ¬ 2048 ≤ _ at hrange
      change (e + 1075).toNat % 2048 = 0 at hnat
      omega
    · -- the mantissa is below the implicit bit, so nothing of it is cut off
      next hbits =>
      refine above_unpack_packComponents (.inr fun h => ?_)
      have hlog : m.log2 < 53 := (Nat.log2_lt (by omega)).mpr hhigh
      have hsmall : m < 2 ^ 52 := by
        change ¬ m.log2 + 1 = 53 at hbits
        exact (Nat.log2_lt (by omega)).mp (by omega)
      have hnat := congrArg BitVec.toNat h
      rw [BitVec.toNat_ofNat, Nat.mod_eq_of_lt hsmall] at hnat
      change m = 0 at hnat
      omega

/-! ### Rounding -/

theorem mantissa_shiftRight (em : ExtendedMantissa) (k : Nat) :
    (em >>> k).mantissa = em.mantissa / 2 ^ k := by
  change (k.repeat ExtendedMantissa.shiftRightOne em).mantissa = _
  induction k with
  | zero => simp [Nat.repeat]
  | succ k ih => rw [Nat.repeat, ExtendedMantissa.shiftRightOne, ih, Nat.div_div_eq_div_mul, Nat.pow_succ]

theorem le_roundedMantissa (em : ExtendedMantissa) : em.mantissa ≤ em.roundedMantissa := by
  rcases em with ⟨m, _ | _, _ | _⟩
  · exact Nat.le_refl m
  · exact Nat.le_refl m
  · exact Nat.le_add_right m _
  · exact Nat.le_succ m

theorem targetExponent_binary64 (n : Int) :
    Format.binary64.targetExponent n = max (n - 53) (-1074) := (rfl)

/-- A positive mantissa has a first digit among the fifty-three that are kept. -/
theorem shift_bounds (hm : 0 < m) (he : -1074 ≤ e) :
    let kept := m / 2 ^ (Format.binary64.targetExponent (totalExponent m e) - e).toNat
    0 < kept ∧ kept < 2 ^ 53 := by
  intro kept
  have hle : 2 ^ m.log2 ≤ m := Nat.log2_self_le (Nat.ne_of_gt hm)
  have hlt : m < 2 ^ (m.log2 + 1) := Nat.lt_log2_self
  have hamount : (Format.binary64.targetExponent (totalExponent m e) - e).toNat = m.log2 - 52 := by
    rw [targetExponent_binary64, totalExponent]
    omega
  change 0 < m / 2 ^ (_ : Int).toNat ∧ m / 2 ^ (_ : Int).toNat < 2 ^ 53
  rw [hamount]
  have hpos : 0 < 2 ^ (m.log2 - 52) := Nat.two_pow_pos _
  refine ⟨Nat.div_pos (Nat.le_trans ?_ hle) hpos, (Nat.div_lt_iff_lt_mul hpos).mpr (Nat.lt_of_lt_of_le hlt ?_)⟩
  · exact Nat.pow_le_pow_right Nat.two_pos (Nat.sub_le _ _)
  · rw [← Nat.pow_add]
    exact Nat.pow_le_pow_right Nat.two_pos (by omega)

/-- A shift keeps a positive mantissa positive, and leaves it the digits of a float. -/
theorem shiftToTargetExponent_bounds (hm : 0 < m) (he : -1074 ≤ e) :
    let shifted := shiftToTargetExponent .binary64 m e .exact
    0 < shifted.1.mantissa ∧ shifted.1.mantissa < 2 ^ 53 ∧ -1074 ≤ shifted.2 := by
  intro shifted
  have hmantissa : shifted.1.mantissa =
      m / 2 ^ (Format.binary64.targetExponent (totalExponent m e) - e).toNat := mantissa_shiftRight _ _
  have hexponent : e ≤ shifted.2 := Int.le_add_of_nonneg_right (Int.natCast_nonneg _)
  obtain ⟨hpos, hhigh⟩ := shift_bounds hm he
  rw [hmantissa]
  exact ⟨hpos, hhigh, Int.le_trans he hexponent⟩

/-- Rounding keeps a positive number above zero, with the digits of a float. -/
theorem exists_roundWithAccuracy_eq (hm : 0 < m) (he : -1074 ≤ e) :
    ∃ m' e', ∃ hm' : 0 < m', roundWithAccuracy .binary64 .positive m e .exact = .finite .positive m' e' hm' ∧
      m' < 2 ^ 53 ∧ -1074 ≤ e' := by
  obtain ⟨hfirst, -, hexponent⟩ := shiftToTargetExponent_bounds hm he
  have hrounded := Nat.lt_of_lt_of_le hfirst (le_roundedMantissa _)
  obtain ⟨hsecond, hhigh, hexponent⟩ := shiftToTargetExponent_bounds hrounded hexponent
  exact ⟨_, _, hsecond, dif_neg (Nat.ne_of_gt hsecond), hhigh, hexponent⟩

/-- **Rounding keeps a positive number above zero** whose digits reach no further down than those of
floats. -/
theorem round_above (hm : 0 < m) (he : -1074 ≤ e) :
    Above (Float.Model.pack (UnpackedFloat.round .binary64 .positive m e)).unpack := by
  have hshifted : 0 < (decreaseExponent m e (Format.binary64.targetExponent (totalExponent m e))).1 := by
    change 0 < m <<< _
    rw [Nat.shiftLeft_eq]
    exact Nat.mul_pos hm (Nat.two_pow_pos _)
  have hexponent : -1074 ≤ (decreaseExponent m e (Format.binary64.targetExponent (totalExponent m e))).2 := by
    change -1074 ≤ e - ((e - Format.binary64.targetExponent (totalExponent m e)).toNat : Int)
    rw [targetExponent_binary64]
    omega
  obtain ⟨m', e', hm', hround, hhigh, he'⟩ := exists_roundWithAccuracy_eq hshifted hexponent
  have heq : UnpackedFloat.round .binary64 .positive m e = .finite .positive m' e' hm' := hround
  rw [heq]
  exact above_pack hm' hhigh he'

/-! ### Sums -/

theorem pack_unpack_toModel (x : Float) : Float.Model.pack x.toModel.unpack = x.toModel := by
  generalize x.toModel = f
  have hbits : (Float.Model.pack f.unpack).toBits = f.toBits :=
    UInt64.toBitVec_inj.mp (pack_unpack_of_valid f.valid)
  cases f
  simpa [Float.Model.pack] using hbits

/-- No digit of a float is below the one with this exponent. -/
theorem exponent_unpack {x : Float} {sign : Sign} {hm : 0 < m}
    (hx : x.toModel.unpack = .finite sign m e hm) : -1074 ≤ e := by
  have hbias : ((Format.binary64.exponentBias : Nat) : Int) +
      (Format.binary64.mantissaBitsWithoutImplicit : Nat) = 1075 := rfl
  rw [Float.Model.unpack, UnpackedFloat.unpack] at hx
  dsimp only at hx
  rw [hbias] at hx
  split at hx
  · split at hx <;> cases hx
  · split at hx
    · split at hx
      · cases hx
      · cases hx
        omega
    · next hne =>
      cases hx
      have hpos := BitVec.toNat_pos_of_ne_zero hne
      omega

theorem above_pack_notANumber : Above (Float.Model.pack .notANumber).unpack := (trivial)

theorem above_pack_infinity : Above (Float.Model.pack (.infinity .positive)).unpack := (rfl)

/-- The sum of two positive numbers is the rounding of one. -/
theorem above_pack_add {m' : Nat} {e' : Int} (hm : 0 < m) (hm' : 0 < m') (he : -1074 ≤ e)
    (he' : -1074 ≤ e') :
    Above (Float.Model.pack (UnpackedFloat.add .binary64 (.finite .positive m e hm)
      (.finite .positive m' e' hm'))).unpack := by
  have hleast : -1074 ≤ min e e' := le_min he he'
  rw [UnpackedFloat.add]
  simp only [decreaseExponent, Nat.shiftLeft_eq, Sign.apply]
  generalize hsum : ((m * 2 ^ _ : Nat) : Int) + ((m' * 2 ^ _ : Nat) : Int) = n
  have hpos : 0 < n := by
    have hleft : 0 < m * 2 ^ (e - min e e').toNat := Nat.mul_pos hm (Nat.two_pow_pos _)
    omega
  unfold UnpackedFloat.normalize
  rw [Int.compare_eq_gt.mpr hpos]
  exact round_above (by omega) hleast

/-- **The sum of a number above zero and one that is not below zero is above zero.** -/
theorem not_add_le_zero {x y : Float} (hx : ¬ x ≤ 0) (hy : ¬ y < 0) : ¬ x + y ≤ 0 := by
  have hsum : (x + y).toModel =
      Float.Model.pack (UnpackedFloat.add .binary64 x.toModel.unpack y.toModel.unpack) := rfl
  rw [← above_iff] at hx ⊢
  rw [← notBelow_iff] at hy
  rw [hsum]
  rcases hxu : x.toModel.unpack with sign | _ | sign | ⟨sign, m, e, hm⟩
  · -- an infinity takes up every number that is not its opposite
    rw [hxu] at hx
    obtain rfl : sign = .positive := hx
    rcases hyu : y.toModel.unpack with sign | _ | sign | ⟨sign, m', e', hm'⟩
    · rw [hyu] at hy
      obtain rfl : sign = .positive := hy
      exact above_pack_infinity
    · exact above_pack_notANumber
    · exact above_pack_infinity
    · exact above_pack_infinity
  · exact above_pack_notANumber
  · rw [hxu] at hx
    exact hx.elim
  · rw [hxu] at hx
    obtain rfl : sign = .positive := hx
    rcases hyu : y.toModel.unpack with sign | _ | sign | ⟨sign, m', e', hm'⟩
    · rw [hyu] at hy
      obtain rfl : sign = .positive := hy
      exact above_pack_infinity
    · exact above_pack_notANumber
    · -- the number itself, which is packed as it was
      change Above (Float.Model.pack (.finite .positive m e hm)).unpack
      rw [← hxu, pack_unpack_toModel, hxu]
      rfl
    · rw [hyu] at hy
      obtain rfl : sign = .positive := hy
      exact above_pack_add hm hm' (exponent_unpack hxu) (exponent_unpack hyu)

end PageGrid.Decimal
