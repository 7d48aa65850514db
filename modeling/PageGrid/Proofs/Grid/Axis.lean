import Mathlib.Algebra.Order.Floor.Semifield
import Mathlib.Data.Rat.Floor
import Mathlib.Order.Bounds.Basic
import PageGrid.Attributes
import PageGrid.Proofs.Sizing

/-!
# Cells and lengths

A length takes as many cells as it needs, and a number of cells has a length. Over exact scalars the two
fit together: the number of cells is the least one that is large enough, up to the gap behind the last cell
and the tolerance, and the length of some cells needs exactly these cells. The latter asks for cells that
are larger than the tolerance, which is a share of the pitch and so grows with the gap.

An extent in cells may be broken, so its length has a formula of its own. Where the number of cells is
whole and not zero, the two formulas agree.

## Main definitions

* `Axis.Proper` — the cells have a size, and the gap between them is not negative.

## Main results

* `Axis.ceil_le_iff` — which numbers of cells are large enough for a length;
* `Axis.cellsFor_span` — as many cells as a length was made of;
* `cellsFor_consistent` — cells and lengths on the axes of a grid.
-/

namespace PageGrid

/-! ### Counts of exact scalars -/

theorem Scalar.ceilCount_eq (x : ℚ) : ceilCount x = min ⌈x⌉₊ countLimit := by
  have hceil : x.ceil = ⌈x⌉ := Rat.ceil_eq_neg_floor_neg x
  rw [← Int.ceil_toNat, ← hceil]
  rfl

theorem Scalar.floorCount_eq (x : ℚ) : floorCount x = min ⌊x⌋₊ countLimit := by
  rw [← Int.floor_toNat]
  rfl

/-! ### Proper axes -/

/-- The cells have a size, and the gap between them is not negative. -/
structure Axis.Proper (a : Axis ℚ) : Prop where
  cell : 0 < a.cell
  gap : 0 ≤ a.gap

namespace Axis

variable {a : Axis ℚ} {length : ℚ} {n : ℕ}

theorem Proper.pitch_pos (ha : a.Proper) : 0 < a.pitch := add_pos_of_pos_of_nonneg ha.cell ha.gap

/-! ### Lengths of cells -/

@[simp]
theorem span_zero (a : Axis ℚ) : a.span 0 = 0 := if_pos rfl

theorem span_of_ne_zero (a : Axis ℚ) (hn : n ≠ 0) : a.span n = n * a.cell + (n - 1) * a.gap := by
  have hcount : ((n - 1 : ℕ) : ℚ) = n - 1 := Nat.cast_pred (Nat.pos_of_ne_zero hn)
  rw [span, if_neg hn, ← hcount]
  rfl

/-- There is a gap less than there are cells. -/
theorem span_add_gap (a : Axis ℚ) (hn : n ≠ 0) : a.span n + a.gap = n * a.pitch := by
  rw [span_of_ne_zero a hn, pitch]
  ring

theorem Proper.mul_pitch_le (ha : a.Proper) (n : ℕ) : n * a.pitch ≤ a.span n + a.gap := by
  by_cases hn : n = 0
  · simpa [hn] using ha.gap
  · exact (span_add_gap a hn).ge

theorem Proper.span_pos (ha : a.Proper) (hn : 1 ≤ n) : 0 < a.span n := by
  have hcells : (1 : ℚ) ≤ n := Nat.one_le_cast.mpr hn
  rw [span_of_ne_zero a (by omega)]
  exact add_pos_of_pos_of_nonneg (mul_pos (by linarith) ha.cell) (mul_nonneg (by linarith) ha.gap)

/-- For whole cells, an extent is as long as the cells with the gaps between them. -/
theorem extentLength_natCast (a : Axis ℚ) (hn : 1 ≤ n) : a.extentLength (n : ℚ) = a.span n := by
  have hcells : (1 : ℚ) ≤ n := Nat.one_le_cast.mpr hn
  rw [extentLength, Scalar.larger_eq_max, span_of_ne_zero a (by omega)]
  exact congrArg (n * a.cell + · * a.gap) (max_eq_left (sub_nonneg.mpr hcells))

/-! ### Cells of lengths -/

theorem cellsFor_of_nonpos (a : Axis ℚ) (h : length ≤ 0) : a.cellsFor length = 0 := if_pos h

theorem cellsFor_of_pos (a : Axis ℚ) (h : 0 < length) :
    a.cellsFor length = min ⌈length / a.pitch - 5 / 1000⌉₊ countLimit := by
  rw [cellsFor, if_neg (not_le.mpr h)]
  exact Scalar.ceilCount_eq _

/-- The numbers of cells that are large enough for a length. -/
theorem ceil_le_iff (hpitch : 0 < a.pitch) :
    ⌈length / a.pitch - 5 / 1000⌉₊ ≤ n ↔ length ≤ (n + 5 / 1000) * a.pitch := by
  rw [Nat.ceil_le, sub_le_iff_le_add, div_le_iff₀ hpitch]

theorem Proper.ceil_le_iff (ha : a.Proper) :
    ⌈length / a.pitch - 5 / 1000⌉₊ ≤ n ↔ length ≤ (n + 5 / 1000) * a.pitch :=
  Axis.ceil_le_iff ha.pitch_pos

/-- A length takes the least number of cells that is large enough. -/
theorem Proper.isLeast_cellsFor (ha : a.Proper) (h : 0 < length)
    (hlimit : ⌈length / a.pitch - 5 / 1000⌉₊ < 2 ^ 32) :
    IsLeast {n : ℕ | length ≤ (n + 5 / 1000) * a.pitch} (a.cellsFor length) := by
  have hcount : ⌈length / a.pitch - 5 / 1000⌉₊ ≤ countLimit := Nat.le_sub_one_of_lt hlimit
  rw [cellsFor_of_pos a h, min_eq_left hcount]
  exact ⟨ha.ceil_le_iff.mp le_rfl, fun n hn => ha.ceil_le_iff.mpr hn⟩

/-- What a length has beyond its cells is no more than a gap and the tolerance. -/
theorem Proper.le_span_cellsFor (ha : a.Proper) (h : 0 < length)
    (hlimit : ⌈length / a.pitch - 5 / 1000⌉₊ < 2 ^ 32) :
    length ≤ a.span (a.cellsFor length) + a.gap + 5 / 1000 * a.pitch := by
  have henough : length ≤ (a.cellsFor length + 5 / 1000) * a.pitch := (ha.isLeast_cellsFor h hlimit).1
  have hcells := ha.mul_pitch_le (a.cellsFor length)
  linarith

/-- A longer length does not take fewer cells. -/
theorem Proper.cellsFor_mono (ha : a.Proper) : Monotone a.cellsFor := by
  intro x y hxy
  by_cases hx : x ≤ 0
  · rw [cellsFor_of_nonpos a hx]
    exact Nat.zero_le _
  · have hx : 0 < x := not_le.mp hx
    have hquotient : x / a.pitch ≤ y / a.pitch := div_le_div_of_nonneg_right hxy ha.pitch_pos.le
    rw [cellsFor_of_pos a hx, cellsFor_of_pos a (hx.trans_le hxy)]
    exact min_le_min_right _ (Nat.ceil_mono (sub_le_sub_right hquotient _))

/-- The length of some cells takes these cells: with one less, it would be cut by a whole cell, which is
more than the tolerance. -/
theorem Proper.cellsFor_span (ha : a.Proper) (hcell : 5 / 1000 * a.pitch < a.cell) (hn : 1 ≤ n)
    (hlimit : n ≤ countLimit) : a.cellsFor (a.span n) = n := by
  have hspan : a.span n + a.gap = n * a.pitch := span_add_gap a (by omega)
  have henough : a.span n ≤ (n + 5 / 1000) * a.pitch := by
    have hgap := ha.gap
    have hpitch := ha.pitch_pos
    linarith
  have hless : ¬ a.span n ≤ ((n - 1 : ℕ) + 5 / 1000) * a.pitch := by
    have hpitch : a.pitch = a.cell + a.gap := rfl
    rw [Nat.cast_pred hn]
    linarith
  have hupper : ⌈a.span n / a.pitch - 5 / 1000⌉₊ ≤ n := ha.ceil_le_iff.mpr henough
  have hlower : ¬ ⌈a.span n / a.pitch - 5 / 1000⌉₊ ≤ n - 1 := fun h => hless (ha.ceil_le_iff.mp h)
  rw [cellsFor_of_pos a (ha.span_pos hn)]
  omega

end Axis

/-! ### The axes of a grid -/

/-- **Cells and lengths fit together.** On an axis whose cells have a size and whose gap is not negative, a
length takes the least number of cells that is large enough, so that a longer length never takes fewer and
what stands out of the cells is at most the gap behind them and the tolerance. Where a cell is larger than
the tolerance, `n` cells are as long as an extent of `n` cells, and an object of that length takes `n`. -/
theorem cellsFor_consistent (g : Grid ℚ) (d : Direction) {a : Axis ℚ} (haxis : Attributes.axisOf g d = a)
    (ha : a.Proper) :
    (∀ length : ℚ, 0 < length → ⌈length / a.pitch - 5 / 1000⌉₊ < 2 ^ 32 →
      IsLeast {n : ℕ | length ≤ (n + 5 / 1000) * a.pitch} (a.cellsFor length) ∧
      length ≤ a.span (a.cellsFor length) + a.gap + 5 / 1000 * a.pitch) ∧
    Monotone a.cellsFor ∧
    (5 / 1000 * a.pitch < a.cell → ∀ n : ℕ, 1 ≤ n → n ≤ countLimit →
      a.span n = Attributes.extentLength g d (.cells n) ∧
      a.cellsFor (a.span n) = n ∧
      max (a.cellsFor (Attributes.extentLength g d (.cells n))) 1 = n) := by
  subst haxis
  refine ⟨fun length h hlimit => ⟨ha.isLeast_cellsFor h hlimit, ha.le_span_cellsFor h hlimit⟩,
    ha.cellsFor_mono, fun hcell n hn hlimit => ?_⟩
  have hextent : Attributes.extentLength g d (.cells n) = (Attributes.axisOf g d).span n :=
    Axis.extentLength_natCast _ hn
  have hcells := ha.cellsFor_span hcell hn hlimit
  refine ⟨hextent.symm, hcells, ?_⟩
  rw [hextent, hcells]
  exact max_eq_left hn

/-- Cells of twelve and a half points that are three points apart. -/
def brokenCells : Axis ℚ := ⟨25 / 2, 3, 10⟩

/-- With these cells, a length of 29 takes two cells, and all ten cells are as long as ten cells. -/
theorem cellsFor_consistent_brokenCells :
    (brokenCells.Proper ∧ ⌈(29 : ℚ) / brokenCells.pitch - 5 / 1000⌉₊ < 2 ^ 32 ∧
      5 / 1000 * brokenCells.pitch < brokenCells.cell) ∧
    IsLeast {n : ℕ | 29 ≤ (n + 5 / 1000) * brokenCells.pitch} 2 ∧
    Attributes.extentLength (.build brokenCells brokenCells .zero false) .horizontal (.cells (10 : ℕ)) = 152 ∧
    brokenCells.cellsFor 152 = 10 := by
  have hproper : brokenCells.Proper := ⟨by decide +kernel, by decide +kernel⟩
  have hlimit : ⌈(29 : ℚ) / brokenCells.pitch - 5 / 1000⌉₊ < 2 ^ 32 := by decide +kernel
  have hcell : 5 / 1000 * brokenCells.pitch < brokenCells.cell := by decide +kernel
  obtain ⟨hleast, -, hcells⟩ := cellsFor_consistent (.build brokenCells brokenCells .zero false)
    .horizontal rfl hproper
  have htwo : brokenCells.cellsFor 29 = 2 := by decide +kernel
  have hspan : brokenCells.span 10 = 152 := by decide +kernel
  obtain ⟨hextent, hten, -⟩ := hcells hcell 10 (by decide) (by decide)
  refine ⟨⟨hproper, hlimit, hcell⟩, htwo ▸ (hleast 29 (by norm_num) hlimit).1, ?_, hspan ▸ hten⟩
  exact hextent.symm.trans hspan

end PageGrid
