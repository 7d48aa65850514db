import Mathlib.Algebra.Order.Ring.Abs
import Mathlib.Tactic.Linarith
import PageGrid.Sizing

/-!
# Sizes within bounds

An object that is too large or too small for its bounds is scaled, and what it is scaled to is the best
that there is: of all factors that bring both sides within their bounds, the one closest to one. Only
where there is no such factor is the aspect ratio given up, and the size is within the bounds all the
same. Both statements are about exact scalars.

The branches of `Size.clamp` come in pairs, one for the width and one for the height, so each is looked
at once, for the width, and `BestFit.swap` gives the other one. What remains are four cases: a side that
has to shrink decides, a side that has to grow decides, the sides have to go different ways, or nothing
has to be done.

Stretching looks at the maxima only. It gives the largest size of the natural aspect ratio that passes
none of them, so the minima are met where any size of that ratio meets all bounds, and not otherwise. Nor
are the bounds looked at where the size before them has no area.

## Main definitions

* `Range.Contains`, `Size.Within` — a length, and a size, within bounds;
* `Feasible`, `Nearest` — the factors that bring a size within bounds, and the one closest to one;
* `SizeRequest.Enlarges` — the natural size is below both maxima.

## Main results

* `bestFit_clamp` — what `Size.clamp` gives;
* `SizeRequest.resolve_nearest` — a request without stretching gets the size scaled by the nearest factor;
* `SizeRequest.stretched_within` — when a stretched size is within the bounds.
-/

namespace PageGrid

/-! ### Exact scalars -/

theorem Scalar.larger_eq_max (a b : ℚ) : larger a b = max a b := by
  rw [larger]
  split
  · next h => exact (max_eq_right (le_of_lt h)).symm
  · next h =>
    rw [if_pos (le_refl a)]
    exact (max_eq_left (not_lt.mp h)).symm

theorem Scalar.smaller_eq_min (a b : ℚ) : smaller a b = min a b := by
  rw [smaller]
  split
  · next h => exact (min_eq_right (le_of_lt h)).symm
  · next h =>
    rw [if_pos (le_refl a)]
    exact (min_eq_left (not_lt.mp h)).symm

/-! ### Bounds on a side -/

namespace Range

variable {r : Range ℚ} {length m : ℚ}

/-- The length does not pass the maximum. -/
def Admits (r : Range ℚ) (length : ℚ) : Prop := ∀ m, r.max = some m → length ≤ m

/-- The length is within the bounds. -/
structure Contains (r : Range ℚ) (length : ℚ) : Prop where
  min_le : r.min ≤ length
  le_max : r.Admits length

/-- The bounds are not negative, and the maximum is not below the minimum. -/
structure Proper (r : Range ℚ) : Prop where
  nonneg : 0 ≤ r.min
  min_le_max : r.Admits r.min

theorem Admits.mono (h : r.Admits length) (hle : m ≤ length) : r.Admits m := fun n hn =>
  le_trans hle (h n hn)

theorem proper_ofLimits (min : ℚ) (max : Option ℚ) : (ofLimits min max).Proper := by
  refine ⟨?_, fun m hm => ?_⟩
  · rw [ofLimits, Scalar.larger_eq_max]
    exact le_max_right min 0
  · obtain ⟨m', -, rfl⟩ := Option.map_eq_some_iff.mp hm
    rw [Scalar.larger_eq_max]
    exact le_max_right m' _

theorem exceeded_eq_some : r.exceeded length = some m ↔ r.max = some m ∧ m < length := by
  simp [exceeded, Option.filter_eq_some_iff]

theorem exceeded_eq_none : r.exceeded length = none ↔ r.Admits length := by
  simp [exceeded, Admits, Option.filter_eq_none_iff]

theorem lift_of_min_le (h : r.min ≤ length) : r.lift length = length := by
  rw [lift, Scalar.larger_eq_max, max_eq_left h]

theorem cap_of_admits (h : r.Admits length) : r.cap length = length := by
  rw [cap]
  split
  · next m hm => rw [Scalar.smaller_eq_min, min_eq_left (h m hm)]
  · rfl

theorem Proper.contains_min (hr : r.Proper) : r.Contains r.min := ⟨le_refl _, hr.min_le_max⟩

theorem Proper.contains_max (hr : r.Proper) (hm : r.max = some m) : r.Contains m :=
  ⟨hr.min_le_max m hm, fun _ hm' => le_of_eq (Option.some.inj (hm.symm.trans hm'))⟩

theorem Proper.contains_lift (hr : r.Proper) (h : r.Admits length) :
    r.Contains (r.lift length) := by
  rw [lift, Scalar.larger_eq_max]
  exact ⟨le_max_right length _, fun m hm => max_le (h m hm) (hr.min_le_max m hm)⟩

theorem Proper.contains_cap (hr : r.Proper) (h : r.min ≤ length) : r.Contains (r.cap length) := by
  rw [cap]
  split
  · next m hm =>
    rw [Scalar.smaller_eq_min]
    refine ⟨le_min h (hr.min_le_max m hm), fun m' hm' => ?_⟩
    obtain rfl := Option.some.inj (hm.symm.trans hm')
    exact min_le_right length m
  · next hm => exact ⟨h, fun m hm' => by rw [hm] at hm'; cases hm'⟩

end Range

/-- The minimum is raised to zero and the maximum to the minimum. -/
theorem contains_ofLimits {low length : ℚ} {high : Option ℚ} :
    (Range.ofLimits low high).Contains length ↔
      max low 0 ≤ length ∧ ∀ m, high = some m → length ≤ max m (max low 0) := by
  have hmin : (Range.ofLimits low high).min = max low 0 := Scalar.larger_eq_max low 0
  have hmax : (Range.ofLimits low high).max = high.map fun m => max m (max low 0) := by
    simp only [Range.ofLimits, Scalar.larger_eq_max]
  constructor
  · rintro ⟨hle, hadmits⟩
    exact ⟨hmin ▸ hle, fun m hm => hadmits _ (by rw [hmax, hm, Option.map_some])⟩
  · rintro ⟨hle, hadmits⟩
    refine ⟨hmin ▸ hle, fun m hm => ?_⟩
    rw [hmax] at hm
    obtain ⟨m', hm', rfl⟩ := Option.map_eq_some_iff.mp hm
    exact hadmits m' hm'

/-! ### Scaling into bounds -/

namespace Size

/-- The size with both sides scaled. -/
def scale (k : ℚ) (s : Size ℚ) : Size ℚ := ⟨k * s.width, k * s.height⟩

/-- The size with its sides exchanged. -/
def swap (s : Size ℚ) : Size ℚ := ⟨s.height, s.width⟩

/-- Both sides are within their bounds. -/
structure Within (horizontal vertical : Range ℚ) (s : Size ℚ) : Prop where
  width : horizontal.Contains s.width
  height : vertical.Contains s.height

@[simp] theorem scale_one (s : Size ℚ) : s.scale 1 = s := by
  simp [scale]

theorem Within.swap {horizontal vertical : Range ℚ} {s : Size ℚ} (h : s.Within horizontal vertical) :
    s.swap.Within vertical horizontal :=
  ⟨h.height, h.width⟩

/-- The factor that brings the width of a size to a given one. -/
theorem scale_div_width {s : Size ℚ} (hw : 0 < s.width) (length : ℚ) :
    s.scale (length / s.width) = ⟨length, length * s.height / s.width⟩ := by
  rw [scale, div_mul_cancel₀ length (ne_of_gt hw), div_mul_eq_mul_div]

end Size

/-- The factor brings the size within the bounds. -/
structure Feasible (horizontal vertical : Range ℚ) (size : Size ℚ) (k : ℚ) : Prop where
  nonneg : 0 ≤ k
  within : (size.scale k).Within horizontal vertical

/-- The factor brings the size within the bounds, and no other one that does is closer to one. -/
structure Nearest (horizontal vertical : Range ℚ) (size : Size ℚ) (k : ℚ) : Prop where
  feasible : Feasible horizontal vertical size k
  closest : ∀ j, Feasible horizontal vertical size j → |k - 1| ≤ |j - 1|

/-- The second size is within the bounds, and it is the first one scaled by the nearest factor if any
factor brings that within the bounds. -/
structure BestFit (horizontal vertical : Range ℚ) (size fitted : Size ℚ) : Prop where
  within : fitted.Within horizontal vertical
  nearest : ∀ j, Feasible horizontal vertical size j →
    ∃ k, Nearest horizontal vertical size k ∧ fitted = size.scale k

variable {horizontal vertical : Range ℚ} {size fitted : Size ℚ} {j k m : ℚ}

theorem Feasible.swap (h : Feasible horizontal vertical size k) :
    Feasible vertical horizontal size.swap k :=
  ⟨h.nonneg, h.within.swap⟩

theorem Nearest.swap (h : Nearest horizontal vertical size k) :
    Nearest vertical horizontal size.swap k :=
  ⟨h.feasible.swap, fun j hj => h.closest j hj.swap⟩

/-- Width and height play the same part. -/
theorem BestFit.swap (h : BestFit horizontal vertical size fitted) :
    BestFit vertical horizontal size.swap fitted.swap := by
  refine ⟨h.within.swap, fun j hj => ?_⟩
  obtain ⟨k, hk, rfl⟩ := h.nearest j hj.swap
  exact ⟨k, hk.swap, rfl⟩

/-- Between two factors that bring a size of positive sides within the bounds, every factor does. -/
theorem Feasible.between (hj : Feasible horizontal vertical size j)
    (hk : Feasible horizontal vertical size k) (hw : 0 < size.width) (hh : 0 < size.height) {x : ℚ}
    (hjx : j ≤ x) (hxk : x ≤ k) : Feasible horizontal vertical size x := by
  have hwidth := mul_le_mul_of_nonneg_right hjx (le_of_lt hw)
  have hwidth' := mul_le_mul_of_nonneg_right hxk (le_of_lt hw)
  have hheight := mul_le_mul_of_nonneg_right hjx (le_of_lt hh)
  have hheight' := mul_le_mul_of_nonneg_right hxk (le_of_lt hh)
  exact ⟨le_trans hj.nonneg hjx,
    ⟨le_trans hj.within.width.min_le hwidth, hk.within.width.le_max.mono hwidth'⟩,
    ⟨le_trans hj.within.height.min_le hheight, hk.within.height.le_max.mono hheight'⟩⟩

/-- There is one nearest factor at most: of two at the same distance on either side of one, one itself
would be nearer. -/
theorem Nearest.unique (hj : Nearest horizontal vertical size j)
    (hk : Nearest horizontal vertical size k) (hw : 0 < size.width) (hh : 0 < size.height) : j = k := by
  have hdist : |j - 1| = |k - 1| :=
    le_antisymm (hj.closest k hk.feasible) (hk.closest j hj.feasible)
  rcases abs_eq_abs.mp hdist with h | h
  · linarith
  · have hone : Feasible horizontal vertical size 1 := by
      rcases le_total j 1 with hle | hle
      · exact hj.feasible.between hk.feasible hw hh hle (by linarith)
      · exact hk.feasible.between hj.feasible hw hh (by linarith) hle
    have hzero := hj.closest 1 hone
    rw [sub_self, abs_zero, abs_nonpos_iff] at hzero
    linarith

/-- A factor that shrinks is the nearest if no greater one does. -/
theorem nearest_of_le (hk : Feasible horizontal vertical size k) (hone : k ≤ 1)
    (hle : ∀ j, Feasible horizontal vertical size j → j ≤ k) :
    Nearest horizontal vertical size k := by
  refine ⟨hk, fun j hj => ?_⟩
  have hjk := hle j hj
  rw [abs_of_nonpos (by linarith), abs_of_nonpos (by linarith)]
  linarith

/-- A factor that enlarges is the nearest if no smaller one does. -/
theorem nearest_of_ge (hk : Feasible horizontal vertical size k) (hone : 1 ≤ k)
    (hge : ∀ j, Feasible horizontal vertical size j → k ≤ j) :
    Nearest horizontal vertical size k := by
  refine ⟨hk, fun j hj => ?_⟩
  have hkj := hge j hj
  rw [abs_of_nonneg (by linarith), abs_of_nonneg (by linarith)]
  linarith

/-! ### The four cases -/

section Cases

variable (hhor : horizontal.Proper) (hver : vertical.Proper) (hw : 0 < size.width)
  (hh : 0 < size.height)

include hhor hver hw hh

/-- The width has to shrink, and the height that follows is not too large. -/
theorem bestFit_shrunk (hm : horizontal.max = some m) (hlt : m < size.width)
    (hfit : vertical.Admits (m * size.height / size.width)) :
    BestFit horizontal vertical size ⟨m, vertical.lift (m * size.height / size.width)⟩ := by
  refine ⟨⟨hhor.contains_max hm, hver.contains_lift hfit⟩, fun j hj => ?_⟩
  have hle : ∀ j, Feasible horizontal vertical size j → j ≤ m / size.width := fun j hj =>
    (le_div_iff₀ hw).mpr (hj.within.width.le_max m hm)
  have hscaled := Size.scale_div_width hw m
  have hmin : vertical.min ≤ m * size.height / size.width := by
    have hgrown := mul_le_mul_of_nonneg_right (hle j hj) (le_of_lt hh)
    rw [div_mul_eq_mul_div] at hgrown
    exact le_trans hj.within.height.min_le hgrown
  have hk : Feasible horizontal vertical size (m / size.width) := by
    refine ⟨le_trans hj.nonneg (hle j hj), ?_⟩
    rw [hscaled]
    exact ⟨hhor.contains_max hm, hmin, hfit⟩
  refine ⟨m / size.width, nearest_of_le hk ?_ hle, ?_⟩
  · exact (div_le_one₀ hw).mpr (le_of_lt hlt)
  · rw [hscaled, Range.lift_of_min_le hmin]

/-- The width has to grow, and the height that follows is not too small. -/
theorem bestFit_grown (hlt : size.width < horizontal.min)
    (hfit : vertical.min ≤ horizontal.min * size.height / size.width) :
    BestFit horizontal vertical size
      ⟨horizontal.min, vertical.cap (horizontal.min * size.height / size.width)⟩ := by
  refine ⟨⟨hhor.contains_min, hver.contains_cap hfit⟩, fun j hj => ?_⟩
  have hge : ∀ j, Feasible horizontal vertical size j → horizontal.min / size.width ≤ j := fun j hj =>
    (div_le_iff₀ hw).mpr hj.within.width.min_le
  have hscaled := Size.scale_div_width hw horizontal.min
  have hmax : vertical.Admits (horizontal.min * size.height / size.width) := by
    have hgrown := mul_le_mul_of_nonneg_right (hge j hj) (le_of_lt hh)
    rw [div_mul_eq_mul_div] at hgrown
    exact hj.within.height.le_max.mono hgrown
  have hk : Feasible horizontal vertical size (horizontal.min / size.width) := by
    refine ⟨div_nonneg hhor.nonneg (le_of_lt hw), ?_⟩
    rw [hscaled]
    exact ⟨hhor.contains_min, hfit, hmax⟩
  refine ⟨horizontal.min / size.width, nearest_of_ge hk ?_ hge, ?_⟩
  · exact (one_le_div₀ hw).mpr (le_of_lt hlt)
  · rw [hscaled, Range.cap_of_admits hmax]

/-- The width has to shrink and the height has to grow, so no factor will do. -/
theorem bestFit_crossed (hm : horizontal.max = some m) (hlt : m < size.width)
    (hgt : size.height < vertical.min) :
    BestFit horizontal vertical size ⟨m, vertical.min⟩ := by
  refine ⟨⟨hhor.contains_max hm, hver.contains_min⟩, fun j hj => ?_⟩
  have hshrinks : j < 1 := by
    have hwidth : j * size.width ≤ m := hj.within.width.le_max m hm
    by_contra hone
    have hgrown := mul_le_mul_of_nonneg_right (not_lt.mp hone) (le_of_lt hw)
    linarith
  have hgrows : 1 < j := by
    have hheight : vertical.min ≤ j * size.height := hj.within.height.min_le
    by_contra hone
    have hshrunk := mul_le_mul_of_nonneg_right (not_lt.mp hone) (le_of_lt hh)
    linarith
  exact absurd hshrinks (not_lt.mpr (le_of_lt hgrows))

omit hhor hver hw hh in
/-- Nothing has to be done. -/
theorem bestFit_self (h : size.Within horizontal vertical) :
    BestFit horizontal vertical size size := by
  have hone : Nearest horizontal vertical size 1 :=
    ⟨⟨zero_le_one, by rwa [Size.scale_one]⟩, fun j _ => by simp⟩
  exact ⟨h, fun _ _ => ⟨1, hone, size.scale_one.symm⟩⟩

end Cases

/-! ### The decision -/

/-- A side that is cut by the greater factor does not make the other one too long. -/
theorem mul_div_le_of_div_le_div {a b w h : ℚ} (hw : 0 < w) (hh : 0 < h) (hle : a / w ≤ b / h) :
    a * h / w ≤ b :=
  (div_le_iff₀ hw).mpr ((div_le_div_iff₀ hw hh).mp hle)

theorem le_mul_div_of_div_le_div {a b w h : ℚ} (hw : 0 < w) (hh : 0 < h) (hle : a / w ≤ b / h) :
    a ≤ b * w / h :=
  (le_div_iff₀ hh).mpr ((div_le_div_iff₀ hw hh).mp hle)

theorem mul_div_le_of_le {a w h : ℚ} (hw : 0 < w) (hh : 0 < h) (hle : a ≤ w) : a * h / w ≤ h := by
  rw [div_le_iff₀ hw, mul_comm h w]
  exact mul_le_mul_of_nonneg_right hle (le_of_lt hh)

theorem le_mul_div_of_le {a w h : ℚ} (hw : 0 < w) (hh : 0 < h) (hle : w ≤ a) : h ≤ a * h / w := by
  rw [le_div_iff₀ hw, mul_comm h w]
  exact mul_le_mul_of_nonneg_right hle (le_of_lt hh)

/-- **Clamping.** A size of positive sides is brought within the bounds by the nearest factor, or
without one if there is none. -/
theorem bestFit_clamp (hhor : horizontal.Proper) (hver : vertical.Proper) (hw : 0 < size.width)
    (hh : 0 < size.height) :
    BestFit horizontal vertical size (size.clamp horizontal vertical) := by
  -- the sides of the exchanged size, for the branches where the height decides
  have hh' : 0 < size.swap.width := hh
  have hw' : 0 < size.swap.height := hw
  rw [Size.clamp]
  split
  · next maxW maxH hW hH =>
    rw [Range.exceeded_eq_some] at hW hH
    split
    · next hratio =>
      refine bestFit_shrunk hhor hver hw hh hW.1 hW.2 fun n hn => ?_
      obtain rfl := Option.some.inj (hH.1.symm.trans hn)
      exact mul_div_le_of_div_le_div hw hh hratio
    · next hratio =>
      refine (bestFit_shrunk hver hhor hh' hw' hH.1 hH.2 fun n hn => ?_).swap
      obtain rfl := Option.some.inj (hW.1.symm.trans hn)
      exact mul_div_le_of_div_le_div hh hw (le_of_lt (not_le.mp hratio))
  · next maxW hW hH =>
    rw [Range.exceeded_eq_some] at hW
    rw [Range.exceeded_eq_none] at hH
    split
    · next hlow => exact bestFit_crossed hhor hver hw hh hW.1 hW.2 hlow
    · exact bestFit_shrunk hhor hver hw hh hW.1 hW.2
        (hH.mono (mul_div_le_of_le hw hh (le_of_lt hW.2)))
  · next maxH hW hH =>
    rw [Range.exceeded_eq_none] at hW
    rw [Range.exceeded_eq_some] at hH
    split
    · next hlow => exact (bestFit_crossed hver hhor hh' hw' hH.1 hH.2 hlow).swap
    · exact (bestFit_shrunk hver hhor hh' hw' hH.1 hH.2
        (hW.mono (mul_div_le_of_le hh hw (le_of_lt hH.2)))).swap
  · next hW hH =>
    rw [Range.exceeded_eq_none] at hW hH
    split
    · next hlow =>
      split
      · next hboth =>
        -- the height has to grow more
        exact (bestFit_grown hver hhor hh' hw' hboth.1
          (le_mul_div_of_div_le_div hw hh hboth.2)).swap
      · next hboth =>
        refine bestFit_grown hhor hver hw hh hlow ?_
        by_cases hshort : size.height < vertical.min
        · have hratio := not_le.mp fun hle => hboth ⟨hshort, hle⟩
          exact le_mul_div_of_div_le_div hh hw (le_of_lt hratio)
        · exact le_trans (not_lt.mp hshort) (le_mul_div_of_le hw hh (le_of_lt hlow))
    · next hlow =>
      split
      · next hshort =>
        refine (bestFit_grown hver hhor hh' hw' hshort ?_).swap
        exact le_trans (not_lt.mp hlow) (le_mul_div_of_le hh hw (le_of_lt hshort))
      · next hshort => exact bestFit_self ⟨⟨not_lt.mp hlow, hW⟩, ⟨not_lt.mp hshort, hH⟩⟩

/-! ### Requests -/

theorem Size.isEmpty_eq_false {s : Size ℚ} : s.isEmpty = false ↔ 0 < s.width ∧ 0 < s.height := by
  simp [isEmpty]

namespace SizeRequest

variable {r : SizeRequest ℚ}

theorem proper_horizontal (r : SizeRequest ℚ) : r.horizontal.Proper := Range.proper_ofLimits _ _

theorem proper_vertical (r : SizeRequest ℚ) : r.vertical.Proper := Range.proper_ofLimits _ _

/-- The natural size is below both maxima, so that stretching enlarges it. -/
def Enlarges (r : SizeRequest ℚ) : Prop :=
  ∃ maxW maxH, r.horizontal.max = some maxW ∧ r.vertical.max = some maxH ∧
    r.natural.width < maxW ∧ r.natural.height < maxH

theorem stretchFactor_eq_some {factor : ℚ} :
    r.stretchFactor = some factor ↔
      ∃ maxW maxH, r.horizontal.max = some maxW ∧ r.vertical.max = some maxH ∧
        factor = min (maxW / r.natural.width) (maxH / r.natural.height) := by
  have hlimit (side : Range ℚ) : side.limit = side.max := by
    rw [Range.limit]
    cases side.max <;> rfl
  rw [stretchFactor, hlimit, hlimit]
  cases r.horizontal.max <;> cases r.vertical.max <;>
    simp [Scalar.smaller_eq_min, eq_comm]

/-- Unless stretching enlarges, a size of positive sides is clamped. -/
theorem resolve_eq_clamp (hnatural : 0 < r.natural.width ∧ 0 < r.natural.height)
    (hstart : 0 < r.start.width ∧ 0 < r.start.height) (h : r.stretch = true → ¬ r.Enlarges) :
    r.resolve = r.start.clamp r.horizontal r.vertical := by
  have hfit : resolve.fit r = r.start.clamp r.horizontal r.vertical := by
    rw [resolve.fit, Size.isEmpty_eq_false.mpr hstart, if_neg Bool.false_ne_true]
  rw [resolve, Size.isEmpty_eq_false.mpr hnatural, if_neg Bool.false_ne_true]
  split
  · next factor hstretch hfactor =>
    obtain ⟨maxW, maxH, hW, hH, rfl⟩ := stretchFactor_eq_some.mp hfactor
    rw [if_neg, hfit]
    rintro hone
    obtain ⟨hwide, hhigh⟩ := lt_min_iff.mp hone
    exact h hstretch ⟨maxW, maxH, hW, hH, (one_lt_div₀ hnatural.1).mp hwide,
      (one_lt_div₀ hnatural.2).mp hhigh⟩
  · exact hfit

/-- A stretched size is the natural one, scaled by the greatest factor that passes no maximum. -/
theorem resolve_of_enlarges (hstretch : r.stretch = true)
    (hnatural : 0 < r.natural.width ∧ 0 < r.natural.height) (h : r.Enlarges) :
    ∃ k, 1 < k ∧ r.resolve = r.natural.scale k ∧
      ∀ j, r.horizontal.Admits (j * r.natural.width) ∧ r.vertical.Admits (j * r.natural.height) ↔
        j ≤ k := by
  obtain ⟨maxW, maxH, hW, hH, hwide, hhigh⟩ := h
  have hone : 1 < min (maxW / r.natural.width) (maxH / r.natural.height) :=
    lt_min ((one_lt_div₀ hnatural.1).mpr hwide) ((one_lt_div₀ hnatural.2).mpr hhigh)
  have hfactor := stretchFactor_eq_some.mpr ⟨maxW, maxH, hW, hH, rfl⟩
  refine ⟨_, hone, ?_, fun j => ?_⟩
  · rw [resolve, Size.isEmpty_eq_false.mpr hnatural, if_neg Bool.false_ne_true, hstretch, hfactor]
    dsimp only
    rw [if_pos hone, Size.scale, mul_comm r.natural.width, mul_comm r.natural.height]
  · rw [le_min_iff, le_div_iff₀ hnatural.1, le_div_iff₀ hnatural.2]
    simp [Range.Admits, hW, hH]

/-- **The nearest size of the same shape.** Without stretching, and if neither the natural size nor the
size before the bounds are looked at is without area, the size is within the bounds. If some factor
brings the size before the bounds within them, then so does a nearest one, of which there is no other,
and the size is scaled by it. So it stays as it is where it is within the bounds, and its aspect ratio
changes only where no factor will do. -/
theorem resolve_nearest (r : SizeRequest ℚ) (hstretch : r.stretch = false)
    (hnatural : 0 < r.natural.width ∧ 0 < r.natural.height)
    (hstart : 0 < r.start.width ∧ 0 < r.start.height) :
    r.resolve.Within r.horizontal r.vertical ∧
    (∀ j, Feasible r.horizontal r.vertical r.start j →
      ∃ k, Nearest r.horizontal r.vertical r.start k ∧
        (∀ k', Nearest r.horizontal r.vertical r.start k' → k' = k) ∧
        r.resolve = r.start.scale k) ∧
    (r.start.Within r.horizontal r.vertical → r.resolve = r.start) ∧
    (r.resolve.width * r.start.height ≠ r.resolve.height * r.start.width →
      ∀ j, ¬ Feasible r.horizontal r.vertical r.start j) := by
  have hclamp := resolve_eq_clamp hnatural hstart (by simp [hstretch])
  have hfit : BestFit r.horizontal r.vertical r.start r.resolve := by
    rw [hclamp]
    exact bestFit_clamp r.proper_horizontal r.proper_vertical hstart.1 hstart.2
  refine ⟨hfit.within, fun j hj => ?_, fun hwithin => ?_, fun hratio j hj => ?_⟩
  · obtain ⟨k, hk, heq⟩ := hfit.nearest j hj
    exact ⟨k, hk, fun k' hk' => hk'.unique hk hstart.1 hstart.2, heq⟩
  · -- the nearest factor is one
    have hone : Nearest r.horizontal r.vertical r.start 1 :=
      ⟨⟨zero_le_one, by rwa [Size.scale_one]⟩, fun j _ => by simp⟩
    obtain ⟨k, hk, heq⟩ := hfit.nearest 1 hone.feasible
    rw [heq, hk.unique hone hstart.1 hstart.2, Size.scale_one]
  · obtain ⟨k, -, heq⟩ := hfit.nearest j hj
    refine hratio ?_
    rw [heq]
    exact mul_right_comm k _ _

/-- An image of 100 by 70 points, to be at most 50 wide and 60 high, and at least 20 wide. -/
def cramped : SizeRequest ℚ :=
  { natural := ⟨100, 70⟩, width := none, height := none, minWidth := 20, maxWidth := some 50
    minHeight := 0, maxHeight := some 60, stretch := false }

theorem resolve_nearest_cramped :
    cramped.stretch = false ∧ (0 < cramped.natural.width ∧ 0 < cramped.natural.height) ∧
      (0 < cramped.start.width ∧ 0 < cramped.start.height) ∧
      Feasible cramped.horizontal cramped.vertical cramped.start (2 / 5) ∧
      ∃ k, Nearest cramped.horizontal cramped.vertical cramped.start k ∧
        cramped.resolve = cramped.start.scale k ∧ cramped.resolve = ⟨50, 35⟩ := by
  have hnatural : 0 < cramped.natural.width ∧ 0 < cramped.natural.height := by decide +kernel
  have hstart : 0 < cramped.start.width ∧ 0 < cramped.start.height := by decide +kernel
  have hfeasible : Feasible cramped.horizontal cramped.vertical cramped.start (2 / 5) :=
    ⟨by decide +kernel, contains_ofLimits.mpr (by decide +kernel),
      contains_ofLimits.mpr (by decide +kernel)⟩
  obtain ⟨-, hnearest, -, -⟩ := resolve_nearest cramped rfl hnatural hstart
  obtain ⟨k, hk, -, heq⟩ := hnearest _ hfeasible
  exact ⟨rfl, hnatural, hstart, hfeasible, k, hk, heq, by decide +kernel⟩

/-- **Stretching under bounds.** Where stretching enlarges a natural size of positive sides, it scales
it by the greatest factor that passes no maximum, and the size is within the bounds if any factor brings
the natural size there. Where it does not enlarge, the size is within the bounds unless it has no area
before these are looked at. -/
theorem stretched_within (r : SizeRequest ℚ) (hstretch : r.stretch = true)
    (hnatural : 0 < r.natural.width ∧ 0 < r.natural.height) :
    (r.Enlarges →
      (∃ k, 1 < k ∧ r.resolve = r.natural.scale k ∧
        ∀ j, r.horizontal.Admits (j * r.natural.width) ∧ r.vertical.Admits (j * r.natural.height) ↔
          j ≤ k) ∧
      ∀ j, Feasible r.horizontal r.vertical r.natural j → r.resolve.Within r.horizontal r.vertical) ∧
    (¬ r.Enlarges → 0 < r.start.width ∧ 0 < r.start.height →
      r.resolve.Within r.horizontal r.vertical) := by
  refine ⟨fun henlarges => ?_, fun hkeeps hstart => ?_⟩
  · obtain ⟨k, hone, heq, hle⟩ := resolve_of_enlarges hstretch hnatural henlarges
    refine ⟨⟨k, hone, heq, hle⟩, fun j hj => ?_⟩
    have hjk := (hle j).mp ⟨hj.within.width.le_max, hj.within.height.le_max⟩
    obtain ⟨hwidth, hheight⟩ := (hle k).mpr (le_refl k)
    rw [heq]
    have hgrown := mul_le_mul_of_nonneg_right hjk (le_of_lt hnatural.1)
    have hgrown' := mul_le_mul_of_nonneg_right hjk (le_of_lt hnatural.2)
    exact ⟨⟨le_trans hj.within.width.min_le hgrown, hwidth⟩,
      ⟨le_trans hj.within.height.min_le hgrown', hheight⟩⟩
  · rw [resolve_eq_clamp hnatural hstart fun _ => hkeeps]
    exact (bestFit_clamp r.proper_horizontal r.proper_vertical hstart.1 hstart.2).within

/-- An image of 10 by 20 points, to be stretched to at most 20 by 60 points and to a height of at
least 50. -/
def tooLow : SizeRequest ℚ :=
  { natural := ⟨10, 20⟩, width := none, height := none, minWidth := 0, maxWidth := some 20
    minHeight := 50, maxHeight := some 60, stretch := true }

/-- The same image, requested with no width and between 5 and 8 points wide. -/
def withoutWidth : SizeRequest ℚ :=
  { tooLow with width := some 0, minWidth := 5, maxWidth := some 8, minHeight := 0 }

/-- Stretching can leave a size outside its bounds: below a minimum if it enlarges, and anywhere if it
does not and a side without length is requested. -/
theorem stretched_out_of_bounds :
    (tooLow.resolve = ⟨20, 40⟩ ∧ ¬ tooLow.resolve.Within tooLow.horizontal tooLow.vertical) ∧
    (withoutWidth.resolve = ⟨0, 0⟩ ∧
      ¬ withoutWidth.resolve.Within withoutWidth.horizontal withoutWidth.vertical) ∧
    ¬ ∀ r : SizeRequest ℚ, r.stretch = true → 0 < r.natural.width ∧ 0 < r.natural.height →
        r.maxWidth.isSome = true ∧ r.maxHeight.isSome = true →
          r.resolve.Within r.horizontal r.vertical := by
  have htooLow : tooLow.resolve = ⟨20, 40⟩ := by decide +kernel
  have hwithoutWidth : withoutWidth.resolve = ⟨0, 0⟩ := by decide +kernel
  have hlow : ¬ tooLow.resolve.Within tooLow.horizontal tooLow.vertical := by
    rw [htooLow]
    intro h
    exact absurd (contains_ofLimits.mp h.height).1 (by decide +kernel)
  have hnarrow : ¬ withoutWidth.resolve.Within withoutWidth.horizontal withoutWidth.vertical := by
    rw [hwithoutWidth]
    intro h
    exact absurd (contains_ofLimits.mp h.width).1 (by decide +kernel)
  exact ⟨⟨htooLow, hlow⟩, ⟨hwithoutWidth, hnarrow⟩,
    fun h => hlow (h tooLow rfl (by decide +kernel) ⟨rfl, rfl⟩)⟩

/-- An image of 10 by 20 points, to be stretched to at most 25 by 60 points and to a height of at least
45. -/
def roomy : SizeRequest ℚ := { tooLow with maxWidth := some 25, minHeight := 45 }

/-- An image of 40 by 20 points, under the first bounds. -/
def wide : SizeRequest ℚ := { tooLow with natural := ⟨40, 20⟩ }

theorem stretched_within_roomy :
    (roomy.stretch = true ∧ (0 < roomy.natural.width ∧ 0 < roomy.natural.height) ∧ roomy.Enlarges ∧
      Feasible roomy.horizontal roomy.vertical roomy.natural (12 / 5) ∧
      roomy.resolve.Within roomy.horizontal roomy.vertical ∧ roomy.resolve = ⟨25, 50⟩) ∧
    wide.stretch = true ∧ ¬ wide.Enlarges ∧ wide.resolve.Within wide.horizontal wide.vertical ∧
      wide.resolve = ⟨20, 50⟩ := by
  have hnatural : 0 < roomy.natural.width ∧ 0 < roomy.natural.height := by decide +kernel
  have henlarges : roomy.Enlarges :=
    ⟨25, 60, by decide +kernel, by decide +kernel, by decide +kernel, by decide +kernel⟩
  have hfeasible : Feasible roomy.horizontal roomy.vertical roomy.natural (12 / 5) :=
    ⟨by decide +kernel, contains_ofLimits.mpr (by decide +kernel),
      contains_ofLimits.mpr (by decide +kernel)⟩
  have hkeeps : ¬ wide.Enlarges := by
    rintro ⟨maxW, maxH, hmaxW, -, hlt, -⟩
    rw [show wide.horizontal.max = some 20 by decide +kernel, Option.some.injEq] at hmaxW
    rw [← hmaxW] at hlt
    exact absurd hlt (by decide +kernel)
  obtain ⟨hstretched, -⟩ := stretched_within roomy rfl hnatural
  obtain ⟨-, hkept⟩ := stretched_within wide rfl (by decide +kernel)
  exact ⟨⟨rfl, hnatural, henlarges, hfeasible, (hstretched henlarges).2 _ hfeasible, by decide +kernel⟩,
    rfl, hkeeps, hkept hkeeps (by decide +kernel), by decide +kernel⟩

end SizeRequest

end PageGrid
