import PageGrid.Proofs.Grid.Axis
import PageGrid.Proofs.Grid.Requests

/-!
# The type area

The grid of a page fills what the margins leave of it. Where a number of columns or rows is asked for, the
cells and the gaps between them are as long as the room there is. Where the size of a cell is given, there
are as many cells as there is room for: they may stand out by the tolerance of counts, and one more would
be too long.

The last cell of every frame therefore ends inside the margins, up to the tolerance, since a frame is
inside the grid and the offsets of cells are pitches from the margin. There is no gap behind the last cell,
which is why the room is counted with one gap more.

These are statements about exact scalars with gaps that are not negative. What an axis takes over from what
is asked for needs no such assumption.

## Main definitions

* `Grid.typeArea` — the room that the margins leave;
* `AxisSettings.Refused` — what cannot be had in some room;
* `Axis.Fills` — the cells fill the room;
* `Grid.EndsInside` — a frame ends inside the margins.

## Main results

* `Axis.fills_of_resolve`, `Axis.refused_iff` — along one direction;
* `forPage_fills` — the grid of a page.
-/

namespace PageGrid

/-! ### One direction -/

namespace Axis

/-- The gap is the one that is asked for, and so is the size of the cells unless their number is. The cells
of an axis are never without size. -/
theorem resolve_eq_ok {α : Type} [Scalar α] {d : Direction} {s : AxisSettings α} {available : α} {a : Axis α}
    (h : resolve d s available = .ok a) :
    a.gap = s.gap ∧ ¬ a.cell ≤ 0 ∧ (s.count = none → a.cell = s.cell) := by
  rw [resolve] at h
  split at h
  · cases h
  · next hcount =>
    dsimp only at h
    split at h
    · cases h
    · next hcell =>
      cases h
      exact ⟨rfl, hcell, by simp [hcount]⟩
  · split at h
    · cases h
    · next hcell =>
      cases h
      exact ⟨rfl, hcell, fun _ => rfl⟩

end Axis

/-- What cannot be had along a direction: no cells at all, cells for which the gaps leave no room, cells
without size, or cells of which not even one fits. -/
def AxisSettings.Refused (s : AxisSettings ℚ) (available : ℚ) : Prop :=
  match s.count with
  | some n => n = 0 ∨ (available - (n - 1) * s.gap) / n ≤ 0
  | none => s.cell ≤ 0 ∨ available + 5 / 1000 * (s.cell + s.gap) < s.cell

/-- The number of whole cells that there is room for, with the tolerance. -/
def AxisSettings.fitting (s : AxisSettings ℚ) (available : ℚ) : ℕ :=
  ⌊(available + s.gap) / (s.cell + s.gap) + 5 / 1000⌋₊

/-- The cells fill the available length: exactly if their number is asked for, and otherwise as far as whole
cells can. -/
structure Axis.Fills (s : AxisSettings ℚ) (available : ℚ) (a : Axis ℚ) : Prop where
  gap : a.gap = s.gap
  count : 1 ≤ a.count
  cell : 0 < a.cell
  requested : ∀ n, s.count = some n → a.count = n ∧ a.span n = available
  sized : s.count = none → a.cell = s.cell ∧ a.span a.count ≤ available + 5 / 1000 * (s.cell + s.gap) ∧
    available < a.span (a.count + 1)

namespace Axis

variable {d : Direction} {s : AxisSettings ℚ} {available : ℚ} {a : Axis ℚ} {n : ℕ}

theorem Fills.span_le (ha : a.Fills s available) (hgap : 0 ≤ s.gap) :
    a.span a.count ≤ available + 5 / 1000 * a.pitch := by
  cases hs : s.count with
  | some n =>
    obtain ⟨hcount, hspan⟩ := ha.requested n hs
    have hpitch : 0 < a.pitch := add_pos_of_pos_of_nonneg ha.cell (ha.gap ▸ hgap)
    rw [hcount, hspan]
    linarith
  | none =>
    obtain ⟨hcell, hspan, -⟩ := ha.sized hs
    rwa [pitch, hcell, ha.gap]

/-! #### A number of cells -/

/-- The size of each of some cells that fill the room. -/
theorem resolve_requested (hs : s.count = some (n + 1)) :
    resolve d s available =
      if (available - n * s.gap) / (n + 1) ≤ 0 then
        .error (.countTooLarge d (n + 1) s.gap available)
      else .ok ⟨(available - n * s.gap) / (n + 1), s.gap, n + 1⟩ := by
  have hcast : (Scalar.ofNat (n + 1) : ℚ) = n + 1 := Nat.cast_succ n
  rw [resolve, hs, ← hcast]
  rfl

/-- Cells of that size are as long as the room with the gaps between them. -/
theorem span_requested (available gap : ℚ) (n : ℕ) :
    (⟨(available - n * gap) / (n + 1), gap, n + 1⟩ : Axis ℚ).span (n + 1) = available := by
  have hpos : (n : ℚ) + 1 ≠ 0 := Nat.cast_add_one_ne_zero n
  rw [span_of_ne_zero _ n.succ_ne_zero]
  push_cast
  rw [mul_div_cancel₀ _ hpos]
  ring

/-! #### The size of cells -/

/-- As many cells as there is room for. -/
theorem resolve_sized (hs : s.count = none) (hcell : 0 < s.cell) :
    resolve d s available = .ok ⟨s.cell, s.gap, min (s.fitting available) countLimit⟩ := by
  rw [resolve, hs, AxisSettings.fitting, ← Scalar.floorCount_eq]
  exact if_neg (not_le.mpr hcell)

/-- So many cells and no more than that fit. -/
theorem le_fitting_iff (hcell : a.cell = s.cell) (hgap : a.gap = s.gap) (hpitch : 0 < s.cell + s.gap)
    (hn : n ≠ 0) :
    n ≤ s.fitting available ↔ a.span n ≤ available + 5 / 1000 * (s.cell + s.gap) := by
  have hspan : a.span n + s.gap = n * (s.cell + s.gap) := by
    rw [← hgap, span_add_gap a hn, pitch, hcell]
  rw [AxisSettings.fitting, Nat.le_floor_iff' hn, ← sub_le_iff_le_add, le_div_iff₀ hpitch]
  constructor <;> intro h <;> linarith

/-- A single cell is as long as the cell. -/
theorem span_one (a : Axis ℚ) : a.span 1 = a.cell := by
  rw [span_of_ne_zero a one_ne_zero]
  push_cast
  ring

/-! #### Both ways -/

/-- What is refused along a direction, where an axis without cells counts as refused. -/
theorem refused_iff (hgap : 0 ≤ s.gap) :
    s.Refused available ↔ ∀ a, resolve d s available = .ok a → a.count = 0 := by
  unfold AxisSettings.Refused
  split
  · next n hs =>
    cases n with
    | zero =>
      have hresolve : resolve d s available = .error (.zeroCount d) := by rw [resolve, hs]
      simp [hresolve]
    | succ n =>
      rw [resolve_requested hs]
      push_cast
      rw [add_sub_cancel_right]
      split
      · next h => simp [h]
      · next h => simp [h]
  · next hs =>
    by_cases hcell : s.cell ≤ 0
    · have hresolve : resolve d s available = .error (.cellNotPositive d) := by
        rw [resolve, hs]
        exact if_pos hcell
      simp [hresolve, hcell]
    · have hpositive : 0 < s.cell := not_le.mp hcell
      have hone : 1 ≤ s.fitting available ↔ s.cell ≤ available + 5 / 1000 * (s.cell + s.gap) := by
        rw [le_fitting_iff (a := ⟨s.cell, s.gap, 1⟩) rfl rfl (by linarith) one_ne_zero, span_one]
      have hlimit := one_le_countLimit
      have hcount : min (s.fitting available) countLimit = 0 ↔ ¬ 1 ≤ s.fitting available := by omega
      rw [resolve_sized hs hpositive, or_iff_right hcell, ← not_le, ← hone, ← hcount]
      simp

/-- **An axis with cells fills the room.** -/
theorem fills_of_resolve (hgap : 0 ≤ s.gap) (h : resolve d s available = .ok a) (hcount : a.count ≠ 0)
    (hlimit : a.count < countLimit) : a.Fills s available := by
  obtain ⟨hgap', hcell, -⟩ := resolve_eq_ok h
  refine ⟨hgap', Nat.pos_of_ne_zero hcount, not_le.mp hcell, fun n hs => ?_, fun hs => ?_⟩
  · cases n with
    | zero =>
      rw [resolve, hs] at h
      cases h
    | succ n =>
      rw [resolve_requested hs] at h
      split at h
      · cases h
      · cases h
        exact ⟨rfl, span_requested available s.gap n⟩
  · have hpositive : 0 < s.cell := by
      by_contra hnot
      rw [resolve, hs] at h
      cases (if_pos (not_lt.mp hnot)).symm.trans h
    rw [resolve_sized hs hpositive] at h
    cases h
    have hpitch : 0 < s.cell + s.gap := add_pos_of_pos_of_nonneg hpositive hgap
    have hfits (n : ℕ) (hn : n ≠ 0) : n ≤ s.fitting available ↔
        (⟨s.cell, s.gap, min (s.fitting available) countLimit⟩ : Axis ℚ).span n ≤
          available + 5 / 1000 * (s.cell + s.gap) :=
      le_fitting_iff rfl rfl hpitch hn
    have hall : min (s.fitting available) countLimit ≤ s.fitting available := min_le_left _ _
    have hlimit : min (s.fitting available) countLimit < countLimit := hlimit
    have hmore : ¬ min (s.fitting available) countLimit + 1 ≤ s.fitting available := by omega
    refine ⟨rfl, (hfits _ hcount).mp hall, ?_⟩
    have hlong := not_le.mp fun h => hmore ((hfits _ (Nat.succ_ne_zero _)).mpr h)
    linarith

end Axis

/-! ### The grid of a page -/

namespace Grid

/-- The room that the margins of a page leave. -/
def typeArea {α : Type} [Scalar α] (page : Size α) (margins : Margins α) : Size α :=
  ⟨page.width - margins.left - margins.right, page.height - margins.top - margins.bottom⟩

/-- A page gets a grid if there is room, and both directions have cells. -/
theorem forPage_eq_ok_iff {α : Type} [Scalar α] {page : Size α} {margins : Margins α}
    {settings : GridSettings α} {g : Grid α} :
    forPage page margins settings = .ok g ↔
      (¬ (typeArea page margins).width ≤ 0 ∧ ¬ (typeArea page margins).height ≤ 0) ∧
      ∃ horizontal vertical,
        Axis.resolve .horizontal settings.horizontal (typeArea page margins).width = .ok horizontal ∧
        Axis.resolve .vertical settings.vertical (typeArea page margins).height = .ok vertical ∧
        (horizontal.count ≠ 0 ∧ vertical.count ≠ 0) ∧ build horizontal vertical margins false = g := by
  rw [← not_or]
  constructor
  · intro h
    rw [forPage] at h
    dsimp only at h
    split at h
    · cases h
    · next hroom =>
      obtain ⟨horizontal, hh, h⟩ := bind_eq_ok.mp h
      obtain ⟨vertical, hv, h⟩ := bind_eq_ok.mp h
      split at h
      · cases h
      · next hn => exact ⟨hroom, horizontal, vertical, hh, hv, not_or.mp hn, Except.ok.inj h⟩
  · rintro ⟨hroom, horizontal, vertical, hh, hv, hn, rfl⟩
    rw [forPage]
    dsimp only
    refine (if_neg hroom).trans ?_
    refine bind_eq_ok.mpr ⟨horizontal, hh, bind_eq_ok.mpr ⟨vertical, hv, ?_⟩⟩
    rw [if_neg (not_or.mpr hn)]
    rfl

/-- A frame ends inside the margins: its last column and its last row stand out by no more than the
tolerance. -/
structure EndsInside (page : Size ℚ) (margins : Margins ℚ) (g : Grid ℚ) (name : String) (f : Frame) :
    Prop where
  right : ∃ x, g.posX f.width name = .ok x ∧
    x + g.horizontal.cell ≤ page.width - margins.right + 5 / 1000 * g.horizontal.pitch
  bottom : ∃ y, g.posY f.height name = .ok y ∧
    y + g.vertical.cell ≤ page.height - margins.bottom + 5 / 1000 * g.vertical.pitch

variable {page : Size ℚ} {margins : Margins ℚ} {settings : GridSettings ℚ} {g g' : Grid ℚ}
  {name : String}

/-- What is refused of a page. -/
theorem forPage_eq_error_iff (hx : 0 ≤ settings.horizontal.gap) (hy : 0 ≤ settings.vertical.gap) :
    (∃ fault, forPage page margins settings = .error fault) ↔
      (typeArea page margins).width ≤ 0 ∨ (typeArea page margins).height ≤ 0 ∨
      settings.horizontal.Refused (typeArea page margins).width ∨
      settings.vertical.Refused (typeArea page margins).height := by
  rw [Axis.refused_iff (d := .horizontal) hx, Axis.refused_iff (d := .vertical) hy]
  constructor
  · rintro ⟨fault, hfault⟩
    by_contra hnot
    simp only [not_or, not_forall] at hnot
    obtain ⟨hwidth, hheight, ⟨horizontal, hh, hcolumns⟩, vertical, hv, hrows⟩ := hnot
    have hok := forPage_eq_ok_iff.mpr
      ⟨⟨hwidth, hheight⟩, horizontal, vertical, hh, hv, ⟨hcolumns, hrows⟩, rfl⟩
    cases hok.symm.trans hfault
  · intro hrefused
    cases hg : forPage page margins settings with
    | error fault => exact ⟨fault, rfl⟩
    | ok g =>
      obtain ⟨⟨hwidth, hheight⟩, horizontal, vertical, hh, hv, ⟨hcolumns, hrows⟩, -⟩ :=
        forPage_eq_ok_iff.mp hg
      obtain h | h | h | h := hrefused
      · exact absurd h hwidth
      · exact absurd h hheight
      · exact absurd (h _ hh) hcolumns
      · exact absurd (h _ hv) hrows

/-! #### Frames -/

/-- A cell of an axis that fills the room ends inside the room, up to the tolerance. -/
theorem offset_add_cell_le {a : Axis ℚ} {s : AxisSettings ℚ} {available : ℚ} (ha : a.Fills s available)
    (hgap : 0 ≤ s.gap) {last : ℕ} (hlast : last ≤ a.count) :
    a.offset last + a.cell ≤ available + 5 / 1000 * a.pitch := by
  have hproper : a.Proper := ⟨ha.cell, ha.gap ▸ hgap⟩
  have hoffset : a.offset last = (last - 1) * a.pitch := by
    rw [Axis.offset, ← Int.cast_natCast (R := ℚ), ← Int.cast_one (R := ℚ), ← Int.cast_sub]
    rfl
  have hend : (last : ℚ) * a.pitch ≤ a.count * a.pitch :=
    mul_le_mul_of_nonneg_right (Nat.cast_le.mpr hlast) hproper.pitch_pos.le
  have hpitch : a.pitch = a.cell + a.gap := rfl
  calc a.offset last + a.cell = last * a.pitch - a.gap := by rw [hoffset, hpitch]; ring
    _ ≤ a.count * a.pitch - a.gap := sub_le_sub_right hend _
    _ = a.span a.count := (eq_sub_of_add_eq (Axis.span_add_gap a (Nat.ne_of_gt ha.count))).symm
    _ ≤ available + 5 / 1000 * a.pitch := ha.span_le hgap

/-- Frames inside a grid that fills the type area end inside the margins. -/
theorem endsInside {f : Frame} (hx : 0 ≤ settings.horizontal.gap) (hy : 0 ≤ settings.vertical.gap)
    (hm : g.margins = margins)
    (hh : g.horizontal.Fills settings.horizontal (typeArea page margins).width)
    (hv : g.vertical.Fills settings.vertical (typeArea page margins).height)
    (hframed : g.Framed) (hf : g.frame name = .ok f) : EndsInside page margins g name f := by
  subst hm
  obtain ⟨a, ha, rfl⟩ := frame_eq_ok.mp hf
  have hheld := hframed name a ha a.active.toFrameSpec (by simp [Area.specs, Area.frames])
  obtain ⟨-, -, ⟨hcolumn, hright⟩, ⟨hrow, hbottom⟩, -, -⟩ := wellPlaced_of_holdsFrame hheld
  change 1 ≤ a.active.column at hcolumn
  change 1 ≤ a.active.row at hrow
  change a.active.column + a.active.width ≤ g.horizontal.count + 1 at hright
  change a.active.row + a.active.height ≤ g.vertical.count + 1 at hbottom
  have hlastColumn : a.active.absoluteColumn a.active.width =
      ((a.active.column + a.active.width - 1 : ℕ) : ℤ) := by
    rw [Frame.absoluteColumn]
    omega
  have hlastRow : a.active.absoluteRow a.active.height =
      ((a.active.row + a.active.height - 1 : ℕ) : ℤ) := by
    rw [Frame.absoluteRow]
    omega
  have hwidth : g.horizontal.offset (a.active.column + a.active.width - 1 : ℕ) + g.horizontal.cell ≤
      page.width - g.margins.left - g.margins.right + 5 / 1000 * g.horizontal.pitch :=
    offset_add_cell_le hh hx (by omega)
  have hheight : g.vertical.offset (a.active.row + a.active.height - 1 : ℕ) + g.vertical.cell ≤
      page.height - g.margins.top - g.margins.bottom + 5 / 1000 * g.vertical.pitch :=
    offset_add_cell_le hv hy (by omega)
  constructor
  · refine ⟨g.margins.left + g.horizontal.offset (a.active.absoluteColumn a.active.width), ?_, ?_⟩
    · rw [posX, hf]
      rfl
    · rw [hlastColumn]
      linarith
  · refine ⟨g.margins.top + g.vertical.offset (a.active.absoluteRow a.active.height), ?_, ?_⟩
    · rw [posY, hf]
      rfl
    · rw [hlastRow]
      linarith

/-! #### Operations on the grid -/

section Operations

variable {α : Type} {g g' : Grid α}

/-- Operations keep the grid bounded and do not move its cells. -/
theorem bounded_of_operations (h : Relation.ReflTransGen Operation g g') (hg : g.Bounded) :
    g'.Bounded ∧ g'.horizontal = g.horizontal ∧ g'.vertical = g.vertical ∧ g'.margins = g.margins := by
  induction h with
  | refl => exact ⟨hg, rfl, rfl, rfl⟩
  | tail _ hstep ih =>
    obtain ⟨hbounded, hh, hv, hm⟩ := ih
    exact ⟨hstep.bounded hbounded, hstep.grown.horizontal.trans hh, hstep.grown.vertical.trans hv,
      hstep.margins.trans hm⟩

/-- The flow of an area can be brought to any of the frames that are to come. -/
theorem exists_operations_active {a : Area} {spec : FrameSpec} (ha : g.area? name = some a)
    (hspec : spec ∈ (a.active :: a.later).map (·.toFrameSpec)) :
    ∃ g' f, Relation.ReflTransGen Operation g g' ∧ g'.frame name = .ok f ∧ f.toFrameSpec = spec := by
  generalize hlater : a.later = later at hspec
  induction later generalizing g a with
  | nil => exact ⟨g, a.active, .refl, frame_eq_ok.mpr ⟨a, ha, rfl⟩, (List.mem_singleton.mp hspec).symm⟩
  | cons next later ih =>
    obtain rfl | hspec := List.mem_cons.mp hspec
    · exact ⟨g, a.active, .refl, frame_eq_ok.mpr ⟨a, ha, rfl⟩, rfl⟩
    · let b : Area := { a with earlier := a.active :: a.earlier, active := next.reset, later := later }
      have hb : a.advance? = some b := Area.advance?_eq_some.mpr ⟨next, later, hlater, rfl⟩
      have hadvance : g.advanceFrame name = .ok (g.updateArea name fun _ => b, true) := by
        rw [advanceFrame, area_eq_ok.mpr ha, Except.map, hb]
      have harea : (g.updateArea name fun _ => b).area? name = some b :=
        (area?_updateArea_advance ha hb name).trans (if_pos rfl)
      obtain ⟨g', f, hsteps, hframe, hactive⟩ := ih harea rfl hspec
      exact ⟨g', f, .head (.advanceFrame hadvance) hsteps, hframe, hactive⟩

/-- Every frame of an area that is defined can become the one in which the flow is. -/
theorem exists_operations_of_defineArea {frames : List FrameSpec} {spec : FrameSpec}
    (h : g.defineArea name frames = .ok g') (hspec : spec ∈ frames) :
    ∃ g'' f, Relation.ReflTransGen Operation g' g'' ∧ g''.frame name = .ok f ∧ f.toFrameSpec = spec := by
  obtain ⟨a, ha, -, rfl⟩ := defineArea_eq_ok h
  have harea := (area?_defineArea (g := g) ha name).trans (if_pos rfl)
  have hspecs : (a.active :: a.later).map (·.toFrameSpec) = frames := by
    cases frames with
    | nil => cases ha
    | cons first rest =>
      cases ha
      simp [Frame.ofSpec, Function.comp_def]
  exact exists_operations_active harea (hspecs ▸ hspec)

end Operations

/-- **The grid fills the type area and stays inside it.** For gaps that are not negative, a page gets no
grid exactly where the margins leave no room or one of the directions is refused. Otherwise the cells fill
the room in both directions, unless their number is cut to the limit of counts. Whatever is then asked of
the grid, the frame in which the flow of an area is ends inside the margins, and every frame that is accepted
for an area can become that frame. -/
theorem forPage_fills (page : Size ℚ) (margins : Margins ℚ) (settings : GridSettings ℚ)
    (hx : 0 ≤ settings.horizontal.gap) (hy : 0 ≤ settings.vertical.gap) :
    ((∃ fault, forPage page margins settings = .error fault) ↔
      (typeArea page margins).width ≤ 0 ∨ (typeArea page margins).height ≤ 0 ∨
      settings.horizontal.Refused (typeArea page margins).width ∨
      settings.vertical.Refused (typeArea page margins).height) ∧
    ∀ g, forPage page margins settings = .ok g → g.columns < countLimit → g.rows < countLimit →
      g.horizontal.Fills settings.horizontal (typeArea page margins).width ∧
      g.vertical.Fills settings.vertical (typeArea page margins).height ∧
      (∀ g' name f, Relation.ReflTransGen Operation g g' → g'.frame name = .ok f →
        EndsInside page margins g' name f) ∧
      ∀ g₁ g₂ name frames, Relation.ReflTransGen Operation g g₁ → g₁.defineArea name frames = .ok g₂ →
        ∀ spec ∈ frames, ∃ g' f, Relation.ReflTransGen Operation g₂ g' ∧ g'.frame name = .ok f ∧
          f.toFrameSpec = spec ∧ EndsInside page margins g' name f := by
  refine ⟨forPage_eq_error_iff hx hy, fun g hg hcolumns hrows => ?_⟩
  obtain ⟨-, horizontal, vertical, hh, hv, ⟨hc, hr⟩, rfl⟩ := forPage_eq_ok_iff.mp hg
  have hfillsx := Axis.fills_of_resolve hx hh hc hcolumns
  have hfillsy := Axis.fills_of_resolve hy hv hr hrows
  have hbounded : (build horizontal vertical margins false).Bounded :=
    bounded_build ⟨hc, hcolumns.le⟩ ⟨hr, hrows.le⟩
  have hinside (g' : Grid ℚ) (name : String) (f : Frame)
      (hsteps : Relation.ReflTransGen Operation (build horizontal vertical margins false) g')
      (hf : g'.frame name = .ok f) : EndsInside page margins g' name f := by
    obtain ⟨hbounded', hh', hv', hm'⟩ := bounded_of_operations hsteps hbounded
    exact endsInside hx hy hm' (hh' ▸ hfillsx) (hv' ▸ hfillsy) hbounded'.framed hf
  refine ⟨hfillsx, hfillsy, hinside, fun g₁ g₂ name frames hsteps hdefine spec hspec => ?_⟩
  obtain ⟨g', f, hturns, hf, rfl⟩ := exists_operations_of_defineArea hdefine hspec
  exact ⟨g', f, hturns, hf, rfl, hinside g' name f ((hsteps.tail (.defineArea hdefine)).trans hturns) hf⟩

/-- Four columns and rows of ten points, all two points apart. -/
def fourColumns : GridSettings ℚ := ⟨⟨10, 2, some 4⟩, ⟨10, 2, none⟩⟩

/-- On a page of 120 by 120 points with margins of ten points, the columns are as long as the room, and
there is room for eight rows. The right half of the page can be the second frame of an area, and it ends
inside the margins when its turn comes. -/
theorem forPage_fills_fourColumns :
    (0 ≤ fourColumns.horizontal.gap ∧ 0 ≤ fourColumns.vertical.gap) ∧
    ∃ g g₂, forPage ⟨120, 120⟩ (.all 10) fourColumns = .ok g ∧
      (g.columns < countLimit ∧ g.rows < countLimit) ∧
      g.horizontal.span 4 = 100 ∧ g.vertical.count = 8 ∧ 100 < g.vertical.span 9 ∧
      g.defineArea "side" [⟨1, 1, 2, 8⟩, ⟨3, 1, 2, 8⟩] = .ok g₂ ∧
      ∃ g' f, Relation.ReflTransGen Operation g₂ g' ∧ g'.frame "side" = .ok f ∧
        f.toFrameSpec = ⟨3, 1, 2, 8⟩ ∧ EndsInside ⟨120, 120⟩ (.all 10) g' "side" f := by
  have hgaps : 0 ≤ fourColumns.horizontal.gap ∧ 0 ≤ fourColumns.vertical.gap := by decide +kernel
  obtain ⟨-, hfills⟩ := forPage_fills ⟨120, 120⟩ (.all 10) fourColumns hgaps.1 hgaps.2
  have hpage : forPage ⟨120, 120⟩ (.all 10) fourColumns =
      .ok (.build ⟨47 / 2, 2, 4⟩ ⟨10, 2, 8⟩ (.all 10) false) := by decide +kernel
  obtain ⟨hh, hv, -, hframes⟩ := hfills _ hpage (by decide) (by decide)
  have hroom : (typeArea ⟨120, 120⟩ (.all 10) : Size ℚ) = ⟨100, 100⟩ := by decide +kernel
  rw [hroom] at hh hv
  refine ⟨hgaps, _, _, hpage, by decide, (hh.requested 4 rfl).2, rfl, (hv.sized rfl).2.2, rfl, ?_⟩
  exact hframes _ _ "side" [⟨1, 1, 2, 8⟩, ⟨3, 1, 2, 8⟩] .refl rfl _ (by simp)

end Grid

end PageGrid
