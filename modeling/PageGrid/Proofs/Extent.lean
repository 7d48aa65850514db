import PageGrid.Group
import PageGrid.Proofs.Grid.Axis

/-!
# Bounding boxes

The extent of some items is made by joining their rectangles one after the other. A union stores a width and
not its right edge, but over exact scalars the edges of a union are the extremes of the edges. So the edges
of the extent are the extremes of those of the items, and they determine the extent, which therefore is the
smallest rectangle around the items, in whatever order these are joined.

The box of a group begins at the origin of the group and not at its extent. It ends with the last of the
items, or at the origin if all of them end before it. Items that begin behind the origin are therefore within
the box wherever it is placed, and within the cells that the box takes, up to the gap behind these and the
tolerance. The latter asks for a pitch that is positive and a number of cells that can be counted.

A rectangle is within another one if none of its four edges is outside, where the right edge is the left one
moved by the width, also if the width is negative.

## Main definitions

* `Rect.Within`, `Rect.IsHull` — a rectangle within another one, and the rectangle with the extreme edges;
* `Axis.Counts`, `Axis.reach` — cells can be counted, and how far things in them reach;
* `Placed.moved` — an item in a box that is somewhere.

## Main results

* `Rect.hull_eq_some_iff` — joined rectangles have the extreme edges;
* `Rect.IsHull.within_iff` — that is the smallest rectangle around them;
* `Axis.le_reach_cellsFor` — a length in the cells that it takes;
* `group_measured` — the extent, the size and the box of a group.
-/

namespace PageGrid

namespace Rect

variable {r s t : Rect ℚ} {rs rs' : List (Rect ℚ)}

/-- No edge of the first rectangle is outside of the second one. -/
structure Within (r s : Rect ℚ) : Prop where
  left : s.x ≤ r.x
  top : s.y ≤ r.y
  right : r.right ≤ s.right
  bottom : r.bottom ≤ s.bottom

theorem Within.trans (h : r.Within s) (h' : s.Within t) : r.Within t :=
  ⟨h'.left.trans h.left, h'.top.trans h.top, h.right.trans h'.right, h.bottom.trans h'.bottom⟩

/-! ### Edges -/

/-- An edge of all rectangles of a list. -/
def edges (edge : Rect ℚ → ℚ) (rs : List (Rect ℚ)) : Set ℚ := {x | ∃ r ∈ rs, edge r = x}

/-- The edges of the rectangle are the extremes of the edges of the list. -/
structure IsHull (rs : List (Rect ℚ)) (r : Rect ℚ) : Prop where
  left : IsLeast (edges x rs) r.x
  top : IsLeast (edges y rs) r.y
  right : IsGreatest (edges Rect.right rs) r.right
  bottom : IsGreatest (edges Rect.bottom rs) r.bottom

/-- A rectangle is determined by its edges. -/
theorem ext_edges (hx : r.x = s.x) (hy : r.y = s.y) (hright : r.right = s.right)
    (hbottom : r.bottom = s.bottom) : r = s := by
  obtain ⟨x, y, width, height⟩ := r
  obtain ⟨x', y', width', height'⟩ := s
  obtain rfl : x = x' := hx
  obtain rfl : y = y' := hy
  obtain rfl : width = width' := add_left_cancel hright
  obtain rfl : height = height' := add_left_cancel hbottom
  rfl

theorem IsHull.unique (h : IsHull rs r) (h' : IsHull rs s) : r = s :=
  ext_edges (h.left.unique h'.left) (h.top.unique h'.top) (h.right.unique h'.right)
    (h.bottom.unique h'.bottom)

theorem edges_congr (h : ∀ r, r ∈ rs ↔ r ∈ rs') (edge : Rect ℚ → ℚ) : edges edge rs = edges edge rs' := by
  simp only [edges, h]

theorem IsHull.congr (h : IsHull rs r) (hmem : ∀ s, s ∈ rs ↔ s ∈ rs') : IsHull rs' r := by
  obtain ⟨hleft, htop, hright, hbottom⟩ := h
  rw [edges_congr hmem] at hleft htop hright hbottom
  exact ⟨hleft, htop, hright, hbottom⟩

/-- **The rectangle with the extreme edges** is the smallest one around the list. -/
theorem IsHull.within_iff (h : IsHull rs r) (t : Rect ℚ) : r.Within t ↔ ∀ s ∈ rs, s.Within t := by
  constructor
  · intro ht s hs
    have hsr : s.Within r :=
      ⟨h.left.2 ⟨s, hs, rfl⟩, h.top.2 ⟨s, hs, rfl⟩, h.right.2 ⟨s, hs, rfl⟩, h.bottom.2 ⟨s, hs, rfl⟩⟩
    exact hsr.trans ht
  · intro hall
    obtain ⟨⟨a, ha, hleft⟩, -⟩ := h.left
    obtain ⟨⟨b, hb, htop⟩, -⟩ := h.top
    obtain ⟨⟨c, hc, hright⟩, -⟩ := h.right
    obtain ⟨⟨d, hd, hbottom⟩, -⟩ := h.bottom
    exact ⟨hleft ▸ (hall a ha).left, htop ▸ (hall b hb).top, hright ▸ (hall c hc).right,
      hbottom ▸ (hall d hd).bottom⟩

/-! ### Unions -/

theorem x_union (r s : Rect ℚ) : (r.union s).x = min r.x s.x := Scalar.smaller_eq_min r.x s.x

theorem y_union (r s : Rect ℚ) : (r.union s).y = min r.y s.y := Scalar.smaller_eq_min r.y s.y

/-- The width that a union stores gives the right edge back. -/
theorem right_union (r s : Rect ℚ) : (r.union s).right = max r.right s.right := by
  rw [← Scalar.larger_eq_max]
  exact add_sub_cancel _ _

theorem bottom_union (r s : Rect ℚ) : (r.union s).bottom = max r.bottom s.bottom := by
  rw [← Scalar.larger_eq_max]
  exact add_sub_cancel _ _

theorem edges_append (edge : Rect ℚ → ℚ) (rs rs' : List (Rect ℚ)) :
    edges edge (rs ++ rs') = edges edge rs ∪ edges edge rs' := by
  ext x
  simp [edges, or_and_right, exists_or]

theorem edges_singleton (edge : Rect ℚ → ℚ) (r : Rect ℚ) : edges edge [r] = {edge r} := by
  ext x
  simp [edges, eq_comm]

theorem isHull_singleton (r : Rect ℚ) : IsHull [r] r := by
  constructor
  all_goals rw [edges_singleton]
  · exact isLeast_singleton
  · exact isLeast_singleton
  · exact isGreatest_singleton
  · exact isGreatest_singleton

/-- The union of two hulls is the hull of both lists. -/
theorem IsHull.union (h : IsHull rs r) (h' : IsHull rs' s) : IsHull (rs ++ rs') (r.union s) := by
  constructor
  · rw [edges_append, x_union]
    exact h.left.union h'.left
  · rw [edges_append, y_union]
    exact h.top.union h'.top
  · rw [edges_append, right_union]
    exact h.right.union h'.right
  · rw [edges_append, bottom_union]
    exact h.bottom.union h'.bottom

theorem IsHull.foldl_union (h : IsHull rs r) (rs' : List (Rect ℚ)) :
    IsHull (rs ++ rs') (rs'.foldl Rect.union r) := by
  induction rs' generalizing rs r with
  | nil => rwa [List.append_nil]
  | cons s rest ih =>
    rw [List.append_cons]
    exact ih (h.union (isHull_singleton s))

/-- **Joined rectangles** have the extreme edges. -/
theorem hull_eq_some_iff : hull rs = some r ↔ IsHull rs r := by
  cases rs with
  | nil =>
    refine ⟨nofun, fun h => ?_⟩
    obtain ⟨s, hs, -⟩ := h.left.1
    cases hs
  | cons s rest =>
    have hjoined : IsHull (s :: rest) (rest.foldl Rect.union s) := (isHull_singleton s).foldl_union rest
    rw [hull, Option.some.injEq]
    exact ⟨fun h => h ▸ hjoined, hjoined.unique⟩

end Rect

/-! ### Cells -/

namespace Axis

/-- The cells that a length takes can be counted. -/
structure Counts (a : Axis ℚ) (length : ℚ) : Prop where
  pitch : 0 < a.pitch
  count : ⌈length / a.pitch - 5 / 1000⌉₊ ≤ countLimit

/-- How far something reaches at most that takes some cells: over the gap behind them, and the tolerance. -/
def reach (a : Axis ℚ) (cells : ℕ) : ℚ := a.span cells + max a.gap 0 + 5 / 1000 * a.pitch

/-- **A length is within the cells that it takes**, up to a gap and the tolerance. -/
theorem le_reach_cellsFor {a : Axis ℚ} {length : ℚ} (h : a.Counts length) :
    length ≤ a.reach (a.cellsFor length) := by
  have hgap : (0 : ℚ) ≤ max a.gap 0 := le_max_right _ _
  have hpitch := h.pitch
  by_cases hlength : length ≤ 0
  · rw [cellsFor_of_nonpos a hlength, reach, span_zero]
    linarith
  · rw [cellsFor_of_pos a (not_le.mp hlength), min_eq_left h.count]
    have henough := (ceil_le_iff hpitch).mp (le_refl ⌈length / a.pitch - 5 / 1000⌉₊)
    generalize ⌈length / a.pitch - 5 / 1000⌉₊ = n at henough ⊢
    have hcells : n * a.pitch ≤ a.span n + max a.gap 0 := by
      by_cases hn : n = 0
      · simp [hn]
      · have hspan := span_add_gap a hn
        have hle := le_max_left a.gap 0
        linarith
    rw [reach]
    linarith

end Axis

/-! ### Groups -/

/-- An item in a box that is at a position. -/
def Placed.moved (dx dy : ℚ) (item : PlacedItem ℚ) : PlacedItem ℚ :=
  { item with x := dx + item.x, y := dy + item.y }

theorem extent_eq_some_iff {items : List (PlacedItem ℚ)} {r : Rect ℚ} :
    extent items = some r ↔ Rect.IsHull (items.map Placed.bounds) r :=
  Rect.hull_eq_some_iff

theorem exists_extent {items : List (PlacedItem ℚ)} (h : items ≠ []) : ∃ r, extent items = some r := by
  cases items with
  | nil => exact absurd rfl h
  | cons => exact ⟨_, rfl⟩

/-- The extent does not depend on the order of the items. -/
theorem extent_perm {items items' : List (PlacedItem ℚ)} (h : items'.Perm items) {r : Rect ℚ}
    (hr : extent items = some r) : extent items' = some r := by
  rw [extent_eq_some_iff] at hr ⊢
  exact hr.congr fun s => (h.map Placed.bounds).mem_iff.symm

/-- A group is as large as its extent reaches beyond the origin. -/
theorem measured_finish {g : Group ℚ} {r : Rect ℚ} (h : extent g.items = some r) :
    g.finish.measured = some ⟨max r.right 0, max r.bottom 0⟩ := by
  have hsize : Group.contentSize g.items = ⟨Scalar.larger r.right 0, Scalar.larger r.bottom 0⟩ := by
    rw [Group.contentSize, h]
  rw [Scalar.larger_eq_max, Scalar.larger_eq_max] at hsize
  exact congrArg some hsize

/-- An item that begins behind the origin is within whatever reaches from the origin to its end. -/
theorem moved_within {item : PlacedItem ℚ} {width height : ℚ} (hx : 0 ≤ item.x) (hy : 0 ≤ item.y)
    (hright : item.bounds.right ≤ width) (hbottom : item.bounds.bottom ≤ height) (left top : ℚ) :
    (item.moved left top).bounds.Within ⟨left, top, width, height⟩ := by
  refine ⟨le_add_of_nonneg_right hx, le_add_of_nonneg_right hy, ?_, ?_⟩
  · calc left + item.x + item.box.width = left + item.bounds.right := add_assoc _ _ _
      _ ≤ left + width := add_le_add_right hright left
  · calc top + item.y + item.box.height = top + item.bounds.bottom := add_assoc _ _ _
      _ ≤ top + height := add_le_add_right hbottom top

/-- **The extent, the size and the box of a group** with some items. The extent has the extreme edges of the
items, so it is the smallest rectangle around them, in whatever order they are. The size reaches from the
origin to the greatest right and bottom edges, and is not negative. Wherever the box of the group is placed,
the items in it that begin behind the origin are within the box, and within the cells that the group takes,
up to the gap and the tolerance, if these cells can be counted. -/
theorem group_measured (g : Group ℚ) (hitems : g.items ≠ []) :
    ∃ r size columns rows, extent g.items = some r ∧ Rect.IsHull (g.items.map Placed.bounds) r ∧
      (∀ t, r.Within t ↔ ∀ item ∈ g.items, item.bounds.Within t) ∧
      (∀ items, items.Perm g.items → extent items = some r) ∧
      size = ⟨max r.right 0, max r.bottom 0⟩ ∧ g.finish.measured = some size ∧
      g.finish.box? = some (.group size g.name g.items) ∧
      g.finish.widthInCells = some columns ∧ g.finish.heightInCells = some rows ∧
      ∀ (left top : ℚ) (destination : Option ℕ), ∀ item ∈ g.items, 0 ≤ item.x → 0 ≤ item.y →
        (item.moved left top).bounds.Within
          (Placed.bounds ⟨left, top, .group size g.name g.items, destination⟩) ∧
        (g.grid.horizontal.Counts size.width → g.grid.vertical.Counts size.height →
          (item.moved left top).bounds.Within
            ⟨left, top, g.grid.horizontal.reach columns, g.grid.vertical.reach rows⟩) := by
  obtain ⟨r, hr⟩ := exists_extent hitems
  have hhull := extent_eq_some_iff.mp hr
  have hmeasured := measured_finish hr
  refine ⟨r, ⟨max r.right 0, max r.bottom 0⟩, g.grid.horizontal.cellsFor (max r.right 0),
    g.grid.vertical.cellsFor (max r.bottom 0), hr, hhull, fun t => ?_, fun items hperm => extent_perm hperm hr,
    rfl, hmeasured, congrArg (Option.map _) hmeasured, congrArg (Option.map _) hmeasured,
    congrArg (Option.map _) hmeasured, fun left top destination item hitem hx hy => ?_⟩
  · rw [hhull.within_iff]
    exact List.forall_mem_map
  · have hmem : item.bounds ∈ g.items.map Placed.bounds := List.mem_map_of_mem hitem
    have hright : item.bounds.right ≤ max r.right 0 :=
      (hhull.right.2 ⟨_, hmem, rfl⟩).trans (le_max_left _ _)
    have hbottom : item.bounds.bottom ≤ max r.bottom 0 :=
      (hhull.bottom.2 ⟨_, hmem, rfl⟩).trans (le_max_left _ _)
    refine ⟨moved_within hx hy hright hbottom left top, fun hcolumns hrows => ?_⟩
    exact moved_within hx hy (hright.trans (Axis.le_reach_cellsFor hcolumns))
      (hbottom.trans (Axis.le_reach_cellsFor hrows)) left top

/-- A group on cells of ten points, with the given items. -/
def onTens (items : List (PlacedItem ℚ)) : Group ℚ :=
  { name := "g", grid := .build ⟨10, 0, 10⟩ ⟨10, 0, Grid.groupRows⟩ .zero true, items, measured := none }

/-- An item that begins behind the origin. -/
def behindOrigin : PlacedItem ℚ := ⟨5, 0, .filled ⟨20, 10⟩ none, none⟩

/-- An item that begins before the origin, and ends above where it begins. -/
def beforeOrigin : PlacedItem ℚ := ⟨-5, 24, .filled ⟨10, -12⟩ none, none⟩

theorem group_measured_onTens :
    let g := onTens [behindOrigin, beforeOrigin]
    extent [beforeOrigin, behindOrigin] = some ⟨-5, 0, 30, 12⟩ ∧ g.finish.measured = some ⟨25, 12⟩ ∧
      g.finish.widthInCells = some 3 ∧ g.finish.heightInCells = some 2 ∧
      (behindOrigin.moved 100 50).bounds.Within ⟨100, 50, 30 + 5 / 100, 20 + 5 / 100⟩ := by
  dsimp only
  obtain ⟨r, size, columns, rows, hr, -, -, hperm, rfl, hmeasured, -, hcolumns, hrows, hplaced⟩ :=
    group_measured (onTens [behindOrigin, beforeOrigin]) (by simp [onTens])
  have hextent : extent [behindOrigin, beforeOrigin] = some ⟨-5, 0, 30, 12⟩ := by decide +kernel
  obtain rfl := Option.some.inj (hextent.symm.trans hr)
  have hthree : (onTens [behindOrigin, beforeOrigin]).finish.widthInCells = some 3 := by decide +kernel
  have htwo : (onTens [behindOrigin, beforeOrigin]).finish.heightInCells = some 2 := by decide +kernel
  obtain rfl := Option.some.inj (hthree.symm.trans hcolumns)
  obtain rfl := Option.some.inj (htwo.symm.trans hrows)
  refine ⟨hperm _ (.swap _ _ []), hmeasured.trans (by decide +kernel), hthree, htwo, ?_⟩
  have hwithin := (hplaced 100 50 none behindOrigin (.head _) (by decide +kernel) (by decide +kernel)).2
    ⟨by decide +kernel, by decide +kernel⟩ ⟨by decide +kernel, by decide +kernel⟩
  have hreach : (⟨100, 50, (onTens []).grid.horizontal.reach 3, (onTens []).grid.vertical.reach 2⟩ : Rect ℚ) =
      ⟨100, 50, 30 + 5 / 100, 20 + 5 / 100⟩ := by decide +kernel
  exact hreach ▸ hwithin

/-- A box of a hundred thousand million points at the origin. -/
def widestItem : PlacedItem ℚ := ⟨0, 0, .filled ⟨100000000000, 10⟩ none, none⟩

/-- A count of cells is cut where it cannot be counted any more. Then an item stands out of the cells that its
group takes, and not by a gap only. -/
theorem group_can_take_too_few_cells :
    ¬ ∀ (g : Group ℚ) (columns : ℕ), g.grid.horizontal.Proper → g.finish.widthInCells = some columns →
      ∀ item ∈ g.items, 0 ≤ item.x → 0 ≤ item.y → item.bounds.right ≤ g.grid.horizontal.reach columns := by
  intro h
  have hproper : (onTens [widestItem]).grid.horizontal.Proper := ⟨by decide +kernel, by decide +kernel⟩
  have hcolumns : (onTens [widestItem]).finish.widthInCells = some countLimit := by decide +kernel
  have hreach := h _ _ hproper hcolumns widestItem (.head _) (by decide +kernel) (by decide +kernel)
  revert hreach
  decide +kernel

end PageGrid
