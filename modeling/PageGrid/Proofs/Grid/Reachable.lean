import PageGrid.Proofs.ReadingOrder

/-!
# Grids that operations lead to

A grid starts as the grid of a page or of a group, and then areas are defined, cells are marked and the
flow moves. Each of these operations leaves the numbers of columns and rows alone, and does one of few
things to an area. `Operation.areaStep` lists these things for all operations at once, so that what holds
of all areas at every time follows by a look at the list. The search for a place in the flow is made of
such operations.

The searches count rows and columns in words of thirty-two bits. They can, since in every grid that
operations lead to the numbers of columns and rows and the rows of the cursors are within the limit of
such a word.

## Main definitions

* `Grid.Operation` — one operation;
* `Grid.Reachable` — the grids that operations lead to;
* `Grid.AreaStep` — what an operation does to an area;
* `Grid.Bounded` — counts and cursors within the limit, and frames inside the grid.

## Main results

* `Operation.areaStep` — operations do nothing else to areas;
* `Reachable.bounded` — all grids that operations lead to are bounded;
* `Reachable.change` — the flow leads to such grids.
-/

namespace PageGrid

variable {α : Type}

theorem countLimit_eq : countLimit = 4294967295 := rfl

theorem one_le_countLimit : 1 ≤ countLimit := by decide

/-- The numbers of columns and rows that are asked for are within the limit. -/
def GridSettings.Counted (settings : GridSettings α) : Prop :=
  (∀ n ∈ settings.horizontal.count, n ≤ countLimit) ∧ ∀ n ∈ settings.vertical.count, n ≤ countLimit

namespace Grid

variable {g g' : Grid α} {name : String} {columns rows : Nat}

/-! ### Operations -/

/-- An operation on a grid. Besides the operations of the flow there are the definition of an area, marks
on single cells, and setting the cursor of an area. -/
inductive Operation : Grid α → Grid α → Prop
  | defineArea {g g' : Grid α} {name : String} {frames : List FrameSpec} :
      g.defineArea name frames = .ok g' → Operation g g'
  | setCursor {g g' : Grid α} {name : String} {column row : Nat} : row ≤ countLimit →
      g.setCursor name column row = .ok g' → Operation g g'
  | mark (g : Grid α) (column row : Nat) :
      Operation g { g with occupancy := g.occupancy.mark ⟨column, row, column, row⟩ }
  | nextRow {g g' : Grid α} {name : String} {rows : Nat} {moved : Bool} :
      g.nextRow name rows = .ok (g', moved) → Operation g g'
  | advanceFrame {g g' : Grid α} {name : String} {moved : Bool} :
      g.advanceFrame name = .ok (g', moved) → Operation g g'
  | allocate {g g' : Grid α} {x y : Int} {columns rows : Nat} {name : String} {breach : Breach} :
      g.allocateBlock x y columns rows name = .ok (g', breach) → Operation g g'

theorem setCursor_eq_ok {column row : Nat} (h : g.setCursor name column row = .ok g') :
    ∃ f, g.frame name = .ok f ∧
      g' = g.updateFrame name (·.withCursor (max column 1) (max row 1)) := by
  rw [setCursor] at h
  obtain ⟨a, ha, hg⟩ := map_eq_ok.mp h
  exact ⟨a.active, frame_eq_ok.mpr ⟨a, area_eq_ok.mp ha, rfl⟩, hg.symm⟩

/-- Operations keep the cells, and marks are never taken back. -/
theorem Operation.grown (h : Operation g g') : Grown g g' := by
  cases h with
  | defineArea h =>
    obtain ⟨a, -, -, rfl⟩ := defineArea_eq_ok h
    exact ⟨rfl, rfl, fun _ _ => Nat.le_refl _⟩
  | setCursor _ h =>
    obtain ⟨f, -, rfl⟩ := setCursor_eq_ok h
    exact ⟨rfl, rfl, fun _ _ => Nat.le_refl _⟩
  | mark column row =>
    refine ⟨rfl, rfl, fun c r => ?_⟩
    rw [Occupancy.count_mark]
    exact Nat.le_add_right _ _
  | nextRow h => exact (flowMoved_nextRow h).grown
  | advanceFrame h => exact (flowMoved_advanceFrame h).grown
  | allocate h => exact grown_allocateBlock h

/-- Operations keep the margins. -/
theorem Operation.margins (h : Operation g g') : g'.margins = g.margins := by
  cases h with
  | defineArea h =>
    obtain ⟨a, -, -, rfl⟩ := defineArea_eq_ok h
    rfl
  | setCursor _ h =>
    obtain ⟨f, -, rfl⟩ := setCursor_eq_ok h
    rfl
  | mark column row => rfl
  | nextRow h => exact (flowMoved_nextRow h).margins
  | advanceFrame h => exact (flowMoved_advanceFrame h).margins
  | allocate h =>
    obtain ⟨f, f', -, -, rfl⟩ := allocateBlock_eq_ok h
    rfl

/-! ### What operations do to areas -/

/-- What an operation on a grid does to an area: nothing, a move of the cursor in the active frame, the
step to the next frame, or making the area, in place of the one before if there was one. -/
inductive AreaStep (g : Grid α) : Option Area → Area → Prop
  | same (a : Area) : AreaStep g (some a) a
  | moved {a : Area} {f : Frame} : f.toFrameSpec = a.active.toFrameSpec →
      f.cursorRow ≤ max f.height countLimit → AreaStep g (some a) (a.updateActive fun _ => f)
  | advanced {a b : Area} : a.advance? = some b → AreaStep g (some a) b
  | made {before : Option Area} {b : Area} : b.Fresh g → AreaStep g before b

/-- An area that is found on the grid is there as it was. -/
theorem areaStep_of_area? {n : String} {b : Area} (hb : g.area? n = some b) :
    AreaStep g (g.area? n) b :=
  hb ▸ .same b

/-- An area after the cursor of an active frame has been moved. -/
theorem areaStep_updateFrame {f : Frame → Frame} {n : String} {b : Area}
    (hspec : ∀ a, g.area? name = some a → (f a.active).toFrameSpec = a.active.toFrameSpec)
    (hrow : ∀ a, g.area? name = some a → (f a.active).cursorRow ≤ max (f a.active).height countLimit)
    (hb : (g.updateFrame name f).area? n = some b) : AreaStep g (g.area? n) b := by
  rw [area?_updateFrame] at hb
  split at hb
  · next hn =>
    obtain ⟨a, ha, rfl⟩ := Option.map_eq_some_iff.mp hb
    rw [hn, ha]
    exact .moved (hspec a ha) (hrow a ha)
  · exact areaStep_of_area? hb

theorem area?_defineArea {frames : List FrameSpec} {a : Area}
    (ha : Area.ofFrames? name frames = some a) (n : String) :
    ({ g with areas := a :: g.areas.filter (·.name ≠ name) } : Grid α).area? n =
      if n = name then some a else g.area? n := by
  have hname : a.name = name := by
    cases frames with
    | nil => cases ha
    | cons => cases ha; rfl
  rw [area?, List.find?_cons, hname]
  by_cases hn : n = name
  · simp [hn]
  · have hne : ¬ name = n := fun h => hn h.symm
    simp only [hne, hn, decide_false, if_false, List.find?_filter, area?]
    congr 1
    funext b
    grind

/-- **What operations do to areas.** -/
theorem Operation.areaStep (h : Operation g g') {n : String} {b : Area} (hb : g'.area? n = some b) :
    AreaStep g (g.area? n) b := by
  cases h with
  | defineArea h =>
    obtain ⟨a, ha, hheld, rfl⟩ := defineArea_eq_ok h
    rw [area?_defineArea ha] at hb
    split at hb
    · cases hb
      exact .made (fresh_ofFrames? ha hheld)
    · exact areaStep_of_area? hb
  | setCursor hlimit h =>
    obtain ⟨f, -, rfl⟩ := setCursor_eq_ok h
    refine areaStep_updateFrame (fun _ _ => rfl) (fun a _ => ?_) hb
    have hone := one_le_countLimit
    change max _ 1 ≤ max _ _
    omega
  | mark column row => exact areaStep_of_area? hb
  | nextRow h =>
    obtain ⟨f, row, hf, rfl, hrow⟩ := nextRow_eq_ok h
    refine areaStep_updateFrame (fun a ha => ?_) (fun a ha => ?_) hb
    all_goals obtain rfl := Except.ok.inj (hf.symm.trans (frame_eq_ok.mpr ⟨a, ha, rfl⟩))
    · rfl
    · change row ≤ max a.active.height countLimit
      obtain ⟨-, hfound⟩ | ⟨-, -, rfl⟩ := hrow
      · have hle := (blockIsFree_of_findRowIn hfound).2.1.bottom
        change row + max 1 1 ≤ a.active.height + 1 at hle
        omega
      · rw [rowAfter]
        omega
  | advanceFrame h =>
    obtain ⟨a, ha, ⟨-, -, rfl⟩ | ⟨b', hb', -, rfl⟩⟩ := advanceFrame_eq_ok h
    · exact areaStep_of_area? hb
    · rw [area?_updateArea_advance ha hb'] at hb
      split at hb
      · next hn =>
        cases hb
        rw [hn, ha]
        exact .advanced hb'
      · exact areaStep_of_area? hb
  | @allocate _ x y columns rows name breach h =>
    obtain ⟨f, f', hf, hspec, rfl⟩ := allocateBlock_eq_ok h
    obtain ⟨a, ha, rfl⟩ := frame_eq_ok.mp hf
    by_cases hn : n = name
    · -- the cursor of the active frame is behind the block
      subst hn
      obtain ⟨f₁, hf₁, hspec₁, hcursor⟩ := area?_allocateBlock ha h
      cases hb.symm.trans hf₁
      rw [ha]
      refine .moved hspec₁ ?_
      simp only [clampCursor] at hcursor
      omega
    · rw [area?_updateFrame, if_neg hn] at hb
      exact areaStep_of_area? hb

/-! ### Bounds -/

/-- The numbers of columns and rows and the rows of the cursors are within the limit, and the frames are
inside the grid, which has cells. -/
structure Bounded (g : Grid α) : Prop where
  columns : 1 ≤ g.columns ∧ g.columns ≤ countLimit
  rows : 1 ≤ g.rows ∧ g.rows ≤ countLimit
  framed : g.Framed
  cursors : ∀ name a, g.area? name = some a → a.active.cursorRow ≤ countLimit

theorem bounded_build {horizontal vertical : Axis α} {margins : Margins α} {groupScoped : Bool}
    (hh : horizontal.count ≠ 0 ∧ horizontal.count ≤ countLimit)
    (hv : vertical.count ≠ 0 ∧ vertical.count ≤ countLimit) :
    (build horizontal vertical margins groupScoped).Bounded := by
  have hfresh : (build horizontal vertical margins groupScoped).Fresh := fresh_build hh.1 hv.1
  refine ⟨⟨Nat.pos_of_ne_zero hh.1, hh.2⟩, ⟨Nat.pos_of_ne_zero hv.1, hv.2⟩, hfresh.framed, fun _ a ha => ?_⟩
  rw [(hfresh.areas a (List.mem_of_find?_eq_some ha)).cursor.2]
  exact one_le_countLimit

/-- Operations keep the bounds. -/
theorem Operation.bounded (h : Operation g g') (hg : g.Bounded) : g'.Bounded := by
  have hcolumns : g'.columns = g.columns := by rw [Grid.columns, h.grown.horizontal, Grid.columns]
  have hrows : g'.rows = g.rows := by rw [Grid.rows, h.grown.vertical, Grid.rows]
  have hholds (f : FrameSpec) : g'.holdsFrame f = g.holdsFrame f := by
    rw [holdsFrame, hcolumns, hrows, holdsFrame]
  refine ⟨hcolumns ▸ hg.columns, hrows ▸ hg.rows, fun n b hb f hf => ?_, fun n b hb => ?_⟩
  · rw [hholds]
    have hstep := h.areaStep hb
    generalize ha : g.area? n = before at hstep
    cases hstep with
    | same => exact hg.framed n b ha f hf
    | @moved a _ hspec =>
      rw [a.specs_updateActive hspec] at hf
      exact hg.framed n a ha f hf
    | advanced hadvance => exact hg.framed n _ ha f (Area.specs_of_advance? hadvance ▸ hf)
    | made hfresh =>
      obtain ⟨frame, hmem, rfl⟩ := List.mem_map.mp hf
      exact hfresh.inside frame hmem
  · have hstep := h.areaStep hb
    generalize ha : g.area? n = before at hstep
    cases hstep with
    | same => exact hg.cursors n b ha
    | @moved a f hspec hrow =>
      have hheight := (hg.framed.active_le ha).2.2.2
      have hlimit := hg.rows.2
      change f.cursorRow ≤ countLimit
      rw [show f.height = a.active.height from congrArg FrameSpec.height hspec] at hrow
      omega
    | advanced hadvance =>
      obtain ⟨f, fs, -, rfl⟩ := Area.advance?_eq_some.mp hadvance
      exact one_le_countLimit
    | made hfresh =>
      rw [hfresh.cursor.2]
      exact one_le_countLimit

/-! ### Reachable grids -/

/-- A grid that operations lead to, from the grid of a page or of a group. -/
inductive Reachable : Grid Float → Prop
  | page {size : Size Float} {margins : Margins Float} {settings : GridSettings Float} {g : Grid Float} :
      settings.Counted → forPage size margins settings = .ok g → Reachable g
  | group {g : Grid Float} : Reachable g → Reachable g.groupGrid
  | operation {g g' : Grid Float} : Operation g g' → Reachable g → Reachable g'

theorem floorCount_le (x : Float) : Scalar.floorCount x ≤ countLimit := by
  change (if Decimal.isFinite x then clampCount (Decimal.floorInt x) else
    if 0 < x then countLimit else 0) ≤ _
  split
  · exact Nat.min_le_right _ _
  · split
    · exact Nat.le_refl _
    · exact Nat.zero_le _

/-- An axis has as many cells as are asked for, or as many as there is room for. -/
theorem count_resolve_le {direction : Direction} {settings : AxisSettings Float} {available : Float}
    {axis : Axis Float} (hs : ∀ n ∈ settings.count, n ≤ countLimit)
    (h : Axis.resolve direction settings available = .ok axis) : axis.count ≤ countLimit := by
  rw [Axis.resolve] at h
  split at h
  · cases h
  · next n hn =>
    dsimp only at h
    split at h
    · cases h
    · cases h
      exact hs _ hn
  · split at h
    · cases h
    · cases h
      exact floorCount_le _

/-- **All grids that operations lead to are bounded.** -/
theorem Reachable.bounded {g : Grid Float} (h : g.Reachable) : g.Bounded := by
  induction h with
  | page hs h =>
    obtain ⟨_, _, _, _, hh, hv, ⟨hc, hr⟩, rfl⟩ := forPage_eq_ok h
    exact bounded_build ⟨hc, count_resolve_le hs.1 hh⟩ ⟨hr, count_resolve_le hs.2 hv⟩
  | group _ ih =>
    have hrows : groupRows ≠ 0 ∧ groupRows ≤ countLimit := by decide
    exact bounded_build ⟨Nat.ne_of_gt ih.columns.1, ih.columns.2⟩ hrows
  | operation h _ ih => exact h.bounded ih

/-! ### The flow -/

theorem operations_flowFrom {column : Nat} {place : Option (Nat × Nat)}
    (h : g.flowFrom columns rows column name = .ok (g', place)) :
    Relation.ReflTransGen Operation g g' := by
  obtain ⟨found, -, h⟩ := bind_eq_ok.mp h
  cases found with
  | some row =>
    cases h
    exact .refl
  | none =>
    dsimp only at h
    split at h
    · cases h
      exact .refl
    · obtain ⟨⟨g₁, moved⟩, h₁, h⟩ := bind_eq_ok.mp h
      cases moved with
      | false =>
        cases h
        exact .single (.nextRow h₁)
      | true =>
        obtain ⟨found, -, h⟩ := bind_eq_ok.mp h
        cases h
        exact .single (.nextRow h₁)

theorem operations_flowInFrame {place : Option (Nat × Nat)}
    (h : g.flowInFrame columns rows name = .ok (g', place)) :
    Relation.ReflTransGen Operation g g' := by
  obtain ⟨f, -, h⟩ := bind_eq_ok.mp h
  split at h
  · obtain ⟨⟨g₁, moved⟩, h₁, h⟩ := bind_eq_ok.mp h
    exact .head (.nextRow h₁) (operations_flowFrom h)
  · exact operations_flowFrom h

theorem operations_flowThrough {fuel : Nat} {place : Option (Nat × Nat)}
    (h : flowThrough columns rows name fuel g = .ok (g', place)) :
    Relation.ReflTransGen Operation g g' := by
  induction fuel generalizing g with
  | zero => exact operations_flowInFrame h
  | succ fuel ih =>
    obtain ⟨⟨g₁, found⟩, h₁, h⟩ := bind_eq_ok.mp h
    have hfirst := operations_flowInFrame h₁
    cases found with
    | some p =>
      cases h
      exact hfirst
    | none =>
      obtain ⟨⟨g₂, advanced⟩, h₂, h⟩ := bind_eq_ok.mp h
      have hnext := hfirst.tail (.advanceFrame h₂)
      cases advanced with
      | false =>
        cases h
        exact hnext
      | true => exact hnext.trans (ih h)

/-- The flow is made of operations. -/
theorem Change.operations (h : Change g g') : Relation.ReflTransGen Operation g g' := by
  cases h with
  | flow h =>
    obtain ⟨a, -, h⟩ := bind_eq_ok.mp h
    exact operations_flowThrough h
  | nextRow h => exact .single (.nextRow h)
  | advanceFrame h => exact .single (.advanceFrame h)
  | allocate h => exact .single (.allocate h)

/-- **What commands do to a grid** leads to such grids. -/
theorem Reachable.change {g g' : Grid Float} (hg : g.Reachable) (h : Change g g') : g'.Reachable := by
  have hsteps := h.operations
  clear h
  induction hsteps with
  | refl => exact hg
  | tail _ hstep ih => exact .operation hstep ih

/-! ### A small grid

Statements about single grids are about pages of ten columns and ten rows. -/

/-- The grid of such a page. -/
def tenByTen : Grid Float := .build ⟨10, 0, 10⟩ ⟨10, 0, 10⟩ (.all 10) false

theorem reachable_tenByTen : tenByTen.Reachable := by
  have hpage : forPage ⟨120, 120⟩ (.all 10) ⟨⟨10, 0, none⟩, ⟨10, 0, none⟩⟩ = .ok tenByTen := rfl
  exact .page ⟨by simp, by simp⟩ hpage

end Grid

end PageGrid
