import Mathlib.Order.Defs.Unbundled
import PageGrid.Grid.Flow

/-!
# What the flow changes

The operations of the flow move cursors and go on to later frames. They change neither the cells of
a grid nor its marks, and the areas keep their frames. `FlowMoved` says this for the areas as they
are looked up by name, which is how every operation reaches them.

## Main definitions

* `Area.specs` — the frames of an area without their cursors;
* `Grid.FlowMoved` — two grids differ in flow cursors and active frames only.

## Main results

* `area?_updateArea` — looking up an area after one has been changed;
* `flow_eq_ok` — the flow moves nothing else, and a place that it gives has been found free;
* `later_of_flow` — a flow that gives no place has gone through all frames.
-/

namespace PageGrid

variable {α : Type}

theorem bind_eq_ok {ε β γ : Type} {x : Except ε β} {f : β → Except ε γ} {c : γ} :
    x >>= f = .ok c ↔ ∃ b, x = .ok b ∧ f b = .ok c := by
  cases x <;> simp [bind, Except.bind]

theorem map_eq_ok {ε β γ : Type} {x : Except ε β} {f : β → γ} {c : γ} :
    x.map f = .ok c ↔ ∃ b, x = .ok b ∧ f b = c := by
  cases x <;> simp [Except.map]

/-! ### Frames of an area -/

/-- The frames of an area without their cursors. -/
def Area.specs (a : Area) : List FrameSpec := a.frames.map (·.toFrameSpec)

theorem Area.specs_updateActive (a : Area) {f : Frame → Frame}
    (hf : (f a.active).toFrameSpec = a.active.toFrameSpec) :
    (a.updateActive f).specs = a.specs := by
  simp [specs, frames, updateActive, hf]

theorem Area.advance?_eq_some {a b : Area} :
    a.advance? = some b ↔
      ∃ f fs, a.later = f :: fs ∧ b = ⟨a.name, a.active :: a.earlier, f.reset, fs⟩ := by
  rw [advance?]
  cases h : a.later with
  | nil => simp
  | cons f fs =>
    refine ⟨fun hb => ⟨f, fs, rfl, (Option.some.inj hb).symm⟩, ?_⟩
    rintro ⟨_, _, hl, rfl⟩
    cases hl
    rfl

theorem Area.advance?_eq_none {a : Area} : a.advance? = none ↔ a.later = [] := by
  rw [advance?]
  cases h : a.later <;> simp

theorem Area.specs_of_advance? {a b : Area} (h : a.advance? = some b) : b.specs = a.specs := by
  obtain ⟨f, fs, hl, rfl⟩ := advance?_eq_some.mp h
  simp [specs, frames, hl, Frame.reset, Frame.withCursor]

theorem Area.name_of_advance? {a b : Area} (h : a.advance? = some b) : b.name = a.name := by
  obtain ⟨f, fs, -, rfl⟩ := advance?_eq_some.mp h
  rfl

namespace Grid

variable {g g' g'' : Grid α} {name : String}

/-! ### Looking up areas -/

theorem name_of_area? {a : Area} (h : g.area? name = some a) : a.name = name := by
  have h' := List.find?_some h
  simpa using h'

theorem area_eq_ok {a : Area} : g.area name = .ok a ↔ g.area? name = some a := by
  rw [area]
  split <;> simp_all

theorem frame_eq_ok {f : Frame} :
    g.frame name = .ok f ↔ ∃ a, g.area? name = some a ∧ a.active = f := by
  rw [frame, area]
  cases g.area? name with
  | none => simp [Functor.map, Except.map]
  | some a => simp [Functor.map, Except.map]

/-- **Looking up an area after a change.** The change applies to the areas of one name, and leaves
the areas of other names as they are. -/
theorem area?_updateArea (g : Grid α) (f : Area → Area)
    (hf : ∀ a, a.name = name → (f a).name = name) (n : String) :
    (g.updateArea name f).area? n = if n = name then (g.area? name).map f else g.area? n := by
  unfold updateArea area?
  induction g.areas with
  | nil => simp
  | cons a rest ih =>
    by_cases ha : a.name = name
    · by_cases hn : n = name
      · simp [ha, hn, hf a ha]
      · have hne : ¬ name = n := fun h => hn h.symm
        simpa [ha, hn, hne, hf a ha] using ih
    · by_cases hn : n = name
      · simpa [ha, hn] using ih
      · by_cases han : a.name = n
        · simp [hn, han]
        · simpa [ha, hn, han] using ih

theorem area?_updateFrame (g : Grid α) (f : Frame → Frame) (n : String) :
    (g.updateFrame name f).area? n =
      if n = name then (g.area? name).map (·.updateActive f) else g.area? n :=
  area?_updateArea g (·.updateActive f) (fun _ h => h) n

/-- Looking up an area after its flow has gone on to the next frame. -/
theorem area?_updateArea_advance {a b : Area} (ha : g.area? name = some a)
    (hb : a.advance? = some b) (n : String) :
    (g.updateArea name fun _ => b).area? n = if n = name then some b else g.area? n := by
  have hn : b.name = name := (Area.name_of_advance? hb).trans (name_of_area? ha)
  rw [area?_updateArea g (fun _ => b) (fun _ _ => hn), ha]
  rfl

/-! ### Grids that differ in the flow only -/

/-- The second grid has the cells and marks of the first one and the same frames in every area;
cursors and active frames may differ. -/
structure FlowMoved (g g' : Grid α) : Prop where
  horizontal : g'.horizontal = g.horizontal
  vertical : g'.vertical = g.vertical
  margins : g'.margins = g.margins
  occupancy : g'.occupancy = g.occupancy
  groupScoped : g'.groupScoped = g.groupScoped
  specs : ∀ n, (g'.area? n).map Area.specs = (g.area? n).map Area.specs

instance : IsPreorder (Grid α) FlowMoved where
  refl _ := ⟨rfl, rfl, rfl, rfl, rfl, fun _ => rfl⟩
  trans _ _ _ h h' :=
    ⟨h'.horizontal.trans h.horizontal, h'.vertical.trans h.vertical, h'.margins.trans h.margins,
      h'.occupancy.trans h.occupancy, h'.groupScoped.trans h.groupScoped,
      fun n => (h'.specs n).trans (h.specs n)⟩

theorem FlowMoved.columns (h : FlowMoved g g') : g'.columns = g.columns := by
  rw [Grid.columns, h.horizontal, Grid.columns]

theorem FlowMoved.rows (h : FlowMoved g g') : g'.rows = g.rows := by
  rw [Grid.rows, h.vertical, Grid.rows]

theorem FlowMoved.specs_of_area? (h : FlowMoved g g') {a' : Area} (ha : g'.area? name = some a') :
    ∃ a, g.area? name = some a ∧ a.specs = a'.specs := by
  have hs := h.specs name
  rw [ha] at hs
  exact Option.map_eq_some_iff.mp hs.symm

/-- Changing an area without changing its frames moves the flow only. -/
theorem flowMoved_updateArea {a : Area} {f : Area → Area} (ha : g.area? name = some a)
    (hf : ∀ b, b.name = name → (f b).name = name) (hs : (f a).specs = a.specs) :
    FlowMoved g (g.updateArea name f) := by
  refine ⟨rfl, rfl, rfl, rfl, rfl, fun n => ?_⟩
  rw [area?_updateArea g f hf]
  split
  · next hn => simp [hn, ha, hs]
  · rfl

theorem flowMoved_updateFrame {f f' : Frame} (hf : g.frame name = .ok f)
    (hs : f'.toFrameSpec = f.toFrameSpec) : FlowMoved g (g.updateFrame name fun _ => f') := by
  obtain ⟨a, ha, rfl⟩ := frame_eq_ok.mp hf
  exact flowMoved_updateArea ha (fun _ h => h) (a.specs_updateActive hs)

/-! ### Operations of the flow -/

/-- The row from which `nextRow` looks for a free one. -/
def rowAfter (f : Frame) (rows : Nat) : Nat :=
  min (f.cursorRow + if f.cursorColumn = 1 then max rows 1 else max rows 1 - 1) countLimit

/-- What `nextRow` does: the cursor goes to the first column of the first free row from `rowAfter`
on, or, if there is none, of the row `rowAfter` itself. -/
theorem nextRow_eq_ok {rows : Nat} {moved : Bool} (h : g.nextRow name rows = .ok (g', moved)) :
    ∃ f row, g.frame name = .ok f ∧ g' = g.updateFrame name (fun _ => f.withCursor 1 row) ∧
      (moved = true ∧ g.findRowIn (f.withCursor 1 (rowAfter f rows)) f.width 1 1 = some row ∨
        moved = false ∧ g.findRowIn (f.withCursor 1 (rowAfter f rows)) f.width 1 1 = none ∧
          row = rowAfter f rows) := by
  rw [nextRow] at h
  cases hf : g.frame name with
  | error e => simp [hf, Except.map] at h
  | ok f =>
    simp only [hf, Except.map, Except.ok.injEq] at h
    split at h
    · next row hr =>
      cases h
      exact ⟨f, row, rfl, rfl, .inl ⟨rfl, hr⟩⟩
    · next hr =>
      cases h
      exact ⟨f, _, rfl, rfl, .inr ⟨rfl, hr, rfl⟩⟩

theorem advanceFrame_eq_ok {moved : Bool} (h : g.advanceFrame name = .ok (g', moved)) :
    ∃ a, g.area? name = some a ∧
      (a.advance? = none ∧ moved = false ∧ g' = g ∨
        ∃ b, a.advance? = some b ∧ moved = true ∧ g' = g.updateArea name fun _ => b) := by
  rw [advanceFrame] at h
  cases ha : g.area name with
  | error e => simp [ha, Except.map] at h
  | ok a =>
    refine ⟨a, area_eq_ok.mp ha, ?_⟩
    simp only [ha, Except.map, Except.ok.injEq] at h
    split at h
    · next b hb =>
      cases h
      exact .inr ⟨b, hb, rfl, rfl⟩
    · next hb =>
      cases h
      exact .inl ⟨hb, rfl, rfl⟩

theorem flowMoved_advanceFrame {moved : Bool} (h : g.advanceFrame name = .ok (g', moved)) :
    FlowMoved g g' := by
  obtain ⟨a, ha, ⟨-, -, rfl⟩ | ⟨b, hb, -, rfl⟩⟩ := advanceFrame_eq_ok h
  · exact refl_of FlowMoved g'
  · have hn : b.name = name := (Area.name_of_advance? hb).trans (name_of_area? ha)
    exact flowMoved_updateArea ha (fun _ _ => hn) (Area.specs_of_advance? hb)

/-! ### The search in one frame -/

/-- The flow has moved within the active frame of an area. -/
def CursorMoved (name : String) (g g' : Grid α) : Prop :=
  FlowMoved g g' ∧
    ∀ a, g.area? name = some a → ∃ f, g'.area? name = some (a.updateActive fun _ => f)

instance : IsPreorder (Grid α) (CursorMoved name) where
  refl g := ⟨refl_of FlowMoved g, fun a ha => ⟨a.active, ha⟩⟩
  trans _ _ _ h h' := by
    refine ⟨trans_of FlowMoved h.1 h'.1, fun a ha => ?_⟩
    obtain ⟨f, hf⟩ := h.2 a ha
    obtain ⟨f', hf'⟩ := h'.2 _ hf
    exact ⟨f', hf'⟩

theorem cursorMoved_nextRow {rows : Nat} {moved : Bool}
    (h : g.nextRow name rows = .ok (g', moved)) : CursorMoved name g g' := by
  obtain ⟨f, row, hf, rfl, -⟩ := nextRow_eq_ok h
  refine ⟨flowMoved_updateFrame hf rfl, fun a ha => ⟨f.withCursor 1 row, ?_⟩⟩
  rw [area?_updateFrame, if_pos rfl, ha]
  rfl

theorem flowMoved_nextRow {rows : Nat} {moved : Bool} (h : g.nextRow name rows = .ok (g', moved)) :
    FlowMoved g g' :=
  (cursorMoved_nextRow h).1

/-- The place is in the active frame of the area, and the search for a row has found it there. -/
def Found (g : Grid α) (columns rows : Nat) (name : String) (place : Nat × Nat) : Prop :=
  ∃ f, g.frame name = .ok f ∧ g.findRowIn f columns rows place.1 = some place.2

theorem findRow_eq_ok {columns rows column : Nat} {found : Option Nat}
    (h : g.findRow columns rows column name = .ok found) :
    ∃ f, g.frame name = .ok f ∧ g.findRowIn f columns rows column = found := by
  rw [findRow] at h
  cases hf : g.frame name with
  | error e => simp [hf, Functor.map, Except.map] at h
  | ok f =>
    simp only [hf, Functor.map, Except.map, Except.ok.injEq] at h
    exact ⟨f, rfl, h⟩

theorem flowFrom_eq_ok {columns rows column : Nat} {place : Option (Nat × Nat)}
    (h : g.flowFrom columns rows column name = .ok (g', place)) :
    CursorMoved name g g' ∧ ∀ p, place = some p → g'.Found columns rows name p := by
  rw [flowFrom] at h
  obtain ⟨found, hfound, h⟩ := bind_eq_ok.mp h
  cases found with
  | some row =>
    cases h
    obtain ⟨f, hf, hr⟩ := findRow_eq_ok hfound
    refine ⟨refl_of (CursorMoved name) g, fun p hp => ?_⟩
    cases hp
    exact ⟨f, hf, hr⟩
  | none =>
    dsimp only at h
    split at h
    · cases h
      exact ⟨refl_of (CursorMoved name) g, by simp⟩
    · obtain ⟨⟨g₁, moved⟩, h₁, h⟩ := bind_eq_ok.mp h
      dsimp only at h
      split at h
      · obtain ⟨found, hfound, h⟩ := bind_eq_ok.mp h
        cases h
        obtain ⟨f, hf, hr⟩ := findRow_eq_ok hfound
        refine ⟨cursorMoved_nextRow h₁, fun p hp => ?_⟩
        obtain ⟨row, rfl, rfl⟩ := Option.map_eq_some_iff.mp hp
        exact ⟨f, hf, hr⟩
      · cases h
        exact ⟨cursorMoved_nextRow h₁, by simp⟩

theorem flowInFrame_eq_ok {columns rows : Nat} {place : Option (Nat × Nat)}
    (h : g.flowInFrame columns rows name = .ok (g', place)) :
    CursorMoved name g g' ∧ ∀ p, place = some p → g'.Found columns rows name p := by
  rw [flowInFrame] at h
  obtain ⟨f, -, h⟩ := bind_eq_ok.mp h
  split at h
  · obtain ⟨⟨g₁, moved⟩, h₁, h⟩ := bind_eq_ok.mp h
    obtain ⟨h₂, hp⟩ := flowFrom_eq_ok h
    exact ⟨trans_of (CursorMoved name) (cursorMoved_nextRow h₁) h₂, hp⟩
  · exact flowFrom_eq_ok h

/-! ### The search in all frames -/

theorem flowThrough_eq_ok {columns rows fuel : Nat} {place : Option (Nat × Nat)}
    (h : flowThrough columns rows name fuel g = .ok (g', place)) :
    FlowMoved g g' ∧ ∀ p, place = some p → g'.Found columns rows name p := by
  induction fuel generalizing g with
  | zero =>
    obtain ⟨h, hp⟩ := flowInFrame_eq_ok h
    exact ⟨h.1, hp⟩
  | succ fuel ih =>
    obtain ⟨⟨g₁, found⟩, h₁, h⟩ := bind_eq_ok.mp h
    obtain ⟨hm₁, hp₁⟩ := flowInFrame_eq_ok h₁
    cases found with
    | some p =>
      cases h
      exact ⟨hm₁.1, hp₁⟩
    | none =>
      obtain ⟨⟨g₂, advanced⟩, h₂, h⟩ := bind_eq_ok.mp h
      have hm₂ := trans_of FlowMoved hm₁.1 (flowMoved_advanceFrame h₂)
      cases advanced with
      | true =>
        obtain ⟨hm, hp⟩ := ih h
        exact ⟨trans_of FlowMoved hm₂ hm, hp⟩
      | false =>
        cases h
        exact ⟨hm₂, by simp⟩

/-- **What the flow answers.** The flow moves nothing but cursors and active frames, and a place
that it gives has been found free in the frame that is then active. -/
theorem flow_eq_ok {columns rows : Nat} {place : Option (Nat × Nat)}
    (h : g.flow columns rows name = .ok (g', place)) :
    FlowMoved g g' ∧ ∀ p, place = some p → g'.Found columns rows name p := by
  obtain ⟨a, -, h⟩ := bind_eq_ok.mp h
  exact flowThrough_eq_ok h

/-- If the flow gives no place while there is a later frame, it goes on there. -/
theorem flowThrough_succ_eq_none {columns rows fuel : Nat} {a : Area} (ha : g.area? name = some a)
    (hl : a.later.length = fuel + 1)
    (h : flowThrough columns rows name (fuel + 1) g = .ok (g', none)) :
    ∃ g₁ f b, g.flowInFrame columns rows name = .ok (g₁, none) ∧
      g₁.area? name = some (a.updateActive fun _ => f) ∧
      (a.updateActive fun _ => f).advance? = some b ∧
      flowThrough columns rows name fuel (g₁.updateArea name fun _ => b) = .ok (g', none) := by
  obtain ⟨⟨g₁, found⟩, h₁, h⟩ := bind_eq_ok.mp h
  obtain ⟨f, hf⟩ := (flowInFrame_eq_ok h₁).1.2 a ha
  cases found with
  | some p => cases h
  | none =>
    obtain ⟨⟨g₂, advanced⟩, h₂, h⟩ := bind_eq_ok.mp h
    obtain ⟨b, hb, ⟨hn, -, -⟩ | ⟨c, hc, rfl, rfl⟩⟩ := advanceFrame_eq_ok h₂
    · obtain rfl := Option.some.inj (hf.symm.trans hb)
      have hnil : (a.updateActive fun _ => f).later = [] := Area.advance?_eq_none.mp hn
      rw [show a.later = [] from hnil] at hl
      cases hl
    · obtain rfl := Option.some.inj (hf.symm.trans hb)
      exact ⟨g₁, f, c, h₁, hf, hc, h⟩

/-- If the flow gives no place, it has gone through all frames of the area. -/
theorem later_of_flowThrough {columns rows fuel : Nat} {a : Area} (ha : g.area? name = some a)
    (hl : a.later.length = fuel) (h : flowThrough columns rows name fuel g = .ok (g', none)) :
    ∃ b, g'.area? name = some b ∧ b.later = [] := by
  induction fuel generalizing g a with
  | zero =>
    obtain ⟨f, hf⟩ := (flowInFrame_eq_ok h).1.2 a ha
    exact ⟨_, hf, List.length_eq_zero_iff.mp hl⟩
  | succ fuel ih =>
    obtain ⟨g₁, f, b, -, hg₁, hb, hrest⟩ := flowThrough_succ_eq_none ha hl h
    have hg₂ := area?_updateArea_advance hg₁ hb name
    rw [if_pos rfl] at hg₂
    obtain ⟨f', fs, hlater, rfl⟩ := Area.advance?_eq_some.mp hb
    rw [show a.later = f' :: fs from hlater] at hl
    exact ih hg₂ (Nat.succ.inj hl) hrest

theorem later_of_flow {columns rows : Nat} (h : g.flow columns rows name = .ok (g', none)) :
    ∃ b, g'.area? name = some b ∧ b.later = [] := by
  obtain ⟨a, ha, h⟩ := bind_eq_ok.mp h
  exact later_of_flowThrough (area_eq_ok.mp ha) rfl h

end Grid

end PageGrid
