import PageGrid.Proofs.Grid.FreeCells

/-!
# Where the search in a frame ends

The search for a place always comes to an answer in an area that the grid has. In one frame it has three
ways to a place: behind the cursor or below, in the fresh row that it moves the cursor to, or, if it has
to leave the row of the cursor and there is no fresh row, from the start of that same row on. The last of
them is the odd one, since it goes back to cells that the flow has passed.

## Main definitions

* `Grid.PlaceInFrame` — the three ways.

## Main results

* `findRowIn_eq_some`, `findRowIn_eq_none` — the first row with a free block;
* `exists_flow` — there is an answer;
* `placeInFrame_of_flowInFrame` — there are no other ways to a place in a frame;
* `placeInFrame_or_later_of_flow` — a place that the flow gives is in the active frame, or in a later one.
-/

namespace PageGrid.Grid

variable {α : Type} {g g' : Grid α} {f : Frame} {name : String} {columns rows column row : Nat}

/-! ### The first row with a free block -/

/-- **The first row.** The search gives the first row, from the cursor on, where the block ends inside the
frame and is free. -/
theorem findRowIn_eq_some (hc : 1 ≤ columns) (hr : 1 ≤ rows) :
    g.findRowIn f columns rows column = some row ↔
      f.cursorRow ≤ row ∧ f.Holds column columns row rows ∧
        g.blockIsFree f column columns row rows = true ∧
        ∀ r, f.cursorRow ≤ r → r < row → ¬ g.blockIsFree f column columns r rows = true := by
  rw [findRowIn]
  simp only [Nat.max_eq_left hc, Nat.max_eq_left hr, spansWithin, decide_eq_true_eq]
  split
  · next hguard =>
    simp only [List.find?_range'_eq_some, List.mem_range'_1, Bool.not_eq_true', Bool.not_eq_true]
    constructor
    · rintro ⟨hfree, hrow, hfirst⟩
      exact ⟨hrow.1, ⟨hguard.1, by omega, hguard.2.2, by omega⟩, hfree, hfirst⟩
    · rintro ⟨hrow, hholds, hfree, hfirst⟩
      have hbottom := hholds.bottom
      exact ⟨hfree, ⟨hrow, by omega⟩, hfirst⟩
  · next hguard =>
    constructor
    · intro h
      cases h
    · rintro ⟨-, hholds, -⟩
      exact absurd ⟨hholds.one_le, by have := hholds.width; omega, hholds.height⟩ hguard

/-- The search gives nothing where the block is free in no row from the cursor on. -/
theorem findRowIn_eq_none (hc : 1 ≤ columns) (hr : 1 ≤ rows) :
    g.findRowIn f columns rows column = none ↔
      ∀ r, f.cursorRow ≤ r → f.Holds column columns r rows →
        ¬ g.blockIsFree f column columns r rows = true := by
  rw [findRowIn]
  simp only [Nat.max_eq_left hc, Nat.max_eq_left hr, spansWithin, decide_eq_true_eq]
  split
  · next hguard =>
    simp only [List.find?_range'_eq_none, Bool.not_eq_true', ← Bool.not_eq_true]
    constructor
    · intro h r hrow hholds
      have hbottom := hholds.bottom
      exact h r hrow (by omega)
    · intro h r hrow hlast
      exact h r hrow ⟨hguard.1, by omega, hguard.2.2, by omega⟩
  · next hguard =>
    refine ⟨fun _ r _ hholds => ?_, fun _ => rfl⟩
    exact absurd ⟨hholds.one_le, by have := hholds.width; omega, hholds.height⟩ hguard

/-! ### There is an answer -/

theorem exists_bind {ε β γ : Type} {x : Except ε β} {f : β → Except ε γ} {b : β} (hx : x = .ok b)
    (hf : ∃ c, f b = .ok c) : ∃ c, x >>= f = .ok c := by
  rw [hx]
  exact hf

theorem exists_nextRow (hf : g.frame name = .ok f) (rows : Nat) :
    ∃ r, g.nextRow name rows = .ok r := by
  rw [nextRow, hf, Except.map]
  exact ⟨_, rfl⟩

theorem findRow_of_frame (hf : g.frame name = .ok f) (columns rows column : Nat) :
    g.findRow columns rows column name = .ok (g.findRowIn f columns rows column) := by
  rw [findRow, hf]
  rfl

/-- Moving the cursor of the active frame leaves an active frame. -/
theorem CursorMoved.exists_frame (h : CursorMoved name g g') (hf : g.frame name = .ok f) :
    ∃ f', g'.frame name = .ok f' := by
  obtain ⟨a, ha, -⟩ := frame_eq_ok.mp hf
  obtain ⟨f', hf'⟩ := h.2 a ha
  exact ⟨f', frame_eq_ok.mpr ⟨_, hf', rfl⟩⟩

theorem exists_flowFrom (hf : g.frame name = .ok f) (columns rows column : Nat) :
    ∃ r, g.flowFrom columns rows column name = .ok r := by
  refine exists_bind (findRow_of_frame hf columns rows column) ?_
  split
  · exact ⟨_, rfl⟩
  · split
    · exact ⟨_, rfl⟩
    · obtain ⟨⟨g₁, moved⟩, hmoved⟩ := exists_nextRow hf 1
      refine exists_bind hmoved ?_
      obtain ⟨f₁, hf₁⟩ := (cursorMoved_nextRow hmoved).exists_frame hf
      dsimp only
      split
      · exact exists_bind (findRow_of_frame hf₁ columns rows 1) ⟨_, rfl⟩
      · exact ⟨_, rfl⟩

theorem exists_flowInFrame (hf : g.frame name = .ok f) (columns rows : Nat) :
    ∃ r, g.flowInFrame columns rows name = .ok r := by
  refine exists_bind hf ?_
  split
  · obtain ⟨⟨g₁, moved⟩, hmoved⟩ := exists_nextRow hf 1
    obtain ⟨f₁, hf₁⟩ := (cursorMoved_nextRow hmoved).exists_frame hf
    exact exists_bind hmoved (exists_flowFrom hf₁ columns rows 1)
  · exact exists_flowFrom hf columns rows f.cursorColumn

/-! ### Places in a frame -/

/-- A place that the search gives in a frame: behind the cursor or below it in the same column, from the
start of a fresh row on, or from the start of the cursor's row on if the object does not fit behind the
cursor and there is no fresh row. -/
inductive PlaceInFrame (g : Grid α) (f : Frame) (columns rows : Nat) : Nat × Nat → Prop
  | behind {row : Nat} : ¬ (1 < f.cursorColumn ∧ passesFrame f.cursorColumn columns f.width = true) →
      g.findRowIn f columns rows f.cursorColumn = some row →
        PlaceInFrame g f columns rows (f.cursorColumn, row)
  | fresh {start row : Nat} : 1 < f.cursorColumn →
      g.findRowIn (f.withCursor 1 (rowAfter f 1)) f.width 1 1 = some start →
      g.findRowIn (f.withCursor 1 start) columns rows 1 = some row →
        PlaceInFrame g f columns rows (1, row)
  | back {row : Nat} : 1 < f.cursorColumn → passesFrame f.cursorColumn columns f.width = true →
      g.findRowIn (f.withCursor 1 (rowAfter f 1)) f.width 1 1 = none →
      g.findRowIn (f.withCursor 1 (rowAfter f 1)) columns rows 1 = some row →
        PlaceInFrame g f columns rows (1, row)

/-- Where the search goes after the cursor has moved to a fresh row, or has failed to. -/
theorem findRow_of_nextRow {moved : Bool} {found : Option Nat}
    (hf : g.frame name = .ok f) (h : g.nextRow name 1 = .ok (g', moved))
    (hfound : g'.findRow columns rows 1 name = .ok found) :
    (∃ start, moved = true ∧
        g.findRowIn (f.withCursor 1 (rowAfter f 1)) f.width 1 1 = some start ∧
        g.findRowIn (f.withCursor 1 start) columns rows 1 = found) ∨
      moved = false ∧ g.findRowIn (f.withCursor 1 (rowAfter f 1)) f.width 1 1 = none ∧
        g.findRowIn (f.withCursor 1 (rowAfter f 1)) columns rows 1 = found := by
  obtain ⟨f₀, start, hf₀, rfl, hmoved⟩ := nextRow_eq_ok h
  obtain rfl := Except.ok.inj (hf₀.symm.trans hf)
  obtain ⟨a, ha, rfl⟩ := frame_eq_ok.mp hf
  -- the frame that the cursor has been moved in
  have hframe : (g.updateFrame name fun _ => a.active.withCursor 1 start).frame name =
      .ok (a.active.withCursor 1 start) := by
    refine frame_eq_ok.mpr ⟨a.updateActive fun _ => a.active.withCursor 1 start, ?_, rfl⟩
    rw [area?_updateFrame, if_pos rfl, ha]
    rfl
  obtain hfound := Except.ok.inj ((findRow_of_frame hframe columns rows 1).symm.trans hfound)
  rcases hmoved with ⟨rfl, hstart⟩ | ⟨rfl, hnone, rfl⟩
  · exact .inl ⟨start, rfl, hstart, hfound⟩
  · exact .inr ⟨rfl, hnone, hfound⟩

/-- **Places in a frame.** The search in a frame gives a place in one of the three ways. -/
theorem placeInFrame_of_flowInFrame {place : Nat × Nat} (hf : g.frame name = .ok f)
    (h : g.flowInFrame columns rows name = .ok (g', some place)) :
    PlaceInFrame g f columns rows place := by
  obtain ⟨f₀, hf₀, h⟩ := bind_eq_ok.mp h
  obtain rfl := Except.ok.inj (hf₀.symm.trans hf)
  split at h
  · next hpasses =>
    rw [Bool.and_eq_true, decide_eq_true_eq] at hpasses
    obtain ⟨⟨g₁, moved⟩, hmoved, h⟩ := bind_eq_ok.mp h
    obtain ⟨found, hfound, h⟩ := bind_eq_ok.mp h
    cases found with
    | none => cases h
    | some row =>
      cases h
      obtain ⟨start, -, hstart, hrow⟩ | ⟨-, hnone, hrow⟩ := findRow_of_nextRow hf hmoved hfound
      · exact .fresh hpasses.1 hstart hrow
      · exact .back hpasses.1 hpasses.2 hnone hrow
  · next hpasses =>
    rw [Bool.and_eq_true, decide_eq_true_eq] at hpasses
    obtain ⟨found, hfound, h⟩ := bind_eq_ok.mp h
    obtain rfl := Except.ok.inj ((findRow_of_frame hf _ _ _).symm.trans hfound)
    split at h
    · next row hrow =>
      cases h
      exact .behind hpasses hrow
    · split at h
      · cases h
      · next hcolumn =>
        obtain ⟨⟨g₁, moved⟩, hmoved, h⟩ := bind_eq_ok.mp h
        cases moved with
        | false => cases h
        | true =>
          obtain ⟨found, hfound, h⟩ := bind_eq_ok.mp h
          obtain ⟨start, -, hstart, hrow⟩ | ⟨hmoved, -⟩ := findRow_of_nextRow hf hmoved hfound
          · cases found with
            | none => cases h
            | some row =>
              cases h
              exact .fresh (by omega) hstart hrow
          · cases hmoved

/-! ### The search in all frames -/

/-- Moving the cursor of the active frame keeps the frames before and after it. -/
theorem CursorMoved.area? (h : CursorMoved name g g') {a : Area} (ha : g.area? name = some a) :
    ∃ b, g'.area? name = some b ∧ b.current = a.current ∧ b.later = a.later := by
  obtain ⟨f, hf⟩ := h.2 a ha
  exact ⟨_, hf, rfl, rfl⟩

theorem exists_advanceFrame {a : Area} (ha : g.area? name = some a) :
    ∃ r, g.advanceFrame name = .ok r := by
  rw [advanceFrame, area_eq_ok.mpr ha, Except.map]
  exact ⟨_, rfl⟩

/-- Going on to the next frame leaves an area, and in it one frame less to come. -/
theorem area?_of_advanceFrame {a : Area} (ha : g.area? name = some a)
    (h : g.advanceFrame name = .ok (g', true)) :
    ∃ b, g'.area? name = some b ∧ b.current = a.current + 1 ∧ a.later.length = b.later.length + 1 := by
  obtain ⟨a', ha', ⟨-, h, -⟩ | ⟨b, hb, -, rfl⟩⟩ := advanceFrame_eq_ok h
  · cases h
  · obtain rfl := Option.some.inj (ha.symm.trans ha')
    refine ⟨b, ?_, (Area.length_frames_of_advance? hb).2, ?_⟩
    · rw [area?_updateArea_advance ha hb, if_pos rfl]
    · obtain ⟨f, fs, hl, rfl⟩ := Area.advance?_eq_some.mp hb
      rw [hl]
      rfl

theorem exists_flowThrough {a : Area} (ha : g.area? name = some a) (columns rows fuel : Nat) :
    ∃ r, flowThrough columns rows name fuel g = .ok r := by
  induction fuel generalizing g a with
  | zero => exact exists_flowInFrame (frame_eq_ok.mpr ⟨a, ha, rfl⟩) columns rows
  | succ fuel ih =>
    obtain ⟨⟨g₁, found⟩, hfirst⟩ := exists_flowInFrame (frame_eq_ok.mpr ⟨a, ha, rfl⟩) columns rows
    refine exists_bind hfirst ?_
    cases found with
    | some place => exact ⟨_, rfl⟩
    | none =>
      obtain ⟨b, hb, -⟩ := (flowInFrame_eq_ok hfirst).1.area? ha
      obtain ⟨⟨g₂, advanced⟩, hnext⟩ := exists_advanceFrame hb
      refine exists_bind hnext ?_
      cases advanced with
      | false => exact ⟨_, rfl⟩
      | true =>
        obtain ⟨c, hc, -⟩ := area?_of_advanceFrame hb hnext
        exact ih hc

/-- **There is an answer.** -/
theorem exists_flow {a : Area} (ha : g.area? name = some a) (columns rows : Nat) :
    ∃ r, g.flow columns rows name = .ok r :=
  exists_bind (area_eq_ok.mpr ha) (exists_flowThrough ha columns rows _)

/-- The frames are searched in their order. -/
theorem current_le_of_flowThrough {a : Area} {place : Option (Nat × Nat)} {fuel : Nat}
    (ha : g.area? name = some a) (h : flowThrough columns rows name fuel g = .ok (g', place)) :
    ∃ b, g'.area? name = some b ∧ a.current ≤ b.current := by
  induction fuel generalizing g a with
  | zero =>
    obtain ⟨b, hb, hcurrent, -⟩ := (flowInFrame_eq_ok h).1.area? ha
    exact ⟨b, hb, Nat.le_of_eq hcurrent.symm⟩
  | succ fuel ih =>
    obtain ⟨⟨g₁, found⟩, hfirst, h⟩ := bind_eq_ok.mp h
    obtain ⟨b, hb, hcurrent, -⟩ := (flowInFrame_eq_ok hfirst).1.area? ha
    cases found with
    | some p =>
      cases h
      exact ⟨b, hb, Nat.le_of_eq hcurrent.symm⟩
    | none =>
      obtain ⟨⟨g₂, advanced⟩, hnext, h⟩ := bind_eq_ok.mp h
      cases advanced with
      | true =>
        obtain ⟨c, hc, hcurrent', -⟩ := area?_of_advanceFrame hb hnext
        obtain ⟨d, hd, hle⟩ := ih hc h
        exact ⟨d, hd, by omega⟩
      | false =>
        cases h
        obtain ⟨_, -, ⟨-, -, rfl⟩ | ⟨_, -, h, -⟩⟩ := advanceFrame_eq_ok hnext
        · exact ⟨b, hb, Nat.le_of_eq hcurrent.symm⟩
        · cases h

/-- **Places of the flow.** A place that the flow gives is in the frame that was active, or in a later
one. -/
theorem placeInFrame_or_later_of_flow {a : Area} {place : Nat × Nat} (ha : g.area? name = some a)
    (h : g.flow columns rows name = .ok (g', some place)) :
    PlaceInFrame g a.active columns rows place ∨
      ∃ b, g'.area? name = some b ∧ a.current < b.current := by
  have hframe : g.frame name = .ok a.active := frame_eq_ok.mpr ⟨a, ha, rfl⟩
  obtain ⟨a', ha', h⟩ := bind_eq_ok.mp h
  obtain rfl := Option.some.inj (ha.symm.trans (area_eq_ok.mp ha'))
  cases hl : a.later.length with
  | zero =>
    rw [hl] at h
    exact .inl (placeInFrame_of_flowInFrame hframe h)
  | succ fuel =>
    rw [hl] at h
    obtain ⟨⟨g₁, found⟩, hfirst, h⟩ := bind_eq_ok.mp h
    cases found with
    | some p =>
      cases h
      exact .inl (placeInFrame_of_flowInFrame hframe hfirst)
    | none =>
      obtain ⟨b, hb, hcurrent, -⟩ := (flowInFrame_eq_ok hfirst).1.area? ha
      obtain ⟨⟨g₂, advanced⟩, hnext, h⟩ := bind_eq_ok.mp h
      cases advanced with
      | false => cases h
      | true =>
        obtain ⟨c, hc, hcurrent', -⟩ := area?_of_advanceFrame hb hnext
        obtain ⟨d, hd, hle⟩ := current_le_of_flowThrough hc h
        exact .inr ⟨d, hd, by omega⟩

end PageGrid.Grid
