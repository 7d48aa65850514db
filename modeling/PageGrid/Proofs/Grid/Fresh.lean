import PageGrid.Page
import PageGrid.Proofs.Grid.FreeCells

/-!
# Grids of new pages

On the grid of a new page no cell is marked, and every area is at the start of its first frame.
There the flow fails for one reason only: the object is too large for every frame of the area.

## Main definitions

* `Grid.Fresh` — no marks, and no flow that has moved;
* `Grid.Unmarked` — no cell is marked;
* `FrameSpec.Fits` — a frame is large enough for an object.

## Main results

* `fresh_ofType` — the grid of a new page is fresh;
* `flow_of_unmarked` — what the flow gives on a grid without marks;
* `not_fits_of_flow_of_fresh` — on a fresh grid the flow finds no place only for an object that fits
  no frame.
-/

namespace PageGrid

variable {α : Type}

/-- The frame has at least the given columns and rows. -/
def FrameSpec.Fits (f : FrameSpec) (columns rows : Nat) : Prop :=
  columns ≤ f.width ∧ rows ≤ f.height

instance (f : FrameSpec) (columns rows : Nat) : Decidable (f.Fits columns rows) :=
  inferInstanceAs (Decidable (_ ∧ _))

/-- No cell of the grid is marked. -/
def Grid.Unmarked (g : Grid α) : Prop :=
  ∀ column row, g.HasCell column row → g.occupancy.count column row = 0

/-- The flow of an area has not moved, and its frames are inside the grid. -/
structure Area.Fresh (g : Grid α) (a : Area) : Prop where
  earlier : a.earlier = []
  cursor : a.active.cursorColumn = 1 ∧ a.active.cursorRow = 1
  inside : ∀ f ∈ a.frames, g.holdsFrame f.toFrameSpec = true

/-- No cell is marked, and no flow has moved. -/
structure Grid.Fresh (g : Grid α) : Prop where
  occupancy : g.occupancy = .empty
  areas : ∀ a ∈ g.areas, a.Fresh g

namespace Grid

variable {g g' : Grid α} {name : String} {columns rows : Nat}

/-! ### New grids are fresh -/

theorem fresh_build {horizontal vertical : Axis α} {margins : Margins α} {groupScoped : Bool}
    (hc : horizontal.count ≠ 0) (hr : vertical.count ≠ 0) :
    (build horizontal vertical margins groupScoped).Fresh := by
  refine ⟨rfl, fun a ha => ?_⟩
  obtain rfl := List.mem_singleton.mp ha
  refine ⟨rfl, ⟨rfl, rfl⟩, fun f hf => ?_⟩
  obtain rfl := List.mem_singleton.mp hf
  have hspan (n : Nat) (hn : n ≠ 0) : 1 + max n 1 - 1 ≤ n := by omega
  simp only [holdsFrame, spansWithin, Bool.and_eq_true, decide_eq_true_eq]
  exact ⟨⟨⟨Nat.le_refl 1, Nat.le_refl 1, Nat.pos_of_ne_zero hc, Nat.pos_of_ne_zero hr⟩, hspan _ hc⟩,
    hspan _ hr⟩

/-- What `forPage` does: it builds a grid from two axes that have cells. -/
theorem forPage_eq_ok [Scalar α] {page : Size α} {margins : Margins α} {settings : GridSettings α}
    (h : forPage page margins settings = .ok g) :
    ∃ width height horizontal vertical,
      Axis.resolve .horizontal settings.horizontal width = .ok horizontal ∧
      Axis.resolve .vertical settings.vertical height = .ok vertical ∧
      (horizontal.count ≠ 0 ∧ vertical.count ≠ 0) ∧
      g = build horizontal vertical margins false := by
  rw [forPage] at h
  dsimp only at h
  split at h
  · cases h
  · obtain ⟨horizontal, hh, h⟩ := bind_eq_ok.mp h
    obtain ⟨vertical, hv, h⟩ := bind_eq_ok.mp h
    split at h
    · cases h
    · next hn =>
      cases h
      exact ⟨_, _, _, _, hh, hv, not_or.mp hn, rfl⟩

theorem fresh_forPage [Scalar α] {page : Size α} {margins : Margins α} {settings : GridSettings α}
    (h : forPage page margins settings = .ok g) : g.Fresh := by
  obtain ⟨_, _, _, _, -, -, ⟨hc, hr⟩, rfl⟩ := forPage_eq_ok h
  exact fresh_build hc hr

/-- What `defineArea` does: the area of the given frames, all of which are inside the grid, takes the place
of the areas of its name. -/
theorem defineArea_eq_ok {frames : List FrameSpec} (h : g.defineArea name frames = .ok g') :
    ∃ a, Area.ofFrames? name frames = some a ∧ (∀ f ∈ frames, g.holdsFrame f = true) ∧
      g' = { g with areas := a :: g.areas.filter (·.name ≠ name) } := by
  rw [defineArea] at h
  split at h
  · cases h
  · next a ha =>
    split at h
    · cases h
    · next hheld =>
      cases h
      exact ⟨a, ha, fun f hf => by simpa using List.find?_eq_none.mp hheld f hf, rfl⟩

/-- An area of frames inside the grid is at its start. -/
theorem fresh_ofFrames? {frames : List FrameSpec} {a : Area}
    (ha : Area.ofFrames? name frames = some a) (hheld : ∀ f ∈ frames, g.holdsFrame f = true) :
    a.Fresh g := by
  cases frames with
  | nil => cases ha
  | cons f fs =>
    cases ha
    refine ⟨rfl, ⟨rfl, rfl⟩, fun f' hf' => ?_⟩
    have hf' : f' = .ofSpec f ∨ ∃ s ∈ fs, Frame.ofSpec s = f' := by
      simpa [Area.frames] using hf'
    rcases hf' with rfl | ⟨s, hs, rfl⟩
    · exact hheld f (.head _)
    · exact hheld s (.tail _ hs)

theorem fresh_defineArea {frames : List FrameSpec} (h : g.defineArea name frames = .ok g')
    (hg : g.Fresh) : g'.Fresh := by
  obtain ⟨a, ha, hheld, rfl⟩ := defineArea_eq_ok h
  refine ⟨hg.occupancy, fun b hb => ?_⟩
  have hfresh : b.Fresh g := by
    rcases List.mem_cons.mp hb with rfl | hb
    · exact fresh_ofFrames? ha hheld
    · exact hg.areas b (List.mem_filter.mp hb).1
  exact ⟨hfresh.earlier, hfresh.cursor, hfresh.inside⟩

theorem fresh_foldlM {areas : List AreaDefinition}
    (h : areas.foldlM (fun g a => g.defineArea a.name a.frames) g = .ok g') (hg : g.Fresh) :
    g'.Fresh := by
  induction areas generalizing g with
  | nil =>
    cases h
    exact hg
  | cons a rest ih =>
    obtain ⟨g₁, h₁, h⟩ := bind_eq_ok.mp h
    exact ih h (fresh_defineArea h₁ hg)

/-- **New pages are fresh.** -/
theorem fresh_ofType [Scalar α] {number : Nat} {type : PageType α} {size : Size α}
    {settings : GridSettings α} {page : Page α}
    (h : Page.ofType number type size settings = .ok page) : page.grid.Fresh := by
  obtain ⟨g₀, h₀, h⟩ := bind_eq_ok.mp h
  obtain ⟨g₁, h₁, h⟩ := bind_eq_ok.mp h
  cases h
  exact fresh_foldlM h₁ (fresh_forPage h₀)

/-! ### The flow on a grid without marks -/

/-- Without marks, the search from the top left of a frame finds room there, or the object does not
fit the frame. -/
theorem findRowIn_of_unmarked {f : Frame} (hg : g.Unmarked)
    (hf : g.holdsFrame f.toFrameSpec = true) (hc : f.cursorRow = 1) :
    g.findRowIn f columns rows 1 = if f.Fits columns rows then some 1 else none := by
  simp only [holdsFrame, spansWithin, Bool.and_eq_true, decide_eq_true_eq] at hf
  rw [findRowIn]
  dsimp only
  split
  · next h =>
    obtain ⟨-, hw, hh⟩ := h
    rw [spansWithin, decide_eq_true_eq] at hw
    have hfit : f.Fits columns rows := ⟨by omega, by omega⟩
    have hfree : g.blockIsFree f 1 (max columns 1) 1 (max rows 1) = true := by
      rw [blockIsFree_eq_true]
      intro r hr₁ hr₂
      rw [rowIsFree_eq_true]
      have hrows := wordSum_le 1 (max rows 1)
      refine ⟨by omega, hr₁, by omega, by omega, fun c hc₁ hc₂ => ?_⟩
      have hcolumns := wordSum_le 1 (max columns 1)
      have hcol : f.absoluteColumn c = ((f.column + c - 1 : Nat) : Int) := by
        rw [Frame.absoluteColumn]
        omega
      have hrow : f.absoluteRow r = ((f.row + r - 1 : Nat) : Int) := by
        rw [Frame.absoluteRow]
        omega
      have hcell : g.HasCell (f.column + c - 1) (f.row + r - 1) := by
        rw [HasCell]
        omega
      rw [hcol, hrow, cellIsFree_natCast]
      exact ⟨hcell, hg _ _ hcell⟩
    obtain ⟨n, hn⟩ : ∃ n, f.height - max rows 1 + 1 + 1 - f.cursorRow = n + 1 :=
      ⟨f.height - max rows 1, by omega⟩
    rw [hn, hc, List.range'_succ, if_pos hfit]
    exact List.find?_cons_of_pos hfree
  · next h =>
    rw [if_neg]
    rintro ⟨hw, hh⟩
    refine h ⟨Nat.le_refl 1, ?_, by omega⟩
    rw [spansWithin, decide_eq_true_eq]
    omega

/-- At the start of its frame the flow stays there and gives the top left, or the object does not fit
the frame. -/
theorem flowInFrame_of_unmarked {f : Frame} (columns rows : Nat) (hg : g.Unmarked)
    (hf : g.frame name = .ok f) (hin : g.holdsFrame f.toFrameSpec = true)
    (hcol : f.cursorColumn = 1) (hrow : f.cursorRow = 1) :
    g.flowInFrame columns rows name =
      .ok (g, if f.Fits columns rows then some (1, 1) else none) := by
  have hfind : g.findRow columns rows 1 name =
      .ok (if f.Fits columns rows then some 1 else none) := by
    rw [findRow, hf, ← findRowIn_of_unmarked hg hin hrow]
    rfl
  rw [flowInFrame, hf]
  change (if _ then _ else _) = _
  rw [hcol, if_neg (by simp), flowFrom, hfind]
  by_cases hfit : f.Fits columns rows
  · simp only [if_pos hfit]
    rfl
  · simp only [if_neg hfit]
    rfl

/-- Where the flow finds no place in a frame it goes on to the next one. -/
theorem flowThrough_succ_of_none {a b : Area} {fuel : Nat} (ha : g.area? name = some a)
    (hb : a.advance? = some b) (h : g.flowInFrame columns rows name = .ok (g, none)) :
    flowThrough columns rows name (fuel + 1) g =
      flowThrough columns rows name fuel (g.updateArea name fun _ => b) := by
  rw [flowThrough, h]
  change (g.advanceFrame name >>= _) = _
  rw [advanceFrame, area_eq_ok.mpr ha, Except.map, hb]
  rfl

/-- Through the frames from the active one on, the flow gives the top left of the first one that the
object fits, or it ends at the start of the last one. -/
theorem flowThrough_of_unmarked {a : Area} {fuel : Nat} (columns rows : Nat) (hg : g.Unmarked)
    (ha : g.area? name = some a)
    (hin : ∀ f ∈ a.active :: a.later, g.holdsFrame f.toFrameSpec = true)
    (hcol : a.active.cursorColumn = 1) (hrow : a.active.cursorRow = 1)
    (hl : a.later.length = fuel) :
    ∃ g', ((∃ f ∈ a.active :: a.later, f.Fits columns rows) ∧
        flowThrough columns rows name fuel g = .ok (g', some (1, 1))) ∨
      (∀ f ∈ a.active :: a.later, ¬ f.Fits columns rows) ∧
        flowThrough columns rows name fuel g = .ok (g', none) ∧
        ∃ b, g'.area? name = some b ∧ b.current = a.current + fuel ∧
          b.active.cursorColumn = 1 ∧ b.active.cursorRow = 1 := by
  induction fuel generalizing g a with
  | zero =>
    rw [flowThrough, List.length_eq_zero_iff.mp hl,
      flowInFrame_of_unmarked columns rows hg (frame_eq_ok.mpr ⟨a, ha, rfl⟩) (hin _ (.head _)) hcol
        hrow]
    by_cases hfit : a.active.Fits columns rows
    · exact ⟨g, .inl ⟨⟨a.active, .head _, hfit⟩, by rw [if_pos hfit]⟩⟩
    · exact ⟨g, .inr ⟨by simpa using hfit, by rw [if_neg hfit], a, ha, rfl, hcol, hrow⟩⟩
  | succ fuel ih =>
    have hfirst := flowInFrame_of_unmarked columns rows hg (frame_eq_ok.mpr ⟨a, ha, rfl⟩)
      (hin _ (.head _)) hcol hrow
    by_cases hfit : a.active.Fits columns rows
    · refine ⟨g, .inl ⟨⟨a.active, .head _, hfit⟩, ?_⟩⟩
      rw [flowThrough, hfirst, if_pos hfit]
      rfl
    · rw [if_neg hfit] at hfirst
      obtain ⟨f', fs, hlater⟩ := List.exists_cons_of_length_eq_add_one hl
      rw [hlater] at hin hl ⊢
      have hb := Area.advance?_eq_some.mpr ⟨f', fs, hlater, rfl⟩
      have hg₂ := area?_updateArea_advance ha hb name
      rw [if_pos rfl] at hg₂
      rw [flowThrough_succ_of_none ha hb hfirst]
      -- the next frame begins with its cursor at the top left, so the hypotheses hold there as well
      have hin' : ∀ f ∈ f'.reset :: fs, g.holdsFrame f.toFrameSpec = true := by
        intro f hf
        rcases List.mem_cons.mp hf with rfl | hf
        · exact hin f' (.tail _ (.head _))
        · exact hin f (.tail _ (.tail _ hf))
      obtain ⟨g', hnext⟩ := ih (g := g.updateArea name fun _ => _) hg hg₂ hin' rfl rfl
        (Nat.succ.inj hl)
      refine ⟨g', hnext.imp ?_ ?_⟩
      · rintro ⟨⟨f, hf, hfits⟩, hflow⟩
        refine ⟨?_, hflow⟩
        rcases List.mem_cons.mp hf with rfl | hf
        · exact ⟨f', .tail _ (.head _), hfits⟩
        · exact ⟨f, .tail _ (.tail _ hf), hfits⟩
      · rintro ⟨hnone, hflow, b, hgb, hcurrent, hcursor⟩
        refine ⟨?_, hflow, b, hgb, ?_, hcursor⟩
        · rw [List.forall_mem_cons, List.forall_mem_cons]
          rw [List.forall_mem_cons] at hnone
          exact ⟨hfit, hnone⟩
        · rw [hcurrent, Area.current, Area.current, List.length_cons]
          omega

/-- **On an unmarked grid only size counts.** The flow of an area that has not moved gives the top
left of the first frame that the object fits. For an object that fits none, it ends in the last frame,
so that it has moved unless there is only one. -/
theorem flow_of_unmarked {a : Area} (columns rows : Nat) (hg : g.Unmarked)
    (hin : ∀ f ∈ a.specs, g.holdsFrame f = true) (ha : g.area? name = some a)
    (hstart : a.atStart = true) :
    ∃ g', ((∃ f ∈ a.specs, f.Fits columns rows) ∧
        g.flow columns rows name = .ok (g', some (1, 1))) ∨
      (∀ f ∈ a.specs, ¬ f.Fits columns rows) ∧ g.flow columns rows name = .ok (g', none) ∧
        g'.atFlowStart name = .ok (decide (a.specs.length = 1)) := by
  simp only [Area.atStart, Area.current, Bool.and_eq_true, beq_iff_eq, List.length_eq_zero_iff]
    at hstart
  obtain ⟨⟨hearlier, hcol⟩, hrow⟩ := hstart
  have hspecs : a.specs = (a.active :: a.later).map (·.toFrameSpec) := by
    rw [Area.specs, Area.frames, hearlier, List.reverse_nil, List.nil_append]
  have hflow : g.flow columns rows name = flowThrough columns rows name a.later.length g := by
    rw [flow, area_eq_ok.mpr ha]
    rfl
  rw [hspecs, List.forall_mem_map] at hin
  rw [hspecs, hflow]
  obtain ⟨g', hplace⟩ := flowThrough_of_unmarked columns rows hg ha hin hcol hrow rfl
  refine ⟨g', hplace.imp ?_ ?_⟩
  · rintro ⟨⟨f, hf, hfits⟩, h⟩
    exact ⟨⟨f.toFrameSpec, List.mem_map_of_mem hf, hfits⟩, h⟩
  · rintro ⟨hnone, h, b, hgb, hcurrent, hcursor⟩
    refine ⟨List.forall_mem_map.mpr hnone, h, ?_⟩
    have hb : b.atStart = decide (((a.active :: a.later).map (·.toFrameSpec)).length = 1) := by
      rw [Area.atStart, hcurrent, Area.current, hearlier, Bool.eq_iff_iff]
      simp [hcursor]
    rw [atFlowStart, area_eq_ok.mpr hgb, ← hb]
    rfl

theorem Fresh.unmarked (h : g.Fresh) : g.Unmarked := by
  intro column row _
  rw [h.occupancy]
  rfl

/-- **On a new page only size counts.** -/
theorem not_fits_of_flow_of_fresh {a : Area} (hg : g.Fresh) (ha : g.area? name = some a)
    (h : g.flow columns rows name = .ok (g', none)) : ∀ f ∈ a.frames, ¬ f.Fits columns rows := by
  have hfresh := hg.areas a (List.mem_of_find?_eq_some ha)
  have hstart : a.atStart = true := by simp [Area.atStart, Area.current, hfresh.earlier, hfresh.cursor]
  obtain ⟨g₁, ⟨-, hflow⟩ | ⟨hnone, -, -⟩⟩ := flow_of_unmarked columns rows hg.unmarked
    (List.forall_mem_map.mpr hfresh.inside) ha hstart
  · cases h.symm.trans hflow
  · exact fun f hf => hnone _ (List.mem_map_of_mem hf)

end Grid

end PageGrid
