import PageGrid.Proofs.Grid.Reachable

/-!
# Requests to a grid

Four operations change a grid: an area is defined, the flow of an area goes on to its next frame or to
another row, and a block of cells is allocated. They may be asked for in any order and with any
arguments, and what is asked for may be refused. Whatever has been asked of a grid that a page or a group
began with, it is well formed: its areas have a frame in which the flow is, frames and marks are inside
the grid, and the cursor of a frame is in one of its columns.

The row of a cursor has no bound of this kind. It is behind the last row of the frame where the frame is
full, and content may be put far below it.

## Main definitions

* `Grid.Request`, `Grid.run` — what may be asked of a grid, and the grid after some requests;
* `Grid.perform` — a request step by step, as far as it comes;
* `Grid.Request.Refused` — the requests that are refused;
* `Grid.Founded` — the grids of pages and groups;
* `Grid.WellFormed` — what holds of these grids at every time.

## Main results

* `WellFormed.apply` — a request keeps what holds;
* `on_perform` — a request that is refused changes nothing;
* `Founded.run_wellFormed` — the same for all requests that may come, of which none takes a mark back, and
  none that is refused changes anything.
-/

namespace PageGrid

variable {α : Type} {columns rows : Nat}

/-! ### Well-formed frames -/

/-- The frame has columns and rows, all inside a grid, and its cursor is in one of its columns. -/
structure Frame.WellPlaced (columns rows : Nat) (f : Frame) : Prop where
  width : 1 ≤ f.width
  height : 1 ≤ f.height
  column : 1 ≤ f.column ∧ f.column + f.width ≤ columns + 1
  row : 1 ≤ f.row ∧ f.row + f.height ≤ rows + 1
  cursorColumn : 1 ≤ f.cursorColumn ∧ f.cursorColumn ≤ f.width
  cursorRow : 1 ≤ f.cursorRow

/-- The same holds wherever the cursor is put in the columns of the frame. -/
theorem Frame.WellPlaced.moved {f f' : Frame} (hf : f.WellPlaced columns rows)
    (hspec : f'.toFrameSpec = f.toFrameSpec) (hcolumn : 1 ≤ f'.cursorColumn ∧ f'.cursorColumn ≤ f.width)
    (hrow : 1 ≤ f'.cursorRow) : f'.WellPlaced columns rows := by
  obtain ⟨spec', column', row'⟩ := f'
  cases hspec
  exact ⟨hf.width, hf.height, hf.column, hf.row, hcolumn, hrow⟩

/-- All frames of the area are well placed. -/
def Area.WellPlaced (columns rows : Nat) (a : Area) : Prop := ∀ f ∈ a.frames, f.WellPlaced columns rows

namespace Area.WellPlaced

variable {a b : Area}

theorem active (ha : a.WellPlaced columns rows) : a.active.WellPlaced columns rows :=
  ha _ (by simp [frames])

theorem updateActive {f : Frame} (ha : a.WellPlaced columns rows) (hf : f.WellPlaced columns rows) :
    (a.updateActive fun _ => f).WellPlaced columns rows := by
  intro f' hf'
  have hmem : f' ∈ a.earlier ∨ f' = f ∨ f' ∈ a.later := by
    simpa [frames, Area.updateActive] using hf'
  obtain hmem | rfl | hmem := hmem
  · exact ha f' (by simp [frames, hmem])
  · exact hf
  · exact ha f' (by simp [frames, hmem])

theorem advance (ha : a.WellPlaced columns rows) (h : a.advance? = some b) :
    b.WellPlaced columns rows := by
  obtain ⟨next, others, hlater, rfl⟩ := Area.advance?_eq_some.mp h
  have hnext : next.WellPlaced columns rows := ha next (by simp [frames, hlater])
  intro f hf
  have hmem : f ∈ a.earlier ∨ f = a.active ∨ f = next.reset ∨ f ∈ others := by simpa [frames] using hf
  obtain hmem | rfl | rfl | hmem := hmem
  · exact ha f (by simp [frames, hmem])
  · exact ha.active
  · exact hnext.moved rfl ⟨Nat.le_refl 1, hnext.width⟩ (Nat.le_refl 1)
  · exact ha f (by simp [frames, hlater, hmem])

end Area.WellPlaced

namespace Grid

variable {g g' : Grid α} {name : String}

theorem wellPlaced_of_holdsFrame {spec : FrameSpec} (h : g.holdsFrame spec = true) :
    (Frame.ofSpec spec).WellPlaced g.columns g.rows := by
  simp only [holdsFrame, spansWithin, Bool.and_eq_true, decide_eq_true_eq] at h
  obtain ⟨⟨⟨hcolumn, hrow, hwidth, hheight⟩, hright⟩, hbottom⟩ := h
  have hcolumns : spec.column + spec.width ≤ g.columns + 1 := by omega
  have hrows : spec.row + spec.height ≤ g.rows + 1 := by omega
  exact ⟨hwidth, hheight, ⟨hcolumn, hcolumns⟩, ⟨hrow, hrows⟩, ⟨Nat.le_refl 1, hwidth⟩, Nat.le_refl 1⟩

theorem wellPlaced_ofFrames? {specs : List FrameSpec} {a : Area}
    (ha : Area.ofFrames? name specs = some a) (hheld : ∀ spec ∈ specs, g.holdsFrame spec = true) :
    a.WellPlaced g.columns g.rows := by
  cases specs with
  | nil => cases ha
  | cons spec specs =>
    cases ha
    intro f hf
    have hmem : ∃ spec' ∈ spec :: specs, Frame.ofSpec spec' = f := by
      simpa [Area.frames, eq_comm] using hf
    obtain ⟨spec', hmem, rfl⟩ := hmem
    exact wellPlaced_of_holdsFrame (hheld spec' hmem)

/-! ### Requests -/

/-- What may be asked of a grid. -/
inductive Request where
  | defineArea (name : String) (frames : List FrameSpec)
  | advanceFrame (name : String)
  | allocateBlock (x y : Int) (columns rows : Nat) (name : String)
  | nextRow (name : String) (rows : Nat)
  deriving DecidableEq, Repr

/-- The grid after a request, unless it is refused. -/
def apply (g : Grid α) : Request → Except (GridError α) (Grid α)
  | .defineArea name frames => g.defineArea name frames
  | .advanceFrame name => (g.advanceFrame name).map (·.1)
  | .allocateBlock x y columns rows name => (g.allocateBlock x y columns rows name).map (·.1)
  | .nextRow name rows => (g.nextRow name rows).map (·.1)

/-- A change of a grid that may stop. What has been changed until then stays changed. -/
abbrev Update (α β : Type) := ExceptT (GridError α) (StateM (Grid α)) β

namespace Update

variable {β : Type}

/-- What the change answers, and the grid that it leaves. -/
def on (u : Update α β) (g : Grid α) : Except (GridError α) β × Grid α := u g

/-- Asks the grid as it is at the moment. -/
def ask (question : Grid α → Except (GridError α) β) : Update α β := fun g => (question g, g)

theorem on_ask_bind {γ : Type} {g : Grid α} {answer : β} (question : Grid α → Except (GridError α) β)
    (h : question g = .ok answer) (next : β → Update α γ) :
    (ask question >>= next).on g = (next answer).on g := by
  change ExceptT.bindCont next (question g) g = _
  rw [h]
  rfl

theorem on_ask_bind_error {γ : Type} {g : Grid α} {e : GridError α}
    (question : Grid α → Except (GridError α) β) (h : question g = .error e) (next : β → Update α γ) :
    (ask question >>= next).on g = (.error e, g) := by
  change ExceptT.bindCont next (question g) g = _
  rw [h]
  rfl

theorem on_modify_bind {γ : Type} (g : Grid α) (f : Grid α → Grid α) (next : PUnit → Update α γ) :
    (modify f >>= next).on g = (next ⟨⟩).on (f g) := rfl

end Update

/-- A request step by step. Its area is looked up before the first change and again before each later one:
an allocation marks cells before it moves the cursor, and the search for a row moves the cursor before it
looks for the row and once more when it has found it. -/
def perform : Request → Update α Unit
  | .defineArea name frames => do
    set (← Update.ask (·.defineArea name frames))
  | .advanceFrame name => do
    let (g, _) ← Update.ask (·.advanceFrame name)
    set g
  | .allocateBlock x y columns rows name => do
    let (allocated, _) ← Update.ask (·.allocateBlock x y columns rows name)
    modify fun g => { g with occupancy := allocated.occupancy }
    let _ ← Update.ask (·.area name)
    modify fun g => { g with areas := allocated.areas }
  | .nextRow name rows => do
    let f ← Update.ask (·.frame name)
    modify (·.updateFrame name fun _ => f.withCursor 1 (rowAfter f rows))
    match ← Update.ask (·.findRow f.width 1 1 name) with
    | none => return
    | some row =>
      let _ ← Update.ask (·.area name)
      modify (·.updateFrame name fun _ => f.withCursor 1 row)

/-- The grid after a request that may be refused. -/
def step (g : Grid α) (request : Request) : Grid α := ((perform request).on g).2

/-- The grid after some requests, one after the other. -/
def run (g : Grid α) (requests : List Request) : Grid α := requests.foldl step g

/-- Areas are refused that have no frames or one that is not inside the grid, and all that concerns areas
that the grid does not have. -/
def Request.Refused (g : Grid α) : Request → Prop
  | .defineArea _ frames => frames = [] ∨ ∃ f ∈ frames, g.holdsFrame f = false
  | .advanceFrame name | .allocateBlock _ _ _ _ name | .nextRow name _ => g.area? name = none

theorem area_eq_error (h : g.area? name = none) : g.area name = .error (.unknownArea name) := by
  rw [area, h]

theorem frame_eq_error (h : g.area? name = none) : g.frame name = .error (.unknownArea name) := by
  rw [frame, area_eq_error h]
  rfl

theorem defineArea_eq_error_iff {frames : List FrameSpec} :
    (∃ fault, g.defineArea name frames = .error fault) ↔
      frames = [] ∨ ∃ f ∈ frames, g.holdsFrame f = false := by
  cases frames with
  | nil => simp [defineArea, Area.ofFrames?]
  | cons f fs =>
    rw [defineArea, Area.ofFrames?]
    cases hfind : (f :: fs).find? (!g.holdsFrame ·) with
    | none =>
      have hheld : ∀ f' ∈ f :: fs, g.holdsFrame f' = true := by
        simpa using List.find?_eq_none.mp hfind
      simpa using hheld
    | some f' =>
      have houtside : g.holdsFrame f' = false := by simpa using List.find?_some hfind
      have hrefused : ∃ f' ∈ f :: fs, g.holdsFrame f' = false :=
        ⟨f', List.mem_of_find?_eq_some hfind, houtside⟩
      simpa using hrefused

/-- **What is refused.** -/
theorem apply_eq_error_iff (g : Grid α) (request : Request) :
    (∃ fault, g.apply request = .error fault) ↔ request.Refused g := by
  cases request with
  | defineArea name frames => exact defineArea_eq_error_iff
  | advanceFrame name =>
    rw [apply, Request.Refused, advanceFrame]
    cases ha : g.area? name with
    | none => simp [area_eq_error ha, Except.map]
    | some a => simp [area_eq_ok.mpr ha, Except.map]
  | allocateBlock x y columns rows name =>
    rw [apply, Request.Refused, allocateBlock]
    cases ha : g.area? name with
    | none => simp [frame_eq_error ha, Except.map]
    | some a => simp [frame_eq_ok.mpr ⟨a, ha, rfl⟩, Except.map]
  | nextRow name rows =>
    rw [apply, Request.Refused, nextRow]
    cases ha : g.area? name with
    | none => simp [frame_eq_error ha, Except.map]
    | some a => simp [frame_eq_ok.mpr ⟨a, ha, rfl⟩, Except.map]

theorem operation_of_apply {request : Request} (h : g.apply request = .ok g') : Operation g g' := by
  cases request with
  | defineArea name frames => exact .defineArea h
  | advanceFrame name =>
    obtain ⟨⟨_, moved⟩, hresult, rfl⟩ := map_eq_ok.mp h
    exact .advanceFrame hresult
  | allocateBlock x y columns rows name =>
    obtain ⟨⟨_, breach⟩, hresult, rfl⟩ := map_eq_ok.mp h
    exact .allocate hresult
  | nextRow name rows =>
    obtain ⟨⟨_, moved⟩, hresult, rfl⟩ := map_eq_ok.mp h
    exact .nextRow hresult

theorem updateFrame_updateFrame (g : Grid α) (name : String) (f f' : Frame) :
    (g.updateFrame name fun _ => f).updateFrame name (fun _ => f') = g.updateFrame name fun _ => f' := by
  simp only [updateFrame, updateArea, List.map_map]
  congr 1
  refine List.map_congr_left fun a _ => ?_
  by_cases hn : a.name = name <;> simp [hn, Area.updateActive]

/-- The area that has been found is found again after the marks have been changed. -/
theorem on_perform_allocateBlock {x y : Int} {columns rows : Nat} {breach : Breach}
    (h : g.allocateBlock x y columns rows name = .ok (g', breach)) :
    (perform (.allocateBlock x y columns rows name)).on g = (.ok (), g') := by
  obtain ⟨f, f', hf, -, rfl⟩ := allocateBlock_eq_ok h
  obtain ⟨a, ha, -⟩ := frame_eq_ok.mp hf
  rw [perform, Update.on_ask_bind _ h]
  -- the marks are there, and the areas are those of before
  have hagain (o : Occupancy) : ({ g with occupancy := o } : Grid α).area name = .ok a := area_eq_ok.mpr ha
  dsimp only
  rw [Update.on_modify_bind, Update.on_ask_bind (·.area name) (hagain _)]
  rfl

/-- The area that has been found is found again wherever its cursor is. -/
theorem on_perform_nextRow {rows : Nat} {moved : Bool} (h : g.nextRow name rows = .ok (g', moved)) :
    (perform (.nextRow name rows)).on g = (.ok (), g') := by
  obtain ⟨f, row, hf, rfl, hrow⟩ := nextRow_eq_ok h
  obtain ⟨a, ha, rfl⟩ := frame_eq_ok.mp hf
  have hmoved : (g.updateFrame name fun _ => a.active.withCursor 1 (rowAfter a.active rows)).area? name =
      some (a.updateActive fun _ => a.active.withCursor 1 (rowAfter a.active rows)) := by
    rw [area?_updateFrame, if_pos rfl, ha]
    rfl
  have hfind : (g.updateFrame name fun _ => a.active.withCursor 1 (rowAfter a.active rows)).findRow
      a.active.width 1 1 name =
        .ok (g.findRowIn (a.active.withCursor 1 (rowAfter a.active rows)) a.active.width 1 1) := by
    rw [findRow, frame_eq_ok.mpr ⟨_, hmoved, rfl⟩]
    rfl
  rw [perform, Update.on_ask_bind _ hf]
  refine (Update.on_ask_bind (·.findRow a.active.width 1 1 name) hfind _).trans ?_
  obtain ⟨-, hfound⟩ | ⟨-, hfound, rfl⟩ := hrow
  · rw [hfound]
    refine (Update.on_ask_bind (·.area name) (area_eq_ok.mpr hmoved) _).trans ?_
    exact congrArg (Prod.mk (Except.ok ())) (updateFrame_updateFrame g name _ _)
  · rw [hfound]
    rfl

/-- **A request that is refused changes nothing**: what stops it, stops it before the first change. -/
theorem on_perform (g : Grid α) (request : Request) :
    (perform request).on g =
      match g.apply request with
      | .ok g' => (.ok (), g')
      | .error e => (.error e, g) := by
  cases request with
  | defineArea name frames =>
    rw [perform, apply]
    cases h : g.defineArea name frames with
    | ok g' => exact Update.on_ask_bind _ h _
    | error e => exact Update.on_ask_bind_error _ h _
  | advanceFrame name =>
    rw [perform, apply]
    cases h : g.advanceFrame name with
    | ok result => exact Update.on_ask_bind _ h _
    | error e => exact Update.on_ask_bind_error _ h _
  | allocateBlock x y columns rows name =>
    rw [apply]
    cases h : g.allocateBlock x y columns rows name with
    | ok result => exact on_perform_allocateBlock h
    | error e => exact Update.on_ask_bind_error _ h _
  | nextRow name rows =>
    rw [apply]
    cases h : g.nextRow name rows with
    | ok result => exact on_perform_nextRow h
    | error e =>
      refine Update.on_ask_bind_error (·.frame name) ?_ _
      rw [nextRow] at h
      cases hf : g.frame name with
      | ok f => simp [hf, Except.map] at h
      | error e' => simpa [hf, Except.map] using h

theorem step_eq (g : Grid α) (request : Request) :
    g.step request = match g.apply request with
      | .ok g' => g'
      | .error _ => g := by
  rw [step, on_perform]
  split <;> rfl

/-- **What is refused**, of a request step by step. -/
theorem on_perform_eq_error_iff (g : Grid α) (request : Request) :
    (∃ fault, ((perform request).on g).1 = .error fault) ↔ request.Refused g := by
  rw [← apply_eq_error_iff, on_perform]
  split <;> simp_all

/-- Requests keep the cells and do not take marks back. -/
theorem grown_step (g : Grid α) (request : Request) : Grown g (g.step request) := by
  rw [step_eq]
  split
  · next h => exact (operation_of_apply h).grown
  · exact refl_of Grown g

theorem grown_run (g : Grid α) (requests : List Request) : Grown g (g.run requests) := by
  induction requests generalizing g with
  | nil => exact refl_of Grown g
  | cons request requests ih => exact trans_of Grown (grown_step g request) (ih _)

theorem run_append (g : Grid α) (first second : List Request) :
    g.run (first ++ second) = (g.run first).run second :=
  List.foldl_append

/-! ### Well-formed grids -/

/-- The areas of the grid, as they are found by their names, are well placed and have a frame that is
active. One of them is the area that covers pages. All marks are on cells of the grid. -/
structure WellFormed (g : Grid α) : Prop where
  page : ∃ a, g.area? pageArea = some a
  frames : ∀ n a, g.area? n = some a → a.frames ≠ [] ∧ a.current < a.frames.length
  placed : ∀ n a, g.area? n = some a → a.WellPlaced g.columns g.rows
  marked : ∀ column row, g.occupancy.count column row ≠ 0 → g.HasCell column row

/-- The numbers of frames need no attention, since an area is made with an active frame. -/
theorem wellFormed_iff : g.WellFormed ↔
    (∃ a, g.area? pageArea = some a) ∧
      (∀ n a, g.area? n = some a → a.WellPlaced g.columns g.rows) ∧
      ∀ column row, g.occupancy.count column row ≠ 0 → g.HasCell column row := by
  refine ⟨fun h => ⟨h.page, h.placed, h.marked⟩, fun ⟨hpage, hplaced, hmarked⟩ => ?_⟩
  exact ⟨hpage, fun _ a _ => ⟨by simp [Area.frames], a.current_lt_length_frames⟩, hplaced, hmarked⟩

theorem wellFormed_build {horizontal vertical : Axis α} {margins : Margins α} {groupScoped : Bool}
    (hh : horizontal.count ≠ 0) (hv : vertical.count ≠ 0) :
    (build horizontal vertical margins groupScoped).WellFormed := by
  have hfresh : (build horizontal vertical margins groupScoped).Fresh := fresh_build hh hv
  refine wellFormed_iff.mpr ⟨⟨_, rfl⟩, fun n a ha f hf => ?_, fun column row hmark => ?_⟩
  · have hmem := List.mem_of_find?_eq_some ha
    obtain rfl := List.mem_singleton.mp hmem
    obtain rfl := List.mem_singleton.mp hf
    exact wellPlaced_of_holdsFrame ((hfresh.areas _ hmem).inside _ hf)
  · exact absurd (congrArg (·.count column row) hfresh.occupancy) hmark

/-- Defining an area replaces one area, also the one that covers pages. -/
theorem WellFormed.defineArea {frames : List FrameSpec} (hg : g.WellFormed)
    (h : g.defineArea name frames = .ok g') : g'.WellFormed := by
  obtain ⟨a, ha, hheld, rfl⟩ := defineArea_eq_ok h
  refine wellFormed_iff.mpr ⟨?_, fun n b hb => ?_, hg.marked⟩
  · rw [area?_defineArea ha]
    split
    · exact ⟨a, rfl⟩
    · exact hg.page
  · rw [area?_defineArea ha] at hb
    split at hb
    · cases hb
      exact wellPlaced_ofFrames? ha hheld
    · exact hg.placed n b hb

/-- The other requests change one area at most, and the area keeps its name. -/
theorem WellFormed.changed {a b : Area} (hg : g.WellFormed) (ha : g.area? name = some a)
    (hb : g'.area? name = some b) (hothers : ∀ n, n ≠ name → g'.area? n = g.area? n)
    (hplaced : b.WellPlaced g.columns g.rows) (hcolumns : g'.columns = g.columns)
    (hrows : g'.rows = g.rows)
    (hmarked : ∀ column row, g'.occupancy.count column row ≠ 0 → g.HasCell column row) :
    g'.WellFormed := by
  refine wellFormed_iff.mpr ⟨?_, fun n c hc => ?_, fun column row hmark => ?_⟩
  · by_cases hn : pageArea = name
    · exact ⟨b, hn ▸ hb⟩
    · rw [hothers _ hn]
      exact hg.page
  · rw [hcolumns, hrows]
    by_cases hn : n = name
    · subst hn
      obtain rfl := Option.some.inj (hb.symm.trans hc)
      exact hplaced
    · rw [hothers n hn] at hc
      exact hg.placed n c hc
  · rw [HasCell, hcolumns, hrows]
    exact hmarked column row hmark

theorem WellFormed.advanceFrame {moved : Bool} (hg : g.WellFormed)
    (h : g.advanceFrame name = .ok (g', moved)) : g'.WellFormed := by
  obtain ⟨a, ha, ⟨-, -, rfl⟩ | ⟨b, hb, -, rfl⟩⟩ := advanceFrame_eq_ok h
  · exact hg
  · have harea := area?_updateArea_advance ha hb
    refine hg.changed ha ((harea name).trans (if_pos rfl)) (fun n hn => (harea n).trans (if_neg hn))
      ((hg.placed name a ha).advance hb) rfl rfl hg.marked

theorem WellFormed.nextRow (hg : g.WellFormed) {rows : Nat} {moved : Bool}
    (h : g.nextRow name rows = .ok (g', moved)) : g'.WellFormed := by
  obtain ⟨f, row, hf, rfl, hrow⟩ := nextRow_eq_ok h
  obtain ⟨a, ha, rfl⟩ := frame_eq_ok.mp hf
  have hactive := (hg.placed name a ha).active
  have hone : 1 ≤ row := by
    have hafter : 1 ≤ rowAfter a.active rows := by
      have hcursor := hactive.cursorRow
      have hlimit := one_le_countLimit
      rw [rowAfter]
      omega
    obtain ⟨-, hfound⟩ | ⟨-, -, rfl⟩ := hrow
    · exact Nat.le_trans hafter (blockIsFree_of_findRowIn hfound).1
    · exact hafter
  have harea (n : String) : (g.updateFrame name fun _ => a.active.withCursor 1 row).area? n =
      if n = name then (g.area? name).map (·.updateActive fun _ => a.active.withCursor 1 row)
      else g.area? n :=
    area?_updateFrame g _ n
  refine hg.changed ha (b := a.updateActive fun _ => a.active.withCursor 1 row) ?_
    (fun n hn => (harea n).trans (if_neg hn)) ?_ rfl rfl hg.marked
  · rw [harea, if_pos rfl, ha]
    rfl
  · exact (hg.placed name a ha).updateActive (hactive.moved rfl ⟨Nat.le_refl 1, hactive.width⟩ hone)

/-- The column of the cursor is that behind the block only if this is a column of the frame. -/
theorem WellFormed.allocateBlock (hg : g.WellFormed) {x y : Int} {columns rows : Nat} {breach : Breach}
    (h : g.allocateBlock x y columns rows name = .ok (g', breach)) : g'.WellFormed := by
  obtain ⟨f₀, f', hf, -, hg'⟩ := allocateBlock_eq_ok h
  obtain ⟨a, ha, rfl⟩ := frame_eq_ok.mp hf
  have hactive := (hg.placed name a ha).active
  obtain ⟨f, hb, hspec, hcursor⟩ := area?_allocateBlock ha h
  have hothers (n : String) (hn : n ≠ name) : g'.area? n = g.area? n := by
    rw [hg', area?_updateFrame, if_neg hn]
    rfl
  have hmarked (column row : Nat) (hmark : g'.occupancy.count column row ≠ 0) : g.HasCell column row := by
    rw [count_allocateBlock h hf] at hmark
    by_cases hcell : g.HasCell column row
    · exact hcell
    · rw [if_neg fun hc => hcell hc.1] at hmark
      exact hg.marked column row hmark
  have hclamp (n : Int) : 1 ≤ clampCursor n ∧ (n ≤ a.active.width → clampCursor n ≤ a.active.width) := by
    have hwidth := hactive.width
    have hlimit := one_le_countLimit
    rw [clampCursor]
    omega
  have hplaced : f.WellPlaced g.columns g.rows := by
    obtain ⟨-, hcolumn, hrow⟩ | ⟨hbehind, hcolumn, hrow⟩ := hcursor
    · refine hactive.moved hspec ?_ ?_
      · rw [hcolumn]
        exact ⟨Nat.le_refl 1, hactive.width⟩
      · rw [hrow]
        exact (hclamp _).1
    · refine hactive.moved hspec ?_ ?_
      · rw [hcolumn]
        exact ⟨(hclamp _).1, (hclamp _).2 hbehind⟩
      · rw [hrow]
        exact (hclamp _).1
  exact hg.changed ha hb hothers ((hg.placed name a ha).updateActive hplaced) (by rw [hg']; rfl)
    (by rw [hg']; rfl) hmarked

/-- **A request keeps a grid well formed.** -/
theorem WellFormed.apply {request : Request} (hg : g.WellFormed) (h : g.apply request = .ok g') :
    g'.WellFormed := by
  cases request with
  | defineArea name frames => exact hg.defineArea h
  | advanceFrame name =>
    obtain ⟨⟨_, moved⟩, hresult, rfl⟩ := map_eq_ok.mp h
    exact hg.advanceFrame hresult
  | allocateBlock x y columns rows name =>
    obtain ⟨⟨_, breach⟩, hresult, rfl⟩ := map_eq_ok.mp h
    exact hg.allocateBlock hresult
  | nextRow name rows =>
    obtain ⟨⟨_, moved⟩, hresult, rfl⟩ := map_eq_ok.mp h
    exact hg.nextRow hresult

theorem WellFormed.step (hg : g.WellFormed) (request : Request) : (g.step request).WellFormed := by
  rw [Grid.step_eq]
  split
  · next h => exact hg.apply h
  · exact hg

theorem WellFormed.run (hg : g.WellFormed) (requests : List Request) : (g.run requests).WellFormed := by
  induction requests generalizing g with
  | nil => exact hg
  | cons request requests ih => exact ih (hg.step request)

/-! ### Grids of pages and groups -/

/-- A new grid: that of a page, or of a group on a grid of which something has been asked. -/
inductive Founded [Scalar α] : Grid α → Prop
  | page {size : Size α} {margins : Margins α} {settings : GridSettings α} {g : Grid α} :
      forPage size margins settings = .ok g → Founded g
  | group {g : Grid α} (requests : List Request) : Founded g → Founded (g.run requests).groupGrid

variable [Scalar α]

theorem Founded.wellFormed (h : g.Founded) : g.WellFormed := by
  induction h with
  | page h =>
    obtain ⟨_, _, _, _, -, -, ⟨hh, hv⟩, rfl⟩ := forPage_eq_ok h
    exact wellFormed_build hh hv
  | @group g requests _ ih =>
    -- the area that covers the page is not empty, so the page has columns
    have hrun := ih.run requests
    obtain ⟨a, ha⟩ := hrun.page
    have hactive := (hrun.placed _ a ha).active
    have hcolumns : (g.run requests).columns ≠ 0 := by
      have hcolumn := hactive.column
      have hwidth := hactive.width
      omega
    have hrows : groupRows ≠ 0 := by decide
    exact wellFormed_build hcolumns hrows

/-- **What may be asked of a grid.** Whatever has been asked of the grid of a page or a group, it is well
formed. Whatever is asked then, no mark is taken back. A request is refused exactly if it is about an area
that the grid does not have or defines one that does not fit, and then the grid is left as it was. -/
theorem Founded.run_wellFormed (h : g.Founded) (requests : List Request) :
    (g.run requests).WellFormed ∧
    (∀ more column row, (g.run requests).occupancy.count column row ≤
      (g.run (requests ++ more)).occupancy.count column row) ∧
    ∀ request,
      ((∃ fault, ((perform request).on (g.run requests)).1 = .error fault) ↔
        request.Refused (g.run requests)) ∧
      ∀ fault g', (perform request).on (g.run requests) = (.error fault, g') →
        g' = g.run requests ∧ g.run (requests ++ [request]) = g.run requests := by
  refine ⟨h.wellFormed.run requests, fun more column row => ?_, fun request => ⟨?_, fun fault g' hstop => ?_⟩⟩
  · rw [run_append]
    exact (grown_run _ more).count_le column row
  · exact on_perform_eq_error_iff _ request
  · have hleft : g' = g.run requests := by
      rw [on_perform] at hstop
      split at hstop <;> cases hstop
      rfl
    rw [run_append]
    refine ⟨hleft, ?_⟩
    change ((perform request).on (g.run requests)).2 = _
    rw [hstop, hleft]

theorem founded_tenByTen : tenByTen.Founded := by
  have hpage : forPage ⟨120, 120⟩ (.all 10) ⟨⟨10, 0, none⟩, ⟨10, 0, none⟩⟩ = .ok tenByTen := rfl
  exact .page hpage

/-- A block over the right and the lower edge of a page of ten columns and ten rows, which brings the
cursor behind the last row. The page has no area for what is asked next. -/
theorem Founded.run_wellFormed_tenByTen :
    let requests : List Request := [.allocateBlock 8 10 5 3 pageArea]
    (tenByTen.run requests).WellFormed ∧
    (tenByTen.run requests).cursor pageArea = .ok (1, 13) ∧
    (perform (.nextRow "side" 1)).on (tenByTen.run requests) =
      (.error (.unknownArea "side"), tenByTen.run requests) ∧
    tenByTen.run (requests ++ [.nextRow "side" 1]) = tenByTen.run requests := by
  intro requests
  obtain ⟨hformed, -, hrefused⟩ := Founded.run_wellFormed founded_tenByTen requests
  have hstop : (perform (.nextRow "side" 1)).on (tenByTen.run requests) =
      (.error (.unknownArea "side"), tenByTen.run requests) := rfl
  exact ⟨hformed, rfl, hstop, ((hrefused (.nextRow "side" 1)).2 _ _ hstop).2⟩

end Grid

end PageGrid
