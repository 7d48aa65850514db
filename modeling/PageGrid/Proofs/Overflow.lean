import PageGrid.Proofs.FlowPlacement
import PageGrid.Proofs.Grid.Fresh

/-!
# When the flow overflows

The flow gives up without trying a new page if the flow of the area has not moved. The idea is that
a new page would be no better, and on a page that is still empty this is so: there an object finds
no place only if it is too large for every frame. But the cells of a page are also taken through
other areas and by objects with a position, and the search itself moves the cursor, back to the
first column of its row if no later row is free. So the flow of a page can stand at its start
although the page is full.

`overflow_iff` says when exactly an object overflows that has room on a new page. The area then has
one frame, since giving up in a later frame does not count as not having moved.

## Main results

* `overflow_iff` — when an object overflows although a frame of the area is large enough for it;
* `overflows_onto_content` — that this happens, on a page with content in the way.
-/

namespace PageGrid

/-! ### Areas whose flow has not moved -/

theorem Grid.atFlowStart_eq_ok {α : Type} {g : Grid α} {name : String} {b : Bool} :
    g.atFlowStart name = .ok b ↔ ∃ a, g.area? name = some a ∧ a.atStart = b := by
  rw [atFlowStart, area]
  cases g.area? name <;> simp [Functor.map, Except.map]

theorem Area.specs_of_atStart {a : Area} (h : a.atStart = true) (hl : a.later = []) :
    a.specs = [a.active.toFrameSpec] := by
  simp only [atStart, current, Bool.and_eq_true, beq_iff_eq, List.length_eq_zero_iff] at h
  simp [specs, frames, hl, h.1.1]

/-- An area that the flow has gone through without moving has one frame. -/
theorem Grid.specs_of_flow_of_atFlowStart {α : Type} {g g' : Grid α} {name : String}
    {columns rows : Nat} (hflow : g.flow columns rows name = .ok (g', none))
    (hstart : g'.atFlowStart name = .ok true) :
    ∃ a f, g'.area? name = some a ∧ a.specs = [f] := by
  obtain ⟨a, ha, hatStart⟩ := atFlowStart_eq_ok.mp hstart
  obtain ⟨b, hb, hl⟩ := later_of_flow hflow
  obtain rfl := Option.some.inj (ha.symm.trans hb)
  exact ⟨a, a.active.toFrameSpec, ha, Area.specs_of_atStart hatStart hl⟩

namespace Command

variable {setting : Setting} {rule : Rule} {focus : Focus} {s t : Session} {area : String}
  {columns rows : Nat}

/-- The flow gives up where it has not moved. -/
theorem flowPlace?_eq_none {p : Page Float} {g : Grid Float} (hg : s.layout.openGroups = [])
    (hp : s.layout.page = some p) (hflow : p.grid.flow columns rows area = .ok (g, none))
    (hstart : g.atFlowStart area = .ok true) :
    (flowPlace? rule focus area columns rows).runWith setting s =
      (.ok none, { s with layout := s.layout.setTargetGrid g }) := by
  have htarget := Layout.targetGrid?_of_page hg hp
  have hfirst : (flowOnTarget rule area columns rows).runWith setting s =
      (.ok none, { s with layout := s.layout.setTargetGrid g }) :=
    flowOnTarget_eq_ok.mpr ⟨p.grid, g, htarget, hflow, rfl⟩
  rw [flowPlace?, Action.runWith_bind_of_ok hfirst]
  refine Action.targetGrid_bind_eq_ok.mpr ⟨g, Layout.targetGrid?_setTargetGrid g htarget, ?_⟩
  refine Action.ofExcept_bind_eq_ok.mpr ⟨true, hstart, ?_⟩
  rw [Action.layout_bind, Bool.or_true, if_pos rfl, Action.runWith_pure]

/-- **Overflow without need.** Outside groups, an object overflows although some frame of the area
is large enough for it exactly if the area has one frame, large enough, and the flow finds no place
there and has not moved, be it that the cursor is back at its start. -/
theorem overflow_iff (setting : Setting) (rule : Rule) (focus : Focus) (area : String)
    (columns rows : Nat) (s : Session) :
    (s.layout.inGroup = false ∧ ∃ t page a,
      (flowPlace? rule focus area columns rows).runWith setting s = (.ok none, t) ∧
      t.layout.page = some page ∧ page.grid.area? area = some a ∧
      ∃ f ∈ a.specs, f.Fits columns rows) ↔
    (s.layout.inGroup = false ∧ ∃ page a f g,
      s.layout.page = some page ∧ page.grid.area? area = some a ∧
      a.specs = [f] ∧ f.Fits columns rows ∧
      page.grid.flow columns rows area = .ok (g, none) ∧ g.atFlowStart area = .ok true) := by
  refine and_congr_right fun hg => ?_
  have ho := Layout.inGroup_eq_false.mp hg
  constructor
  · rintro ⟨t, page, a, hrun, hp, ha, f, hf, hfit⟩
    cases flowPlace?_exit hrun with
    | @overflow g g' hgrid hflow hor =>
      have hstart := hor.resolve_left (by simp [hg])
      obtain ⟨page₀, hp₀, rfl⟩ := Layout.page_of_targetGrid? ho hgrid
      obtain rfl := Option.some.inj ((Layout.page_setTargetGrid ho hp₀ g').symm.trans hp)
      obtain ⟨a', f', ha', hspecs⟩ := Grid.specs_of_flow_of_atFlowStart hflow hstart
      obtain rfl := Option.some.inj (ha.symm.trans ha')
      obtain ⟨a₀, ha₀, hspecs₀⟩ := (Grid.flow_eq_ok hflow).1.specs_of_area? ha
      rw [hspecs, List.mem_singleton] at hf
      exact ⟨page₀, a₀, f', g', hp₀, ha₀, hspecs₀.trans hspecs, hf ▸ hfit, hflow, hstart⟩
    | @nextPage p₀ new g g' type _ _ _ hp₀ _ _ _ hpage hflow hlog =>
      -- on the new page the object overflows only if it fits no frame
      rw [hlog.layout_eq] at hp
      obtain rfl : { new with grid := g' } = page := Option.some.inj hp
      obtain ⟨a₁, ha₁, hspecs₁⟩ := (Grid.flow_eq_ok hflow).1.specs_of_area? ha
      rw [← hspecs₁] at hf
      obtain ⟨f₁, hf₁, rfl⟩ := List.mem_map.mp hf
      exact absurd hfit (Grid.not_fits_of_flow_of_fresh (Grid.fresh_ofType hpage) ha₁ hflow f₁ hf₁)
  · rintro ⟨page, a, f, g, hp, ha, hspecs, hfit, hflow, hstart⟩
    obtain ⟨a', f', ha', -⟩ := Grid.specs_of_flow_of_atFlowStart hflow hstart
    obtain ⟨a₀, ha₀, hspecs₀⟩ := (Grid.flow_eq_ok hflow).1.specs_of_area? ha'
    obtain rfl := Option.some.inj (ha.symm.trans ha₀)
    have hmem : f ∈ a'.specs := by simp [← hspecs₀, hspecs]
    exact ⟨_, _, a', flowPlace?_eq_none ho hp hflow hstart, Layout.page_setTargetGrid ho hp g, ha',
      f, hmem, hfit⟩

/-- The first page with a box of three columns over all rows. -/
def leftBand : Session :=
  ((placeInCells (.bare "PlaceObject" [] []) .root pageArea true none none
    (.filled ⟨30, 100⟩ none)).runWith .bare .firstPage).2

/-- An object of one row over all columns then overflows onto the box, although it has room on a new
page. -/
theorem overflows_onto_content :
    leftBand.layout.inGroup = false ∧
    ((flowPlace? (.bare "PlaceObject" [] []) .root pageArea 10 1).runWith .bare
      leftBand).1.toOption = some none ∧
    ((flowPosition (.bare "PlaceObject" [] []) .root pageArea 10 1).runWith .bare
      leftBand).1.toOption = some (1, 1) ∧
    (leftBand.layout.page.map fun page =>
      ((page.grid.area? pageArea).map (·.specs), page.grid.occupancy.count 1 1)) =
      some (some [⟨1, 1, 10, 10⟩], 1) := by
  decide +kernel

end Command

end PageGrid
