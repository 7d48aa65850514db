import PageGrid.Proofs.History
import PageGrid.Proofs.Renumbering

/-!
# Runs that begin in another way

A run may number its markers from another number on, it may find another record of the previous run, and
something else may have been logged before. A `Variation` is such another beginning, from which layout
cannot tell a difference: the record tells the same pages, and the files give the same images.

Every operation of a layout commutes with a variation. What rules can ask the layout for stays the same,
since the functions about the layout look at the pages of markers and at nothing else of them.

## Main definitions

* `JobRecord.pageOf?`, `SamePages` — what a record tells about pages;
* `FileTree.SameImages` — two file trees give the same images;
* `PageSink.Blind` — a sink to which numbers of destinations are all the same;
* `Variation` — another beginning;
* `Layout.vary`, `Setting.vary`, `Session.vary` — the layout, the setting and the session in that case.

## Main results

* `Layout.extension_vary` — the functions about the layout have the values that they had;
* `Layout.place_vary`, `setMarker_vary`, `endGroup_vary`, `openPage_vary` — operations commute.
-/

namespace PageGrid

/-! ### What a record tells -/

/-- The page of a name; of several markers of this name the last one counts. -/
def JobRecord.pageOf? (r : JobRecord) (name : String) : Option Nat :=
  (r.markers.reverse.find? (·.name = name)).map (·.page)

/-- The records of two previous runs have the same number of pages and the same map from names of markers
to pages, or both are missing. -/
inductive SamePages : Option JobRecord → Option JobRecord → Prop
  | absent : SamePages none none
  | present {p q : JobRecord} : p.lastPage = q.lastPage → (∀ name, p.pageOf? name = q.pageOf? name) →
      SamePages (some p) (some q)

namespace SamePages

variable {p q r : Option JobRecord}

theorem refl : (p : Option JobRecord) → SamePages p p
  | none => .absent
  | some _ => .present rfl fun _ => rfl

theorem symm (h : SamePages p q) : SamePages q p := by
  cases h with
  | absent => exact .absent
  | present hlast hpage => exact .present hlast.symm fun name => (hpage name).symm

theorem trans (h : SamePages p q) (h' : SamePages q r) : SamePages p r := by
  cases h with
  | absent => exact h'
  | present hlast hpage =>
    cases h' with
    | present hlast' hpage' =>
      exact .present (hlast.trans hlast') fun name => (hpage name).trans (hpage' name)

theorem lastPage (h : SamePages p q) : q.map (·.lastPage) = p.map (·.lastPage) := by
  cases h with
  | absent => rfl
  | present hlast _ => simp [hlast]

theorem pageOf? (h : SamePages p q) (name : String) :
    q.bind (·.pageOf? name) = p.bind (·.pageOf? name) := by
  cases h with
  | absent => rfl
  | present _ hpage => exact (hpage name).symm

end SamePages

/-- Two file trees give the same images. -/
structure FileTree.SameImages (t t' : FileTree) : Prop where
  find? : ∀ directories name, t'.find? directories name = t.find? directories name
  size? : ∀ path resolution, ImageFile.size? t' path resolution = ImageFile.size? t path resolution

/-- What the sink takes does not depend on the numbers of destinations. -/
def PageSink.Blind (sink : PageSink) : Prop :=
  ∀ k taken page, sink.takes (taken.map (FinishedPage.renumber k)) (page.renumber k) =
    sink.takes taken page

theorem PageSink.blind_memory : PageSink.memory.Blind := fun _ _ _ => rfl

/-! ### Variations -/

/-- Another way for a run to begin, in which rules see nothing that differs. -/
structure Variation where
  /-- By how much markers are numbered higher. -/
  offset : Nat
  /-- What is found of the previous run in place of a record. -/
  record : Option JobRecord → Option JobRecord
  samePages : ∀ p, SamePages p (record p)
  /-- The files in place of others. -/
  files : FileTree → FileTree
  sameImages : ∀ t : FileTree, t.SameImages (files t)
  /-- What has been logged before, the latest entry first. -/
  logged : List LogEntry

variable (v : Variation)

/-- The references with higher numbers, over another record of the previous run. -/
def References.vary (r : References) : References :=
  ⟨r.current.map (Marker.renumber v.offset), v.record r.previous⟩

/-- The layout with higher numbers and another record of the previous run. -/
def Layout.vary (l : Layout) : Layout :=
  { l with
    references := l.references.vary v
    page := l.page.map (Page.renumber v.offset)
    openGroups := l.openGroups.map (Group.renumber v.offset)
    groups := l.groups.map (Group.renumber v.offset)
    pendingDestination := l.pendingDestination.map (· + v.offset)
    nextId := l.nextId + v.offset
    finished := l.finished.map (FinishedPage.renumber v.offset) }

/-- The setting with other files. -/
def Setting.vary (s : Setting) : Setting := { s with files := v.files s.files }

@[simp] theorem Setting.data_vary (s : Setting) : (s.vary v).data = s.data := rfl

/-- The session with another beginning. -/
def Session.vary (s : Session) : Session := ⟨s.layout.vary v, s.scopes, s.log ++ v.logged⟩

/-- What is logged comes after the other beginning too. -/
theorem Session.logging_vary (s : Session) (entries : List LogEntry) :
    (s.vary v).logging entries = (s.logging entries).vary v := by
  simp [logging, vary]

/-! ### References -/

namespace References

variable (r : References)

theorem set_vary (m : Marker) :
    (r.vary v).set (m.renumber v.offset) = (r.set m).vary v := by
  simp only [vary, set, insert_renumber]

theorem move_vary (name : String) (page : Nat) :
    (r.vary v).move name page = (r.move name page).vary v := by
  have hmove : ∀ m : Marker, (if m.name = name then { m with page } else m).renumber v.offset =
      if (m.renumber v.offset).name = name then { m.renumber v.offset with page }
        else m.renumber v.offset := by
    intro m
    change _ = if m.name = name then _ else _
    split <;> rfl
  simp only [vary, move, List.map_map, Function.comp_def, hmove]

theorem page_previous? (name : String) :
    (r.previous? name).map (·.page) = r.previous.bind (·.pageOf? name) := by
  cases hp : r.previous with
  | none => simp [previous?, hp]
  | some record => simp [previous?, hp, JobRecord.pageOf?]

/-- **A name refers to the page that it referred to**, whichever of the two runs it is from. -/
theorem page_resolve?_vary (name : String) :
    ((r.vary v).resolve? name).map (·.page) = (r.resolve? name).map (·.page) := by
  have hprevious : ((r.vary v).previous? name).map (·.page) = (r.previous? name).map (·.page) := by
    rw [page_previous?, page_previous?]
    exact (v.samePages r.previous).pageOf? name
  have hcurrent : (r.vary v).current? name = (r.current? name).map (Marker.renumber v.offset) :=
    find?_renumber v.offset name r.current
  rw [resolve?, resolve?, hcurrent]
  cases r.current? name with
  | none => exact hprevious
  | some m => rfl

theorem previousLastPage_vary : (r.vary v).previousLastPage = r.previousLastPage :=
  (v.samePages r.previous).lastPage

end References

/-! ### Layouts -/

namespace Layout

variable (l : Layout)

@[simp] theorem inGroup_vary : (l.vary v).inGroup = l.inGroup := by
  simp [inGroup, vary]

@[simp] theorem patterns_vary : (l.vary v).patterns = l.patterns := rfl

@[simp] theorem hasTarget_vary : (l.vary v).hasTarget = l.hasTarget := by
  simp [hasTarget, vary, inGroup]

@[simp] theorem currentPageNumber_vary : (l.vary v).currentPageNumber = l.currentPageNumber := by
  cases hp : l.page <;> simp [currentPageNumber, vary, hp, Page.renumber]

@[simp] theorem targetGrid?_vary : (l.vary v).targetGrid? = l.targetGrid? := by
  cases hg : l.openGroups with
  | cons group outer => simp [targetGrid?, vary, hg, Group.renumber]
  | nil => cases hp : l.page <;> simp [targetGrid?, vary, hg, hp, Page.renumber]

@[simp] theorem pageNotice_vary : (l.vary v).pageNotice = l.pageNotice := by
  cases hp : l.page <;> simp [pageNotice, vary, hp, Page.renumber]

theorem setTargetGrid_vary (grid : Grid Float) :
    (l.vary v).setTargetGrid grid = (l.setTargetGrid grid).vary v := by
  cases hg : l.openGroups with
  | cons group outer => simp [setTargetGrid, vary, hg, Group.renumber]
  | nil => cases hp : l.page <;> simp [setTargetGrid, vary, hg, hp, Page.renumber]

/-! ### Pages -/

/-- A sink that does not look at numbers takes the page that it would have taken. -/
theorem isTaken_vary {sink : PageSink} (h : sink.Blind) : (l.vary v).isTaken sink = l.isTaken sink := by
  cases hp : l.page with
  | none => simp [isTaken, vary, hp]
  | some page =>
    simpa [isTaken, vary, hp, Page.finish_renumber] using h v.offset l.finished page.finish

theorem finishPage_vary : (l.vary v).finishPage = l.finishPage.vary v := by
  cases hp : l.page <;> simp [finishPage, vary, hp, Page.finish_renumber]

theorem openPage_vary (type : PageType Float) :
    (l.vary v).openPage type = (l.openPage type).map (vary v) := by
  rw [openPage, openPage]
  change (Page.ofType (l.pageCount + 1) type l.pageSize l.gridSettings).map _ = _
  cases h : Page.ofType (l.pageCount + 1) type l.pageSize l.gridSettings with
  | error e => rfl
  | ok page =>
    have hempty : page.renumber v.offset = page := by
      rw [Page.renumber, items_of_ofType h, List.map_nil, ← items_of_ofType h]
    simp [Except.map, vary, hempty]

/-! ### Groups -/

theorem startGroup_vary (name : String) :
    (l.vary v).startGroup name = (l.startGroup name).map (vary v) := by
  rw [startGroup, startGroup, targetGrid?_vary]
  cases l.targetGrid? with
  | some grid => rfl
  | none =>
    change (Grid.forPage l.pageSize l.margins l.gridSettings).map _ =
      ((Grid.forPage l.pageSize l.margins l.gridSettings).map _).map _
    cases Grid.forPage l.pageSize l.margins l.gridSettings <;> rfl

theorem endGroup_vary : (l.vary v).endGroup.2 = l.endGroup.2.vary v := by
  cases hg : l.openGroups with
  | nil => simp [endGroup, vary, hg]
  | cons group outer =>
    have hothers : (l.groups.map (Group.renumber v.offset)).filter (·.name ≠ group.finish.name) =
        (l.groups.filter (·.name ≠ group.finish.name)).map (Group.renumber v.offset) := by
      rw [List.filter_map]
      rfl
    simp only [endGroup, vary, hg, List.map_cons, Group.finish_renumber, Group.name_renumber, hothers]

theorem group?_vary (name : String) :
    (l.vary v).group? name = (l.group? name).map (Group.renumber v.offset) := by
  rw [group?, group?, vary, List.find?_map]
  rfl

/-! ### Content -/

theorem place_vary (x y : Float) (box : ContentBox Float) :
    (l.vary v).place x y (box.renumber v.offset) = (l.place x y box).map (vary v) := by
  cases hg : l.openGroups with
  | cons group outer =>
    have hplace := group.place_renumber v.offset ⟨x, y, box, l.pendingDestination⟩
    simp [place, vary, hg, ← hplace, Placed.renumber]
  | nil =>
    cases hp : l.page with
    | none => simp [place, vary, hg, hp]
    | some page =>
      have hplace := page.place_renumber v.offset ⟨x, y, box, l.pendingDestination⟩
      cases hu : l.unplacedMarker with
      | none => simp [place, vary, hg, hp, hu, ← hplace, Placed.renumber]
      | some name =>
        simp [place, vary, hg, hp, hu, ← hplace, Placed.renumber, References.move_vary]

theorem setMarker_vary (name : String) (isTarget : Bool) (shift : Option Float) :
    ((l.vary v).setMarker name isTarget shift).2 = (l.setMarker name isTarget shift).2.vary v := by
  have hset := l.references.set_vary v ⟨name, l.currentPageNumber, l.nextId, isTarget, shift⟩
  simp only [setMarker, currentPageNumber_vary]
  simp [vary, ← hset, Marker.renumber, Nat.add_right_comm]

/-! ### Functions about the layout -/

/-- Of a marker only the page is looked at. -/
theorem pageOfMarker_eq (name : String) : l.pageOfMarker name =
    match (l.references.resolve? name).map (·.page) with
    | some page => pure (countValue page)
    | none =>
      if l.strictReferences then .fail (.unknownMarker name)
      else do
        .note (.warning s!"Marker '{name}' is not defined, rerun to resolve it")
        return .string "??" := by
  rw [pageOfMarker]
  cases l.references.resolve? name <;> rfl

theorem pageOfMarker_vary (name : String) : (l.vary v).pageOfMarker name = l.pageOfMarker name := by
  have hpage : ((l.vary v).references.resolve? name).map (·.page) =
      (l.references.resolve? name).map (·.page) :=
    l.references.page_resolve?_vary v name
  rw [pageOfMarker_eq, pageOfMarker_eq, hpage]
  rfl

theorem groupCells_vary (name : String) (part : Group Float → Option Nat)
    (h : ∀ g : Group Float, part (g.renumber v.offset) = part g) :
    (l.vary v).groupCells name part = l.groupCells name part := by
  rw [groupCells, groupCells, group?_vary]
  cases l.group? name with
  | none => rfl
  | some group => simp only [Option.map_some, h]

theorem cursorValue_vary (area : String) (part : Nat × Nat → Nat) :
    (l.vary v).cursorValue area part = l.cursorValue area part := by
  rw [cursorValue, cursorValue, targetGrid?_vary]

theorem apply_vary (d : Xml.Document) (f : LayoutFunction) (args : List Value) :
    (l.vary v).apply d f args = l.apply d f args := by
  have hlast : (l.vary v).references.previousLastPage = l.references.previousLastPage :=
    l.references.previousLastPage_vary v
  have hgroup (name : String) (part : Group Float → Option Nat)
      (h : ∀ g : Group Float, part (g.renumber v.offset) = part g) :=
    l.groupCells_vary v name part h
  unfold apply
  dsimp only
  split
  · rw [currentPageNumber_vary]
  · exact l.cursorValue_vary v _ _
  · exact l.cursorValue_vary v _ _
  · exact l.pageOfMarker_vary v _
  · rw [hlast]
    rfl
  · exact hgroup _ _ fun _ => rfl
  · exact hgroup _ _ fun _ => rfl
  · rfl
  · rfl
  · rfl

/-- **The functions about the layout have the values that they had.** -/
theorem extension_vary (d : Xml.Document) : (l.vary v).extension d = l.extension d := by
  funext name args
  simp only [extension, call, apply_vary]

end Layout

end PageGrid
