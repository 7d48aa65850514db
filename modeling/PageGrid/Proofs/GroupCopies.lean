import Mathlib.Data.List.Nodup
import PageGrid.Proofs.AlikeCommands
import PageGrid.Proofs.Destinations
import PageGrid.Proofs.Stability

/-!
# Numbers in copies of groups

Each number of a destination is handed out once and goes to one item. Still it can be in the output more
than once, since a group is kept after it is placed, and may be placed again with all the numbers in it.
This is the only way. Within one group no number is twice, and two boxes that have a number directly in
them in common are the same box. So the numbers in the output are distinct unless a box with a number
directly in it is there twice.

The invariant is about all items that there are, on pages, in open groups and in finished groups, and it
gives each number one home: either the number waits or is at the top of the items, or it is in one box. Boxes
are compared as values, since a copy of a box is nothing else than the same value in another place. The end
of a group moves the home of its numbers from the top into its new box; placing a box adds no home.

## Main definitions

* `ContentBox.destinations`, `destinationsThroughout` — the numbers directly in a box, and those of items
  at every depth;
* `boxesThroughout` — the boxes of items, at every depth;
* `Homed` — the invariant above;
* `Layout.stock` — all items of a layout.

## Main results

* `Homed.nodup_iff` — when numbers of all depths are distinct;
* `Homed.place`, `Homed.enclose`, `Homed.mark` — the steps that change homes;
* `Job.destinations_distinct_iff` — the numbers in the output of a run.
-/

namespace PageGrid

/-! ### Numbers and boxes at every depth -/

/-- The numbers of the items directly in a box. -/
def ContentBox.destinations (box : ContentBox Float) : List Nat :=
  box.items.filterMap (·.destination)

/-- The numbers of the items, at every depth. -/
def destinationsThroughout (items : List (PlacedItem Float)) : List Nat :=
  (itemsThroughout items).filterMap (·.destination)

/-- The boxes of the items, at every depth. -/
def boxesThroughout (items : List (PlacedItem Float)) : List (ContentBox Float) :=
  (itemsThroughout items).map (·.box)

variable {items items' rest : List (PlacedItem Float)} {item : PlacedItem Float}
  {box box' : ContentBox Float} {pending pending' : Option Nat} {nextId nextId' : Nat}

/-- The numbers of all depths: those at the top, and for each box those directly in it. -/
theorem destinationsThroughout_perm (items : List (PlacedItem Float)) :
    (destinationsThroughout items).Perm
      (items.filterMap (·.destination) ++
        (boxesThroughout items).flatMap ContentBox.destinations) := by
  have h := (itemsThroughout_perm items).filterMap (·.destination)
  rw [List.filterMap_append, List.filterMap_flatMap] at h
  rw [boxesThroughout, List.flatMap_map]
  exact h

theorem mem_boxesThroughout :
    box ∈ boxesThroughout items ↔
      ∃ item ∈ items, box = item.box ∨ box ∈ boxesThroughout item.box.items := by
  induction items with
  | nil => simp [boxesThroughout]
  | cons item rest ih =>
    have hcons : boxesThroughout (item :: rest) =
        item.box :: (boxesThroughout item.box.items ++ boxesThroughout rest) := by
      simp [boxesThroughout, itemsThroughout_cons, ContentBox.itemsWithin_eq]
    simp [hcons, ih, or_assoc]

theorem boxesThroughout_subset (h : items ⊆ items') : boxesThroughout items ⊆ boxesThroughout items' := by
  intro box hbox
  obtain ⟨item, hitem, hbox⟩ := mem_boxesThroughout.mp hbox
  exact mem_boxesThroughout.mpr ⟨item, h hitem, hbox⟩

/-- What is in a box is among the boxes of all depths, if the box is. -/
theorem boxesThroughout_items_subset (h : box ∈ boxesThroughout items) :
    boxesThroughout box.items ⊆ boxesThroughout items := by
  obtain ⟨item, hitem, rfl⟩ := List.mem_map.mp h
  exact List.map_subset _ (itemsThroughout_items_subset hitem)

/-! ### Homes -/

/-- Every number has one home. It waits or is at the top of the items, and then nowhere else, or it is in one
box. All numbers have been handed out. -/
structure Homed (items : List (PlacedItem Float)) (pending : Option Nat) (nextId : Nat) : Prop where
  top : (items.filterMap (·.destination) ++ pending.toList).Nodup
  inner : ∀ box ∈ boxesThroughout items, box.destinations.Nodup
  apart : ∀ box ∈ boxesThroughout items, ∀ i ∈ box.destinations,
    i ∉ items.filterMap (·.destination) ++ pending.toList
  home : ∀ box ∈ boxesThroughout items, ∀ box' ∈ boxesThroughout items,
    ∀ i ∈ box.destinations, i ∈ box'.destinations → box = box'
  top_lt : ∀ i ∈ items.filterMap (·.destination) ++ pending.toList, i < nextId
  inner_lt : ∀ box ∈ boxesThroughout items, ∀ i ∈ box.destinations, i < nextId

theorem Homed.nil (nextId : Nat) : Homed [] none nextId := by
  constructor <;> simp [boxesThroughout]

/-- **Distinct numbers.** The numbers of all depths are distinct iff no box with a number directly in it
is there twice. -/
theorem Homed.nodup_iff (h : Homed items pending nextId) :
    (destinationsThroughout items).Nodup ↔
      ((boxesThroughout items).filter fun box => !box.destinations.isEmpty).Nodup := by
  have hapart : (items.filterMap (·.destination)).Disjoint
      ((boxesThroughout items).flatMap ContentBox.destinations) := by
    intro i htop hinner
    obtain ⟨box, hbox, hi⟩ := List.mem_flatMap.mp hinner
    exact h.apart box hbox i hi (List.mem_append_left _ htop)
  rw [(destinationsThroughout_perm items).nodup_iff, List.nodup_append', List.nodup_flatMap,
    List.Nodup, List.Nodup, List.pairwise_filter]
  have hpairs : (boxesThroughout items).Pairwise (Function.onFun List.Disjoint ContentBox.destinations) ↔
      (boxesThroughout items).Pairwise fun box box' =>
        (!box.destinations.isEmpty) = true → (!box'.destinations.isEmpty) = true → box ≠ box' := by
    refine List.Pairwise.iff_of_mem fun {box box'} hbox hbox' => ⟨?_, ?_⟩
    · rintro hdisjoint hfull - rfl
      obtain ⟨i, hi⟩ := List.exists_mem_of_ne_nil _ (by simpa using hfull)
      exact hdisjoint hi hi
    · intro hne i hi hi'
      refine hne ?_ ?_ (h.home box hbox box' hbox' i hi hi')
      · simpa using List.ne_nil_of_mem hi
      · simpa using List.ne_nil_of_mem hi'
  rw [hpairs]
  exact ⟨fun hall => hall.2.1.2, fun hpairwise =>
    ⟨(List.nodup_append'.mp h.top).1, ⟨h.inner, hpairwise⟩, hapart⟩⟩

/-- Items that have no other numbers at the top, and no other boxes with numbers in them. -/
theorem Homed.mono (h : Homed items pending nextId)
    (htop : (items'.filterMap (·.destination) ++ pending'.toList).Nodup)
    (hsubset : items'.filterMap (·.destination) ++ pending'.toList ⊆
      items.filterMap (·.destination) ++ pending.toList)
    (hboxes : ∀ box ∈ boxesThroughout items', box.destinations ≠ [] → box ∈ boxesThroughout items)
    (hnext : nextId ≤ nextId') : Homed items' pending' nextId' := by
  have hold {box : ContentBox Float} (hbox : box ∈ boxesThroughout items') {i : Nat}
      (hi : i ∈ box.destinations) : box ∈ boxesThroughout items :=
    hboxes box hbox (List.ne_nil_of_mem hi)
  refine ⟨htop, fun box hbox => ?_, fun box hbox i hi hmem => ?_, fun box hbox box' hbox' i hi hi' => ?_,
    fun i hi => ?_, fun box hbox i hi => ?_⟩
  · by_cases hempty : box.destinations = []
    · rw [hempty]
      exact List.nodup_nil
    · exact h.inner box (hboxes box hbox hempty)
  · exact h.apart box (hold hbox hi) i hi (hsubset hmem)
  · exact h.home box (hold hbox hi) box' (hold hbox' hi') i hi hi'
  · exact Nat.lt_of_lt_of_le (h.top_lt i (hsubset hi)) hnext
  · exact Nat.lt_of_lt_of_le (h.inner_lt box (hold hbox hi) i hi) hnext

theorem Homed.sublist (h : Homed items pending nextId) (hsub : items'.Sublist items) :
    Homed items' pending nextId := by
  have htop := (hsub.filterMap (·.destination)).append_right pending.toList
  exact h.mono (h.top.sublist htop) htop.subset
    (fun box hbox _ => boxesThroughout_subset hsub.subset hbox) le_rfl

theorem Homed.perm (h : Homed items pending nextId) (hperm : items.Perm items') :
    Homed items' pending nextId := by
  have htop := (hperm.filterMap (·.destination)).append_right pending.toList
  exact h.mono (htop.nodup_iff.mp h.top) htop.symm.subset
    (fun box hbox _ => boxesThroughout_subset hperm.symm.subset hbox) le_rfl

/-- A number that is handed out waits, in place of the one that has waited. -/
theorem Homed.mark (h : Homed items pending nextId) : Homed items (some nextId) (nextId + 1) := by
  have hold {i : Nat} (hi : i ∈ items.filterMap (·.destination)) : i < nextId :=
    h.top_lt i (List.mem_append_left _ hi)
  have hcases {i : Nat} (hi : i ∈ items.filterMap (·.destination) ++ (some nextId).toList) :
      i ∈ items.filterMap (·.destination) ∨ i = nextId :=
    (List.mem_append.mp hi).imp_right List.mem_singleton.mp
  refine ⟨?_, h.inner, fun box hbox i hi hmem => ?_, h.home, fun i hi => ?_,
    fun box hbox i hi => Nat.lt_succ_of_lt (h.inner_lt box hbox i hi)⟩
  · refine List.nodup_append'.mpr ⟨(List.nodup_append'.mp h.top).1, List.nodup_singleton _, ?_⟩
    intro i hi hnext
    exact Nat.lt_irrefl _ (List.mem_singleton.mp hnext ▸ hold hi)
  · rcases hcases hmem with htop | rfl
    · exact h.apart box hbox i hi (List.mem_append_left _ htop)
    · exact Nat.lt_irrefl _ (h.inner_lt box hbox i hi)
  · rcases hcases hi with htop | rfl
    · exact Nat.lt_succ_of_lt (hold htop)
    · exact Nat.lt_succ_self i

/-- The number that waits goes to an item whose box is there already, or has nothing in it. -/
theorem Homed.place (h : Homed items pending nextId) (x y : Float)
    (hbox : box.items = [] ∨ box ∈ boxesThroughout items) :
    Homed (⟨x, y, box, pending⟩ :: items) none nextId := by
  have htop : ((⟨x, y, box, pending⟩ :: items : List (PlacedItem Float)).filterMap (·.destination) ++
      (none : Option Nat).toList).Perm (items.filterMap (·.destination) ++ pending.toList) := by
    cases pending with
    | none => simp
    | some i => simpa using (List.perm_append_singleton i _).symm
  refine h.mono (htop.symm.nodup_iff.mp h.top) htop.subset (fun b hb hfull => ?_) le_rfl
  obtain ⟨item, hitem, hb⟩ := mem_boxesThroughout.mp hb
  rcases List.mem_cons.mp hitem with rfl | hitem
  · rcases hbox with hempty | hbox
    · dsimp only at hb
      rw [hempty] at hb
      obtain rfl | hb := hb
      · simp [ContentBox.destinations, hempty] at hfull
      · simp [boxesThroughout] at hb
    · obtain rfl | hb := hb
      · exact hbox
      · exact boxesThroughout_items_subset hbox hb
  · exact mem_boxesThroughout.mpr ⟨item, hitem, hb⟩

/-- The items of a group go into a box of their own, and their numbers with them. -/
theorem Homed.enclose (h : Homed (box.items ++ rest) pending nextId) (x y : Float) :
    Homed (⟨x, y, box, none⟩ :: rest) pending nextId := by
  have htop : (box.items ++ rest).filterMap (·.destination) ++ pending.toList =
      box.destinations ++ (rest.filterMap (·.destination) ++ pending.toList) := by
    rw [List.filterMap_append, List.append_assoc]
    rfl
  have hrest : (⟨x, y, box, none⟩ :: rest : List (PlacedItem Float)).filterMap (·.destination) =
      rest.filterMap (·.destination) := List.filterMap_cons_none rfl
  have hnodup := List.nodup_append'.mp (htop ▸ h.top)
  have hcases {b : ContentBox Float} (hb : b ∈ boxesThroughout (⟨x, y, box, none⟩ :: rest)) :
      b = box ∨ b ∈ boxesThroughout (box.items ++ rest) := by
    obtain ⟨item, hitem, hb⟩ := mem_boxesThroughout.mp hb
    rcases List.mem_cons.mp hitem with rfl | hitem
    · exact hb.imp_right fun hb => boxesThroughout_subset (List.subset_append_left _ _) hb
    · exact .inr (mem_boxesThroughout.mpr ⟨item, List.mem_append_right _ hitem, hb⟩)
  -- a number of the new box is at the top of the items as they were, so it is in no other box
  have hnew {b : ContentBox Float} (hb : b ∈ boxesThroughout (box.items ++ rest)) {i : Nat}
      (hi : i ∈ b.destinations) : i ∉ box.destinations :=
    fun hmem => h.apart b hb i hi (htop ▸ List.mem_append_left _ hmem)
  refine ⟨?_, fun b hb => ?_, fun b hb i hi hmem => ?_, fun b hb b' hb' i hi hi' => ?_, fun i hi => ?_,
    fun b hb i hi => ?_⟩
  · rw [hrest]
    exact hnodup.2.1
  · rcases hcases hb with rfl | hb
    · exact hnodup.1
    · exact h.inner b hb
  · rw [hrest] at hmem
    rcases hcases hb with rfl | hb
    · exact hnodup.2.2 hi hmem
    · exact h.apart b hb i hi (htop ▸ List.mem_append_right _ hmem)
  · rcases hcases hb with rfl | hb
    · rcases hcases hb' with rfl | hb'
      · rfl
      · exact absurd hi (hnew hb' hi')
    · rcases hcases hb' with rfl | hb'
      · exact absurd hi' (hnew hb hi)
      · exact h.home b hb b' hb' i hi hi'
  · rw [hrest] at hi
    exact h.top_lt i (htop ▸ List.mem_append_right _ hi)
  · rcases hcases hb with rfl | hb
    · exact h.top_lt i (htop ▸ List.mem_append_left _ hi)
    · exact h.inner_lt b hb i hi

/-! ### All items of a layout -/

/-- The box of a finished group as an item without a number. -/
def Group.asItem? (g : Group Float) : Option (PlacedItem Float) := g.box?.map (⟨0, 0, ·, none⟩)

namespace Layout

variable {l l' : Layout}

/-- All items that there are: on pages, in open groups, and the boxes of finished groups. -/
def stock (l : Layout) : List (PlacedItem Float) :=
  l.pageItems ++ (l.openGroups.flatMap (·.items) ++ l.groups.filterMap Group.asItem?)

/-- Every number of the layout has one home. -/
def HasHomes (l : Layout) : Prop := Homed l.stock l.pendingDestination l.nextId

theorem hasHomes_start (pageSize : Size Float) (margins : Margins Float)
    (gridSettings : GridSettings Float) (references : References) (strictReferences : Bool)
    (nextId : Nat) :
    (start pageSize margins gridSettings references strictReferences nextId).HasHomes :=
  Homed.nil nextId

theorem mem_boxesThroughout_stock {group : Group Float} (hgroup : group ∈ l.groups)
    {box : ContentBox Float} (hbox : group.box? = some box) : box ∈ boxesThroughout l.stock := by
  refine mem_boxesThroughout.mpr ⟨⟨0, 0, box, none⟩, ?_, .inl rfl⟩
  refine List.mem_append_right _ (List.mem_append_right _ (List.mem_filterMap.mpr ⟨group, hgroup, ?_⟩))
  rw [Group.asItem?, hbox]
  rfl

theorem stock_finishPage (l : Layout) : l.finishPage.stock = l.stock := by
  rw [stock, pageItems_finishPage, openGroups_finishPage, groups_finishPage, stock]

theorem stock_setTargetGrid (l : Layout) (grid : Grid Float) : (l.setTargetGrid grid).stock = l.stock := by
  rw [setTargetGrid]
  cases hg : l.openGroups with
  | cons group outer => simp [stock, pageItems, hg]
  | nil => cases hp : l.page <;> simp [stock, pageItems, hg, hp]

/-- A box is placed on a page or in a group, with the number that waits. -/
theorem place_stock {x y : Float} {box : ContentBox Float} (h : l.place x y box = some l') :
    l'.stock.Perm (⟨x, y, box, l.pendingDestination⟩ :: l.stock) ∧ l'.pendingDestination = none ∧
      l'.nextId = l.nextId := by
  let item : PlacedItem Float := ⟨x, y, box, l.pendingDestination⟩
  have hmiddle (before after : List (PlacedItem Float)) :
      (before ++ ([item] ++ after)).Perm (item :: (before ++ after)) := List.perm_middle
  rw [place] at h
  dsimp only at h
  split at h
  · next group outer hg =>
    cases h
    refine ⟨?_, rfl, rfl⟩
    have hplaced := hmiddle (l.pageItems ++ group.items)
      (outer.flatMap (·.items) ++ l.groups.filterMap Group.asItem?)
    simpa only [stock, pageItems, hg, Group.place, List.flatMap_cons, List.append_assoc] using hplaced
  · next page hg hp =>
    cases h
    refine ⟨?_, rfl, rfl⟩
    have hplaced := hmiddle (l.finished.flatMap (·.items) ++ page.items)
      (l.openGroups.flatMap (·.items) ++ l.groups.filterMap Group.asItem?)
    simpa only [stock, pageItems, hg, hp, Page.place, Option.toList_some, List.flatMap_singleton,
      List.append_assoc] using hplaced
  · cases h

/-- The end of a group takes its items from the top into a box. -/
theorem HasHomes.endGroup (h : l.HasHomes) : l.endGroup.2.HasHomes := by
  rw [Layout.endGroup]
  cases hg : l.openGroups with
  | nil => exact h
  | cons group outer =>
    let box : ContentBox Float := .group (Group.contentSize group.items) group.name group.items
    have hopen : Homed (box.items ++ (l.pageItems ++ (outer.flatMap (·.items) ++
        l.groups.filterMap Group.asItem?))) l.pendingDestination l.nextId := by
      refine Homed.perm h ?_
      rw [stock, hg, List.flatMap_cons, List.append_assoc]
      exact List.perm_append_comm_assoc _ _ _
    have hkept : ((l.groups.filter (·.name ≠ group.name)).filterMap Group.asItem?).Sublist
        (l.groups.filterMap Group.asItem?) := List.filter_sublist.filterMap _
    refine Homed.perm ((Homed.enclose hopen 0 0).sublist
      (((hkept.append_left _).append_left _).cons_cons _)) ?_
    rw [stock, ← List.append_assoc, ← List.append_assoc]
    exact List.perm_middle.symm

instance : KeptByCommands HasHomes where
  creating _ h := h
  openPage {l l' type} h ho := by
    obtain ⟨page, hpage, rfl⟩ := openPage_eq_ok.mp ho
    refine Homed.sublist h ?_
    -- a page that is open would be dropped with its items
    simp only [stock, pageItems, items_of_ofType hpage, Option.toList_some, List.flatMap_singleton,
      List.append_nil]
    exact (List.sublist_append_left _ _).append_right _
  finishPage {l} h := by
    rw [HasHomes, stock_finishPage, pendingDestination_finishPage, nextId_finishPage]
    exact h
  setTargetGrid {l} grid h := by
    have hslots : (l.setTargetGrid grid).pendingDestination = l.pendingDestination ∧
        (l.setTargetGrid grid).nextId = l.nextId := by
      rw [Layout.setTargetGrid]
      split <;> exact ⟨rfl, rfl⟩
    rw [HasHomes, stock_setTargetGrid, hslots.1, hslots.2]
    exact h
  setGrid _ h := h
  register _ h := h
  record _ h := h
  setMarker _ _ _ h := Homed.mark h
  startGroup {l l' name} h hs := by
    obtain ⟨grid, rfl⟩ := startGroup_eq_ok hs
    exact h
  endGroup h := h.endGroup
  place {l l' x y box} h hbox hplace := by
    obtain ⟨hperm, hpending, hnext⟩ := place_stock hplace
    rw [HasHomes, hpending, hnext]
    refine Homed.perm (Homed.place h x y ?_) hperm.symm
    refine hbox.imp_right ?_
    rintro ⟨group, hgroup, hbox⟩
    exact mem_boxesThroughout_stock hgroup hbox

end Layout

/-! ### The output of a run -/

namespace Job

variable {job : Job} {files : FileTree} {depth nextId : Nat} {layout data : String}
  {sink : PageSink} {summary : RunSummary}

/-- A run that succeeds ends with a layout whose numbers have homes, and hands out its pages. -/
theorem hasHomes_of_runWithin
    (hresult : (job.runWithin depth files nextId layout data sink).result = .ok summary) :
    ∃ l : Layout, l.HasHomes ∧ (job.runWithin depth files nextId layout data sink).pages = l.finished := by
  obtain ⟨rules, document, s, t, hcompletes⟩ := runWithin_eq_ok hresult
  have hstart : s.layout.HasHomes := by
    obtain ⟨previous, -, -, hs⟩ := hcompletes.begins
    rw [hs]
    exact Layout.hasHomes_start _ _ _ _ _ _
  have hsame : rules.Alike rules := rfl
  obtain ⟨hhomes, -⟩ := same_program (Nat.le_refl depth) hsame document.root.name hstart
    (refl_of Session.Alike s) hcompletes.runWith
  obtain ⟨-, hpages⟩ := closing_runWithin hcompletes.begins depth sink
  rw [hcompletes.runWith] at hpages
  exact ⟨t.layout, hhomes, hpages⟩

/-- **Distinct numbers in the output.** In the pages of a run that succeeds, no number of a destination
occurs twice, counted at every depth, iff no box of a group that has an item with a number directly in it
occurs twice. -/
theorem destinations_distinct_iff (depth : Nat) (job : Job) (files : FileTree) (nextId : Nat)
    (layout data : String) (sink : PageSink) (summary : RunSummary)
    (hresult : (job.runWithin depth files nextId layout data sink).result = .ok summary) :
    let items := (job.runWithin depth files nextId layout data sink).pages.flatMap (·.items)
    (destinationsThroughout items).Nodup ↔
      ((boxesThroughout items).filter fun box => !box.destinations.isEmpty).Nodup := by
  intro items
  obtain ⟨l, hhomes, hpages⟩ := hasHomes_of_runWithin hresult
  refine Homed.nodup_iff (Homed.sublist hhomes ?_)
  rw [show items = _ from congrArg (List.flatMap (·.items)) hpages, Layout.stock, Layout.pageItems,
    List.append_assoc]
  exact List.sublist_append_left _ _

/-- Rules that place a group with a marked object in it, some number of times. -/
def groupPlaced (times : Nat) : String :=
  "<Record element='data'><Mark select=\"'a'\"/><Group name='g'><Contents>" ++
    "<PlaceObject><Box width='1' height='1'/></PlaceObject></Contents></Group>" ++
    String.join (List.replicate times "<PlaceObject groupname='g'/>") ++ "</Record>"

/-- The items on the pages of a run with these rules. -/
def itemsOfGroupPlaced (times : Nat) : List (PlacedItem Float) :=
  ((Launch.plain true (groupPlaced times)).outcome 6 ⟨[], []⟩).pages.flatMap (·.items)

/-- The marker of the object, on the first page. -/
def markedInGroup : RunSummary := ⟨[⟨"a", 1, 7, false, none⟩], 1⟩

theorem destinations_distinct_iff_groupPlaced :
    ((Launch.plain true (groupPlaced 1)).outcome 6 ⟨[], []⟩).result = .ok markedInGroup ∧
      7 ∈ destinationsThroughout (itemsOfGroupPlaced 1) ∧
      (destinationsThroughout (itemsOfGroupPlaced 1)).Nodup := by
  obtain ⟨hsucceeds, hmem, hboxes⟩ :
      ((Launch.plain true (groupPlaced 1)).outcome 6 ⟨[], []⟩).result.toOption = some markedInGroup ∧
        7 ∈ destinationsThroughout (itemsOfGroupPlaced 1) ∧
        ((boxesThroughout (itemsOfGroupPlaced 1)).filter
          fun box => !box.destinations.isEmpty).length = 1 := by
    decide +kernel
  have hresult : ((Launch.plain true (groupPlaced 1)).outcome 6 ⟨[], []⟩).result = .ok markedInGroup :=
    Action.eq_ok_of_toOption hsucceeds
  obtain ⟨box, hbox⟩ := List.length_eq_one_iff.mp hboxes
  refine ⟨hresult, hmem, (destinations_distinct_iff 6 _ _ _ _ _ _ _ hresult).mpr ?_⟩
  exact (congrArg List.Nodup hbox).mpr (List.nodup_singleton box)

/-- **A number that is there twice.** A group that is placed twice takes the number in it to either place. -/
theorem number_in_two_copies :
    ¬ ∀ (depth : Nat) (job : Job) (files : FileTree) (nextId : Nat) (layout data : String)
        (summary : RunSummary), (job.runWithin depth files nextId layout data).result = .ok summary →
      (destinationsThroughout
        ((job.runWithin depth files nextId layout data).pages.flatMap (·.items))).Nodup := by
  intro h
  obtain ⟨hsucceeds, htwice⟩ :
      ((Launch.plain true (groupPlaced 2)).outcome 6 ⟨[], []⟩).result.toOption = some markedInGroup ∧
        destinationsThroughout (itemsOfGroupPlaced 2) = [7, 7] := by
    decide +kernel
  have hresult : ((Launch.plain true (groupPlaced 2)).outcome 6 ⟨[], []⟩).result = .ok markedInGroup :=
    Action.eq_ok_of_toOption hsucceeds
  have hnodup : (destinationsThroughout (itemsOfGroupPlaced 2)).Nodup := h 6 _ _ _ _ _ _ hresult
  rw [htwice] at hnodup
  exact absurd hnodup (by decide)

end Job

end PageGrid
