import PageGrid.Proofs.Destinations
import PageGrid.Proofs.NestedItems

/-!
# Markers of objects in groups

The number of a marker and its page take different ways to an object in a group. The number goes with
the object into the group and comes to a page with it. The page, if none is open when the marker is
set, is found when the next object comes to a page, whatever object that is. So the marker ends on the
page of its object only if no other object comes to a page while the group waits.

What settles the page of a marker can be read off the history: the first call after the marker that
places an object on a page or sets another marker. Other calls neither read nor change the slot of the
name that waits.

## Main definitions

* `Operation.sets?`, `Call.landsOn?` — the marker that an operation sets, and the page on which a call
  has placed an object;
* `Layout.settledPage?` — the page that a history gives to the marker that waits.

## Main results

* `page_of_waiting` — the page of a marker whose page is not known when it is set;
* `page_of_grouped_marker` — the same, when the box of a group comes to a page;
* `grouped_marker_on_earlier_page` — a marker that is not on the page of its object.
-/

namespace PageGrid

/-- The name of the marker that the operation sets. -/
def Operation.sets? : Operation → Option String
  | .setMarker name _ _ => some name
  | _ => none

/-- The number of the page on which the call has placed an item. -/
def Call.landsOn? (c : Call) : Option Nat :=
  if c.before.inGroup then none else c.item?.bind fun _ => c.before.page.map (·.number)

namespace Layout

variable {l : Layout} {name : String}

/-- The page at which a marker stays whose page was not known: that of the first object that comes to a
page, or `page`, where the marker was set, if another marker is set before that. There is none as long
as neither happens. -/
def settledPage? (page : Nat) (l : Layout) (ops : List Operation) : Option Nat :=
  ((l.calls ops).find? fun c => c.landsOn?.isSome || c.marker?.isSome).map (·.landsOn?.getD page)

theorem settledPage?_cons (page : Nat) (l : Layout) (op : Operation) (ops : List Operation) :
    settledPage? page l (op :: ops) =
      if (Call.landsOn? ⟨l, op⟩).isSome || (Call.marker? ⟨l, op⟩).isSome then
        some ((Call.landsOn? ⟨l, op⟩).getD page)
      else settledPage? page (l.perform op) ops := by
  rw [settledPage?, calls, List.find?_cons]
  split <;> next h => simp [h, settledPage?]

theorem settledPage?_append (page : Nat) (l : Layout) (ops later : List Operation) :
    settledPage? page l (ops ++ later) =
      (settledPage? page l ops).or (settledPage? page (l.run ops) later) := by
  rw [settledPage?, calls_append, List.find?_append]
  exact Option.map_or

/-! ### The slot of the name that waits -/

/-- What a call does to the markers and to the name that waits. -/
inductive MarkerStep (l : Layout) (op : Operation) (l' : Layout) : Prop
  | kept : Call.landsOn? ⟨l, op⟩ = none → Call.marker? ⟨l, op⟩ = none →
      l'.references = l.references → l'.unplacedMarker = l.unplacedMarker → MarkerStep l op l'
  | landed {number : Nat} : Call.landsOn? ⟨l, op⟩ = some number →
      l'.references = l.referencesAt number → l'.unplacedMarker = none → MarkerStep l op l'
  | set {other : String} : op.sets? = some other → Call.landsOn? ⟨l, op⟩ = none →
      (Call.marker? ⟨l, op⟩).isSome = true →
      (∀ name, name ≠ other → l'.references.current? name = l.references.current? name) →
      (∀ name, l'.unplacedMarker = some name → name = other) → MarkerStep l op l'

theorem landsOn?_of_item? {op : Operation} (h : Call.item? ⟨l, op⟩ = none) :
    Call.landsOn? ⟨l, op⟩ = none := by
  simp [Call.landsOn?, h]

theorem markerStep (l : Layout) (op : Operation) : MarkerStep l op (l.perform op) := by
  have h := outcome l op
  generalize l.perform op = l' at h ⊢
  cases h with
  | nothing hs => exact .kept (landsOn?_of_item? hs.item?) hs.marker? rfl rfl
  | finished hs =>
    exact .kept (landsOn?_of_item? hs.item?) hs.marker? references_finishPage
      unplacedMarker_finishPage
  | opened =>
    exact .kept (landsOn?_of_item? rfl) rfl references_finishPage unplacedMarker_finishPage
  | started | ended => exact .kept (landsOn?_of_item? rfl) rfl rfl rfl
  | placedInGroup hg _ => exact .kept (by simp [Call.landsOn?, inGroup, hg]) rfl rfl rfl
  | placedOnPage hg hp hitem =>
    exact .landed (by simp [Call.landsOn?, inGroup, hg, hp, hitem]) rfl rfl
  | marked other isTarget shift =>
    refine .set rfl (landsOn?_of_item? rfl) rfl (fun name hne => ?_) fun name hname => ?_
    · exact (References.current?_set _ _ _).trans (if_neg (Ne.symm hne))
    · change (if l.page.isNone then some other else none) = some name at hname
      split at hname
      · exact (Option.some.inj hname).symm
      · cases hname

/-- A marker whose page is settled stays where it is until it is set again. -/
theorem current?_run_of_settled (hw : l.unplacedMarker ≠ some name) {ops : List Operation}
    (hops : ∀ op ∈ ops, op.sets? ≠ some name) :
    (l.run ops).references.current? name = l.references.current? name := by
  induction ops generalizing l with
  | nil => rfl
  | cons op ops ih =>
    rw [List.forall_mem_cons] at hops
    obtain ⟨hop, hops⟩ := hops
    rw [run_cons]
    cases markerStep l op with
    | kept _ _ hr hu => rw [ih (hu ▸ hw) hops, hr]
    | landed _ hr hu =>
      rw [ih (by simp [hu]) hops, hr, referencesAt]
      split
      · next moved hmoved =>
        have hne : name ≠ moved := fun h => hw (h ▸ hmoved)
        simp [References.current?_move, hne]
      · rfl
    | set hset _ _ hr hu =>
      have hne (other : String) (h : op.sets? = some other) : name ≠ other := fun he => hop (he ▸ h)
      rw [ih (fun h => hne _ hset (hu name h)) hops, hr name (hne _ hset)]

/-- **The page of a marker that waits.** As long as the marker is not set again, it is on the page that
the history gives it, and until then where it was set. -/
theorem page_of_waiting {m : Marker} (hw : l.unplacedMarker = some name)
    (hm : l.references.current? name = some m) {ops : List Operation}
    (hops : ∀ op ∈ ops, op.sets? ≠ some name) :
    (l.run ops).references.current? name =
      some { m with page := (settledPage? m.page l ops).getD m.page } := by
  induction ops generalizing l with
  | nil => exact hm
  | cons op ops ih =>
    have hlater := (List.forall_mem_cons.mp hops).2
    rw [run_cons, settledPage?_cons]
    cases markerStep l op with
    | kept hlands hmarker hr hu =>
      rw [ih (hu.trans hw) (hr ▸ hm) hlater, hlands, hmarker]
      rfl
    | landed hlands hr hu =>
      rw [current?_run_of_settled (by simp [hu]) hlater, hr, referencesAt, hw, hlands,
        References.current?_move, hm]
      simp
    | set hset hlands hmarker hr hu =>
      have hne (other : String) (h : op.sets? = some other) : name ≠ other :=
        fun he => (List.forall_mem_cons.mp hops).1 (he ▸ h)
      rw [current?_run_of_settled (fun h => hne _ hset (hu name h)) hlater, hr name (hne _ hset), hm,
        hlands, hmarker]
      simp

/-! ### Pages keep their items -/

/-- A page that is open or finished stays so, and keeps its items. -/
theorem pages_perform (l : Layout) (op : Operation) {page : FinishedPage Float}
    (h : page ∈ l.pages) :
    ∃ page' ∈ (l.perform op).pages, page'.number = page.number ∧ page.items <+: page'.items := by
  have hsame {l' : Layout} (hpages : l'.pages = l.pages) :
      ∃ page' ∈ l'.pages, page'.number = page.number ∧ page.items <+: page'.items :=
    ⟨page, hpages ▸ h, rfl, List.prefix_rfl⟩
  have ho := outcome l op
  generalize l.perform op = l' at ho ⊢
  cases ho with
  | nothing => exact hsame rfl
  | finished => exact hsame (pages_finishPage l)
  | opened =>
    refine ⟨page, ?_, rfl, List.prefix_rfl⟩
    rw [pages_of_page rfl]
    exact List.mem_append_left _ h
  | started | ended | placedInGroup | marked => exact hsame (pages_congr rfl rfl)
  | @placedOnPage opened x y box _ hp =>
    rw [pages_of_page rfl]
    rw [pages_of_page hp] at h
    rcases List.mem_append.mp h with h | h
    · exact ⟨page, List.mem_append_left _ h, rfl, List.prefix_rfl⟩
    · obtain rfl := List.mem_singleton.mp h
      exact ⟨_, List.mem_append_right _ (.head _), rfl, List.prefix_append _ _⟩

theorem pages_run (ops : List Operation) {page : FinishedPage Float} (h : page ∈ l.pages) :
    ∃ page' ∈ (l.run ops).pages, page'.number = page.number ∧ page.items <+: page'.items := by
  induction ops generalizing l page with
  | nil => exact ⟨page, h, rfl, List.prefix_rfl⟩
  | cons op ops ih =>
    obtain ⟨next, hnext, hnumber, hitems⟩ := pages_perform l op h
    obtain ⟨last, hlast, hnumber', hitems'⟩ := ih hnext
    exact ⟨last, hlast, hnumber'.trans hnumber, hitems.trans hitems'⟩

/-- A call that places a box on a page leaves the page with the box. -/
theorem exists_item_of_landsOn? {x y : Float} {box : ContentBox Float} {number : Nat}
    (h : Call.landsOn? ⟨l, .place x y box⟩ = some number) :
    ∃ page ∈ (l.perform (.place x y box)).pages, page.number = number ∧
      ∃ item ∈ page.items, item.box = box := by
  have ho := outcome l (.place x y box)
  generalize l.perform (.place x y box) = l' at ho ⊢
  cases ho with
  | nothing hs | finished hs => cases (landsOn?_of_item? hs.item?).symm.trans h
  | placedInGroup hg => simp [Call.landsOn?, inGroup, hg] at h
  | placedOnPage hg hp hitem =>
    obtain rfl : _ = number := by simpa [Call.landsOn?, inGroup, hg, hp, hitem] using h
    refine ⟨_, by rw [pages_of_page rfl]; exact List.mem_append_right _ (.head _), rfl, ?_⟩
    exact ⟨_, List.mem_append_right _ (.head _), rfl⟩

/-! ### When a group comes to a page -/

/-- **The page of a marker in a group.** A marker is set while no page is open, and not again. Some time
later a box is placed on a page, in particular that of a group with the object of the marker at any
depth in it, and there it stays. The marker keeps its number, and it is on the page of the box unless in
between an object has come to a page or another marker has been set. The first of these has settled its
page: on the page of that object, or where the marker was set. -/
theorem page_of_grouped_marker (l : Layout) (name : String) (isTarget : Bool) (shift : Option Float)
    (inside later : List Operation) (x y : Float) (box : ContentBox Float) (number : Nat)
    (hp : l.page = none) (hops : ∀ op ∈ inside ++ later, op.sets? ≠ some name)
    (hlands : Call.landsOn? ⟨(l.setMarker name isTarget shift).2.run inside, .place x y box⟩ =
      some number) :
    let marked := (l.setMarker name isTarget shift).2
    let last := marked.run (inside ++ .place x y box :: later)
    last.references.current? name =
        some ⟨name, (settledPage? l.currentPageNumber marked inside).getD number, l.nextId, isTarget,
          shift⟩ ∧
      ∃ page ∈ last.pages, page.number = number ∧ ∃ item ∈ page.items, item.box = box := by
  intro marked last
  have hw : marked.unplacedMarker = some name := by
    change (if l.page.isNone then some name else none) = some name
    simp [hp]
  have hm : marked.references.current? name =
      some ⟨name, l.currentPageNumber, l.nextId, isTarget, shift⟩ :=
    (References.current?_set _ _ _).trans (if_pos rfl)
  have hall : ∀ op ∈ inside ++ .place x y box :: later, op.sets? ≠ some name := by
    intro op hop
    rw [List.mem_append, List.mem_cons] at hop
    rcases hop with hop | rfl | hop
    · exact hops op (List.mem_append_left _ hop)
    · exact nofun
    · exact hops op (List.mem_append_right _ hop)
  have hsettled : settledPage? l.currentPageNumber marked (inside ++ .place x y box :: later) =
      some ((settledPage? l.currentPageNumber marked inside).getD number) := by
    rw [settledPage?_append, settledPage?_cons, show Call.landsOn? _ = some number from hlands]
    cases settledPage? l.currentPageNumber marked inside <;> rfl
  constructor
  · rw [page_of_waiting hw hm hall, hsettled]
    rfl
  · obtain ⟨page, hpage, hnumber, item, hitem, hbox⟩ := exists_item_of_landsOn? hlands
    obtain ⟨page', hpage', hnumber', hitems⟩ := pages_run later hpage
    refine ⟨page', ?_, hnumber'.trans hnumber, item, hitems.mem hitem, hbox⟩
    rwa [show last = _ from run_append marked inside _, run_cons]

/-- A group with one object, begun and ended while no page is open, and two pages after it. -/
def groupBeforePages : List Operation :=
  [.startGroup "g", .place 0 0 cellBox, .endGroup, .installPage (framedType 10),
    .installPage (framedType 10)]

/-- The same with another object on the first page. -/
def groupBeforeObject : List Operation :=
  [.startGroup "g", .place 0 0 cellBox, .endGroup, .installPage (framedType 10),
    .place 10 10 cellBox, .installPage (framedType 10)]

/-- The layout at its start, with a marker. -/
def oneMarker : Layout := (tenByTen.setMarker "a" true none).2

theorem page_of_grouped_marker_tenByTen :
    let box : ContentBox Float := .group ⟨10, 10⟩ "g" [⟨0, 0, cellBox, some 1⟩]
    let last (inside : List Operation) := oneMarker.run (inside ++ [.place 10 10 box])
    tenByTen.page = none ∧ (∀ op ∈ groupBeforePages, op.sets? ≠ some "a") ∧
      (∀ op ∈ groupBeforeObject, op.sets? ≠ some "a") ∧
      Call.landsOn? ⟨oneMarker.run groupBeforePages, .place 10 10 box⟩ = some 2 ∧
      Call.landsOn? ⟨oneMarker.run groupBeforeObject, .place 10 10 box⟩ = some 2 ∧
      ((last groupBeforePages).references.current? "a").map (·.page) = some 2 ∧
      ((last groupBeforeObject).references.current? "a").map (·.page) = some 1 := by
  intro box last
  have hops : ∀ op ∈ groupBeforePages ++ [], op.sets? ≠ some "a" := by decide
  have hops' : ∀ op ∈ groupBeforeObject ++ [], op.sets? ≠ some "a" := by decide
  have hlands : Call.landsOn? ⟨oneMarker.run groupBeforePages, .place 10 10 box⟩ = some 2 := by
    decide +kernel
  have hlands' : Call.landsOn? ⟨oneMarker.run groupBeforeObject, .place 10 10 box⟩ = some 2 := by
    decide +kernel
  have hopen : settledPage? 1 oneMarker groupBeforePages = none := by decide +kernel
  have hsettled : settledPage? 1 oneMarker groupBeforeObject = some 1 := by decide +kernel
  have hpage := (page_of_grouped_marker tenByTen "a" true none groupBeforePages [] 10 10 box 2 rfl
    hops hlands).1
  have hpage' := (page_of_grouped_marker tenByTen "a" true none groupBeforeObject [] 10 10 box 2 rfl
    hops' hlands').1
  rw [show (tenByTen.setMarker "a" true none).2 = oneMarker from rfl,
    show tenByTen.currentPageNumber = 1 from rfl] at hpage hpage'
  rw [hopen] at hpage
  rw [hsettled] at hpage'
  refine ⟨rfl, hops, hops', hlands, hlands', ?_, ?_⟩
  · rw [show last groupBeforePages = oneMarker.run (groupBeforePages ++ [.place 10 10 box]) from rfl,
      hpage]
    rfl
  · rw [show last groupBeforeObject = oneMarker.run (groupBeforeObject ++ [.place 10 10 box]) from rfl,
      hpage']
    rfl

/-- The box of the group that waits while the other object is placed. -/
def waitingBox? : Option (ContentBox Float) :=
  ((oneMarker.run groupBeforeObject).group? "g").bind Group.box?

theorem isSome_waitingBox? : waitingBox?.isSome = true := by decide +kernel

/-- **Too early a page.** The marker of an object in a group need not be on the page on which the group
is placed, though it is not set again and its object has not been on a page before. -/
theorem grouped_marker_on_earlier_page :
    ¬ ∀ (before inside later : List Operation) (name : String) (isTarget : Bool)
        (shift : Option Float) (x y : Float) (group : Group Float) (box : ContentBox Float)
        (number : Nat),
      let marked := (tenByTen.run before).setMarker name isTarget shift
      (tenByTen.run before).page = none → (∀ op ∈ inside ++ later, op.sets? ≠ some name) →
      -- the object is in a finished group, and has not been on a page
      group ∈ (marked.2.run inside).groups → group.box? = some box →
      marked.1 ∈ box.itemsWithin.filterMap (·.destination) →
      (∀ item ∈ itemsThroughout (marked.2.run inside).pageItems, item.destination ≠ some marked.1) →
      Call.landsOn? ⟨marked.2.run inside, .place x y box⟩ = some number →
        ((marked.2.run (inside ++ .place x y box :: later)).references.current? name).map (·.page) =
          some number := by
  intro h
  obtain ⟨group, hgroup, hbox⟩ :=
    Option.bind_eq_some_iff.mp (Option.some_get isSome_waitingBox?).symm
  have hmem : group ∈ (oneMarker.run groupBeforeObject).groups := by
    rw [group?] at hgroup
    exact List.mem_of_find?_eq_some hgroup
  have hpage := h [] groupBeforeObject [] "a" true none 10 10 group
    (waitingBox?.get isSome_waitingBox?) 2 rfl (by decide)
  rw [show ((tenByTen.run []).setMarker "a" true none).2 = oneMarker from rfl] at hpage
  replace hpage := hpage hmem hbox (by decide +kernel) (by decide +kernel) (by decide +kernel)
  revert hpage
  decide +kernel

end Layout

end PageGrid
