import PageGrid.Proofs.Effect
import PageGrid.Proofs.Inventory

/-!
# Markers and their destinations

A marker is set before the object that it points to, so its number waits in a slot until an object
takes it along. The slot has room for one number, and that decides which markers get a destination:
the object placed next takes the number of the marker set last, and a marker that another one follows
before that stays without.

If no page is open, the page of the object is not known either, and a second slot keeps the name of
the marker until an object comes to a page. The two slots are filled together but emptied by different
events: an object in a group empties only the first one. What ties them to the table of markers is
`Aligned`: a number that waits belongs to the name that waits, unless its page is known, and a name
that waits belongs to no number that an object on a page carries. So correcting the page of a name
never takes a marker away from its object.

## Main definitions

* `Layout.destinations` — the numbers that the objects of a run carry;
* `Layout.nextPlaced?` — the next object, if no marker is set before it;
* `Layout.unpagedMarkers` — the markers set while no page is open;
* `Layout.Aligned` — the invariant above.

## Main results

* `nodup_destinations` — no number is carried twice;
* `items_of_marker` — the objects that carry the number of a marker;
* `destination_on_page` — the page of a marker and the page of the object that carries its number.
-/

namespace PageGrid

/-! ### The table of markers -/

namespace References

variable {r : References} {name : String}

theorem find?_insert (m : Marker) (ms : List Marker) (name : String) :
    (insert m ms).find? (·.name = name) =
      if m.name = name then some m else ms.find? (·.name = name) := by
  induction ms with
  | nil => by_cases h : m.name = name <;> simp [insert, h]
  | cons n ns ih =>
    by_cases hlt : m.name < n.name
    · have hfirst : insert m (n :: ns) = m :: n :: ns := by simp [insert, hlt]
      by_cases h : m.name = name <;> simp [hfirst, h]
    · by_cases hsame : m.name = n.name
      · have hreplaced : insert m (n :: ns) = m :: ns := by simp [insert, hsame]
        by_cases h : m.name = name
        · simp [hreplaced, h]
        · have hn : n.name ≠ name := hsame ▸ h
          simp [hreplaced, h, hn]
      · have hlater : insert m (n :: ns) = n :: insert m ns := by simp [insert, hlt, hsame]
        by_cases hn : n.name = name
        · have h : m.name ≠ name := fun h => hsame (h.trans hn.symm)
          simp [hlater, hn, h]
        · simp [hlater, hn, ih]

theorem current?_set (r : References) (m : Marker) (name : String) :
    (r.set m).current? name = if m.name = name then some m else r.current? name :=
  find?_insert m r.current name

theorem current?_move (r : References) (moved name : String) (page : Nat) :
    (r.move moved page).current? name =
      (r.current? name).map fun m => if name = moved then { m with page } else m := by
  have hname (m : Marker) : (if m.name = moved then { m with page } else m).name = m.name := by
    split <;> rfl
  simp only [current?, move, List.find?_map, Function.comp_def, hname]
  cases hfind : r.current.find? (·.name = name) with
  | none => rfl
  | some m =>
    have hm : m.name = name := by simpa using List.find?_some hfind
    simp [hm]

end References

namespace Layout

variable {l : Layout}

/-- The numbers that the items of a run carry. -/
def destinations (l : Layout) (ops : List Operation) : List Nat :=
  (l.placed ops).filterMap (·.destination)

/-- The next item that is placed, if no marker is set before it. -/
def nextPlaced? (l : Layout) (ops : List Operation) : Option (PlacedItem Float) :=
  ((l.calls ops).find? fun c => c.item?.isSome || c.marker?.isSome).bind Call.item?

/-- The markers that a run sets while no page is open. -/
def unpagedMarkers (l : Layout) (ops : List Operation) : List Nat :=
  (l.calls ops).filterMap fun c => if c.before.page.isNone then c.marker? else none

/-! ### The slot of the number that waits -/

/-- What a call does to the number that waits. -/
inductive PendingStep (l : Layout) (op : Operation) (l' : Layout) : Prop
  | kept : Call.item? ⟨l, op⟩ = none → Call.marker? ⟨l, op⟩ = none →
      l'.pendingDestination = l.pendingDestination → l'.nextId = l.nextId → PendingStep l op l'
  | taken {item : PlacedItem Float} : Call.item? ⟨l, op⟩ = some item →
      item.destination = l.pendingDestination → Call.marker? ⟨l, op⟩ = none →
        l'.pendingDestination = none → l'.nextId = l.nextId → PendingStep l op l'
  | set : Call.item? ⟨l, op⟩ = none → Call.marker? ⟨l, op⟩ = some l.nextId →
      l'.pendingDestination = some l.nextId → l'.nextId = l.nextId + 1 → PendingStep l op l'

@[simp] theorem pendingDestination_finishPage :
    l.finishPage.pendingDestination = l.pendingDestination := by
  rw [finishPage]
  split <;> rfl

@[simp] theorem unplacedMarker_finishPage : l.finishPage.unplacedMarker = l.unplacedMarker := by
  rw [finishPage]
  split <;> rfl

@[simp] theorem nextId_finishPage : l.finishPage.nextId = l.nextId := by
  rw [finishPage]
  split <;> rfl

@[simp] theorem references_finishPage : l.finishPage.references = l.references := by
  rw [finishPage]
  split <;> rfl

theorem pendingStep (l : Layout) (op : Operation) : PendingStep l op (l.perform op) := by
  have h := outcome l op
  generalize l.perform op = l' at h ⊢
  cases h with
  | nothing hs => exact .kept hs.item? hs.marker? rfl rfl
  | finished hs => exact .kept hs.item? hs.marker? pendingDestination_finishPage nextId_finishPage
  | opened => exact .kept rfl rfl pendingDestination_finishPage nextId_finishPage
  | started | ended => exact .kept rfl rfl rfl rfl
  | placedInGroup _ hitem => exact .taken hitem rfl rfl rfl rfl
  | placedOnPage _ _ hitem => exact .taken hitem rfl rfl rfl rfl
  | marked => exact .set rfl rfl rfl rfl

theorem placed_cons (l : Layout) (op : Operation) (ops : List Operation) :
    l.placed (op :: ops) = (Call.item? ⟨l, op⟩).toList ++ (l.perform op).placed ops := by
  cases h : Call.item? ⟨l, op⟩ <;> simp [placed, calls, h]

theorem destinations_cons (l : Layout) (op : Operation) (ops : List Operation) :
    l.destinations (op :: ops) =
      ((Call.item? ⟨l, op⟩).bind (·.destination)).toList ++ (l.perform op).destinations ops := by
  rw [destinations, placed_cons, List.filterMap_append]
  cases h : Call.item? ⟨l, op⟩ with
  | none => rfl
  | some item => cases hd : item.destination <;> simp [hd, destinations]

/-- A number that is carried waits already or is not given yet. -/
theorem eq_or_le_of_mem_destinations (l : Layout) (ops : List Operation) :
    ∀ d ∈ l.destinations ops, l.pendingDestination = some d ∨ l.nextId ≤ d := by
  induction ops generalizing l with
  | nil => simp [destinations, placed, calls]
  | cons op ops ih =>
    intro d hd
    have hlater := ih (l.perform op) d
    rw [destinations_cons, List.mem_append] at hd
    cases pendingStep l op with
    | kept hitem _ hp hn =>
      rw [hp, hn] at hlater
      exact hlater (by simpa [hitem] using hd)
    | taken hitem hdest _ hp hn =>
      simp only [hp, hn, reduceCtorEq, false_or] at hlater
      rcases hd with hd | hd
      · exact .inl (by simpa [hitem, hdest] using hd)
      · exact .inr (hlater hd)
    | set hitem _ hp hn =>
      simp only [hp, hn, Option.some.injEq] at hlater
      have := hlater (by simpa [hitem] using hd)
      exact .inr (by omega)

/-- The number that waits is one that has been given. -/
def PendingGiven (l : Layout) : Prop := ∀ d, l.pendingDestination = some d → d < l.nextId

theorem PendingGiven.perform (h : l.PendingGiven) (op : Operation) : (l.perform op).PendingGiven := by
  intro d hd
  cases pendingStep l op with
  | kept _ _ hp hn => exact hn ▸ h d (hp ▸ hd)
  | taken _ _ _ hp => simp [hp] at hd
  | set _ _ hp hn =>
    rw [hp, Option.some.injEq] at hd
    omega

theorem PendingGiven.run (h : l.PendingGiven) (ops : List Operation) : (l.run ops).PendingGiven := by
  induction ops generalizing l with
  | nil => exact h
  | cons op ops ih => exact ih (h.perform op)

theorem nextId_le_run (l : Layout) (ops : List Operation) : l.nextId ≤ (l.run ops).nextId := by
  induction ops generalizing l with
  | nil => exact Nat.le_refl _
  | cons op ops ih =>
    refine Nat.le_trans ?_ (ih (l.perform op))
    cases pendingStep l op <;> omega

/-- A number that is carried has been given. -/
theorem lt_nextId_of_mem_destinations (h : l.PendingGiven) (ops : List Operation) :
    ∀ d ∈ l.destinations ops, d < (l.run ops).nextId := by
  induction ops generalizing l with
  | nil => simp [destinations, placed, calls]
  | cons op ops ih =>
    intro d hd
    rw [destinations_cons, List.mem_append] at hd
    rcases hd with hd | hd
    · have hle := nextId_le_run l (op :: ops)
      refine Nat.lt_of_lt_of_le (h d ?_) hle
      cases pendingStep l op with
      | kept hitem => simp [hitem] at hd
      | taken hitem hdest => simpa [hitem, hdest] using hd
      | set hitem => simp [hitem] at hd
    · exact ih (h.perform op) d hd

/-- **No number is carried twice.** -/
theorem nodup_destinations (h : l.PendingGiven) (ops : List Operation) :
    (l.destinations ops).Nodup := by
  induction ops generalizing l with
  | nil => simp [destinations, placed, calls]
  | cons op ops ih =>
    have hrest : ((l.perform op).destinations ops).Nodup := ih (h.perform op)
    rw [destinations_cons]
    cases pendingStep l op with
    | kept hitem => simpa [hitem] using hrest
    | set hitem => simpa [hitem] using hrest
    | @taken item hitem hdest _ hp hn =>
      cases hd : item.destination with
      | none => simpa [hitem, hd] using hrest
      | some d =>
        -- the slot is empty now, so what follows carries numbers that were not given yet
        have hgiven := h d (hdest ▸ hd)
        have hnew : d ∉ (l.perform op).destinations ops := by
          intro hmem
          have := eq_or_le_of_mem_destinations _ ops d hmem
          simp only [hp, hn, reduceCtorEq, false_or] at this
          omega
        simpa [hitem, hd] using ⟨hnew, hrest⟩

/-! ### The objects of a marker -/

theorem filter_placed_eq_nil {ops : List Operation} {d : Nat} (h : d ∉ l.destinations ops) :
    (l.placed ops).filter (·.destination = some d) = [] := by
  rw [List.filter_eq_nil_iff]
  intro item hmem hd
  exact h (List.mem_filterMap.mpr ⟨item, hmem, by simpa using hd⟩)

/-- A number that neither waits nor is new is not carried any more. -/
theorem filter_placed_of_given {d : Nat} (hd : d < l.nextId) (hp : l.pendingDestination ≠ some d)
    (ops : List Operation) :
    (l.placed ops).filter (·.destination = some d) = [] := by
  refine filter_placed_eq_nil fun hmem => ?_
  have := eq_or_le_of_mem_destinations l ops d hmem
  simp only [hp, false_or] at this
  omega

theorem nextPlaced?_cons (l : Layout) (op : Operation) (ops : List Operation) :
    l.nextPlaced? (op :: ops) =
      if (Call.item? ⟨l, op⟩).isSome || (Call.marker? ⟨l, op⟩).isSome then Call.item? ⟨l, op⟩
      else (l.perform op).nextPlaced? ops := by
  rw [nextPlaced?, calls, List.find?_cons]
  split <;> next h => simp [h, nextPlaced?]

/-- The number that waits goes to the next object, if no marker is set before it. -/
theorem items_of_pending {d : Nat} (hp : l.pendingDestination = some d) (hd : d < l.nextId)
    (ops : List Operation) :
    (l.placed ops).filter (·.destination = some d) = (l.nextPlaced? ops).toList := by
  induction ops generalizing l with
  | nil => rfl
  | cons op ops ih =>
    rw [placed_cons, List.filter_append, nextPlaced?_cons]
    cases pendingStep l op with
    | kept hitem hmarker hp' hn =>
      simpa [hitem, hmarker] using ih (hp'.trans hp) (hn ▸ hd)
    | taken hitem hdest _ hp' hn =>
      have hne : (l.perform op).pendingDestination ≠ some d := by simp [hp']
      have hrest := filter_placed_of_given (hn ▸ hd) hne ops
      simp [hitem, hdest, hp, hrest]
    | set hitem hmarker hp' hn =>
      have hne : (l.perform op).pendingDestination ≠ some d := by
        rw [hp', Ne, Option.some.injEq]
        omega
      have hrest := filter_placed_of_given (by omega) hne ops
      simp [hitem, hmarker, hrest]

/-- **The destination of a marker.** In every history of a new layout, the items that carry the number
of a marker are the item that is placed next after it, on a page or in a group, and no item at all if
another marker is set before that or nothing is placed any more. -/
theorem items_of_marker (pageSize : Size Float) (margins : Margins Float)
    (gridSettings : GridSettings Float) (references : References) (strictReferences : Bool)
    (nextId : Nat) (before after : List Operation) (name : String) (isTarget : Bool)
    (shift : Option Float) :
    let l₀ := start pageSize margins gridSettings references strictReferences nextId
    let marked := (l₀.run before).setMarker name isTarget shift
    (l₀.placed (before ++ .setMarker name isTarget shift :: after)).filter
        (·.destination = some marked.1) =
      (marked.2.nextPlaced? after).toList := by
  intro l₀ marked
  have hgiven : l₀.PendingGiven := fun d hd => by cases hd
  have hbefore : (l₀.placed before).filter (·.destination = some marked.1) = [] :=
    filter_placed_eq_nil fun hmem =>
      Nat.lt_irrefl _ (lt_nextId_of_mem_destinations hgiven before _ hmem)
  rw [placed_append, List.filter_append, hbefore, List.nil_append, placed_cons]
  exact items_of_pending (l := marked.2) rfl (Nat.lt_succ_self _) after

/-- **Two markers before an object.** The marker that is set first gets no object, though one is
placed after it. -/
theorem marker_without_item :
    ¬ ∀ (before after : List Operation) (name : String) (isTarget : Bool) (shift : Option Float),
      let marked := (tenByTen.run before).setMarker name isTarget shift
      0 < (marked.2.placed after).length →
        ((tenByTen.placed (before ++ .setMarker name isTarget shift :: after)).filter
          (·.destination = some marked.1)).length = 1 := by
  intro h
  have hone := h [.installPage (framedType 10)]
    [.setMarker "b" true none, .place 10 10 cellBox, .place 20 10 cellBox] "a" true none
    (by decide +kernel)
  revert hone
  decide +kernel

/-! ### The page of a marker -/

/-- An item on the page of a number carries the number `d`. -/
def Carries (l : Layout) (number d : Nat) : Prop :=
  ∃ page ∈ l.pages, page.number = number ∧ ∃ item ∈ page.items, item.destination = some d

/-- **The two slots and the table of markers.** `unpaged` are the markers that were set while no page
was open. -/
structure Aligned (unpaged : List Nat) (l : Layout) : Prop where
  numbered : l.Numbered
  pendingGiven : l.PendingGiven
  unpaged_lt : ∀ d ∈ unpaged, d < l.nextId
  carried_lt : ∀ number d, l.Carries number d → d < l.nextId
  current_lt : ∀ name m, l.references.current? name = some m → m.id < l.nextId
  /-- No marker is ahead of the open page, or of the next one. -/
  page_le : ∀ name m, l.references.current? name = some m → m.page ≤ l.currentPageNumber
  /-- A number that waits is not carried yet. -/
  pending_fresh : ∀ d, l.pendingDestination = some d → ∀ number, ¬ l.Carries number d
  /-- A number that waits and whose page is not known belongs to the name that waits. -/
  unplaced_of_pending : ∀ d name m, l.pendingDestination = some d → d ∈ unpaged →
    l.references.current? name = some m → m.id = d → l.unplacedMarker = some name
  /-- A name that waits belongs to a number that no page carries. -/
  unplaced_fresh : ∀ name m, l.unplacedMarker = some name →
    l.references.current? name = some m → ∀ number, ¬ l.Carries number m.id
  /-- Objects and markers agree. -/
  agree : ∀ number name m, l.Carries number m.id → l.references.current? name = some m →
    m.page ≤ number ∧ (m.id ∈ unpaged → m.page = number)

theorem pages_congr {l' : Layout} (hp : l'.page = l.page) (hf : l'.finished = l.finished) :
    l'.pages = l.pages := by
  rw [pages, pages, finishPage, finishPage, hp]
  cases l.page <;> simp [hf]

theorem pages_of_page {page : Page Float} (hp : l.page = some page) :
    l.pages = l.finished ++ [page.finish] := by
  simp [pages, finishPage, hp]

theorem pages_finishPage (l : Layout) : l.finishPage.pages = l.pages := by
  rw [pages, finishPage, page_finishPage]
  rfl

/-- What carries no more numbers and knows at least as many pages keeps the invariant. -/
theorem Aligned.mono {unpaged : List Nat} {l' : Layout} (h : Aligned unpaged l)
    (hnumbered : l'.Numbered) (hcarries : ∀ number d, l'.Carries number d → l.Carries number d)
    (hcurrent : l.currentPageNumber ≤ l'.currentPageNumber) (hr : l'.references = l.references)
    (hn : l'.nextId = l.nextId) (hu : l'.unplacedMarker = l.unplacedMarker)
    (hp : ∀ d, l'.pendingDestination = some d → l.pendingDestination = some d) :
    Aligned unpaged l' where
  numbered := hnumbered
  pendingGiven d hd := hn ▸ h.pendingGiven d (hp d hd)
  unpaged_lt d hd := hn ▸ h.unpaged_lt d hd
  carried_lt number d hc := hn ▸ h.carried_lt number d (hcarries number d hc)
  current_lt name m hm := hn ▸ h.current_lt name m (hr ▸ hm)
  page_le name m hm := Nat.le_trans (h.page_le name m (hr ▸ hm)) hcurrent
  pending_fresh d hd number hc := h.pending_fresh d (hp d hd) number (hcarries number d hc)
  unplaced_of_pending d name m hd hmem hm hid :=
    hu.trans (h.unplaced_of_pending d name m (hp d hd) hmem (hr ▸ hm) hid)
  unplaced_fresh name m hname hm number hc :=
    h.unplaced_fresh name m (hu ▸ hname) (hr ▸ hm) number (hcarries number m.id hc)
  agree number name m hc hm := h.agree number name m (hcarries number m.id hc) (hr ▸ hm)

/-- Groups do not matter, and neither does it matter if a number goes to an object in a group. -/
theorem Aligned.congr {unpaged : List Nat} {l' : Layout} (h : Aligned unpaged l)
    (hpage : l'.page = l.page) (hf : l'.finished = l.finished) (hc : l'.pageCount = l.pageCount)
    (hr : l'.references = l.references) (hn : l'.nextId = l.nextId)
    (hu : l'.unplacedMarker = l.unplacedMarker)
    (hp : ∀ d, l'.pendingDestination = some d → l.pendingDestination = some d) :
    Aligned unpaged l' := by
  refine h.mono (fun page hp => ?_) (fun number d hcarried => ?_) (Nat.le_of_eq ?_) hr hn hu hp
  · rw [hc]
    exact h.numbered page (hpage ▸ hp)
  · rwa [Carries, pages_congr hpage hf] at hcarried
  · rw [currentPageNumber, currentPageNumber, hpage, hc]

theorem Aligned.finishPage {unpaged : List Nat} (h : Aligned unpaged l) :
    Aligned unpaged l.finishPage := by
  refine h.mono (fun page hp => by simp at hp) (fun number d hc => ?_) ?_ references_finishPage
    nextId_finishPage unplacedMarker_finishPage fun d hd => by simpa using hd
  · rwa [Carries, pages_finishPage] at hc
  · cases hp : l.page with
    | none => simp [currentPageNumber, hp]
    | some page => simp [currentPageNumber, hp, h.numbered page hp]

theorem Aligned.openPage {unpaged : List Nat} (h : Aligned unpaged l) (hp : l.page = none)
    {page : Page Float} (hnumber : page.number = l.pageCount + 1) (hitems : page.items = []) :
    Aligned unpaged { l with page := some page, pageCount := l.pageCount + 1 } := by
  refine h.mono (fun page' hp' => ?_) (fun number d hc => ?_) ?_ rfl rfl rfl fun d hd => hd
  · cases hp'
    exact hnumber
  · obtain ⟨page', hmem, hn, item, hitem, hd⟩ := hc
    rw [pages_of_page rfl] at hmem
    rcases List.mem_append.mp hmem with hmem | hmem
    · refine ⟨page', ?_, hn, item, hitem, hd⟩
      rwa [pages, Layout.finishPage, hp]
    · -- the new page is empty
      obtain rfl := List.mem_singleton.mp hmem
      simp [Page.finish, hitems] at hitem
  · simp [currentPageNumber, hp, hnumber]

section SetMarker

variable {name : String} {isTarget : Bool} {shift : Option Float}

theorem carries_setMarker {number d : Nat}
    (hc : (l.setMarker name isTarget shift).2.Carries number d) : l.Carries number d := by
  have hpages : (l.setMarker name isTarget shift).2.pages = l.pages := pages_congr rfl rfl
  rwa [Carries, hpages] at hc

/-- A marker takes the place of the one of its name. -/
theorem current?_setMarker {other : String} {m : Marker}
    (hm : (l.setMarker name isTarget shift).2.references.current? other = some m) :
    (other = name ∧ m.id = l.nextId ∧ m.page = l.currentPageNumber) ∨
      other ≠ name ∧ l.references.current? other = some m := by
  replace hm := (References.current?_set _ _ _).symm.trans hm
  split at hm
  · next heq =>
    cases hm
    exact .inl ⟨heq.symm, rfl, rfl⟩
  · next hne => exact .inr ⟨Ne.symm hne, hm⟩

theorem mem_unpaged {unpaged : List Nat} {d : Nat}
    (hd : d ∈ unpaged ++ if l.page.isNone then [l.nextId] else []) :
    d ∈ unpaged ∨ d = l.nextId ∧ l.page.isNone = true := by
  rcases List.mem_append.mp hd with hd | hd
  · exact .inl hd
  · split at hd
    · next hnone => exact .inr ⟨List.mem_singleton.mp hd, hnone⟩
    · cases hd

end SetMarker

/-- A new marker waits for an object, and its name waits too if no page is open. -/
theorem Aligned.setMarker {unpaged : List Nat} (h : Aligned unpaged l) (name : String)
    (isTarget : Bool) (shift : Option Float) :
    Aligned (unpaged ++ if l.page.isNone then [l.nextId] else [])
      (l.setMarker name isTarget shift).2 := by
  have hn : (l.setMarker name isTarget shift).2.nextId = l.nextId + 1 := rfl
  have hp : (l.setMarker name isTarget shift).2.pendingDestination = some l.nextId := rfl
  have hfresh {number} (hc : (l.setMarker name isTarget shift).2.Carries number l.nextId) : False :=
    Nat.lt_irrefl _ (h.carried_lt number l.nextId (carries_setMarker hc))
  constructor
  case numbered => exact h.numbered
  case pendingGiven =>
    intro d hd
    rw [hp, Option.some.injEq] at hd
    omega
  case unpaged_lt =>
    intro d hd
    rcases mem_unpaged hd with hd | ⟨rfl, -⟩
    · have := h.unpaged_lt d hd
      omega
    · omega
  case carried_lt =>
    intro number d hc
    have := h.carried_lt number d (carries_setMarker hc)
    omega
  case current_lt =>
    intro other m hm
    rcases current?_setMarker hm with ⟨-, hid, -⟩ | ⟨-, hm⟩
    · omega
    · have := h.current_lt other m hm
      omega
  case page_le =>
    intro other m hm
    have hcur : (l.setMarker name isTarget shift).2.currentPageNumber = l.currentPageNumber := rfl
    rw [hcur]
    rcases current?_setMarker hm with ⟨-, -, hpage⟩ | ⟨-, hm⟩
    · exact Nat.le_of_eq hpage
    · exact h.page_le other m hm
  case pending_fresh =>
    intro d hd number hc
    rw [hp, Option.some.injEq] at hd
    exact hfresh (hd ▸ hc)
  case unplaced_of_pending =>
    intro d other m hd hmem hm hid
    rw [hp, Option.some.injEq] at hd
    rcases mem_unpaged hmem with hmem | ⟨-, hnone⟩
    · exact absurd hd.symm (Nat.ne_of_lt (h.unpaged_lt d hmem))
    · rcases current?_setMarker hm with ⟨rfl, -, -⟩ | ⟨-, hm⟩
      · exact if_pos hnone
      · have := h.current_lt other m hm
        omega
  case unplaced_fresh =>
    intro other m hname hm number hc
    rcases current?_setMarker hm with ⟨-, hid, -⟩ | ⟨hne, -⟩
    · exact hfresh (hid ▸ hc)
    · change (if l.page.isNone then some name else none) = some other at hname
      split at hname
      · exact hne (Option.some.inj hname).symm
      · cases hname
  case agree =>
    intro number other m hc hm
    rcases current?_setMarker hm with ⟨-, hid, -⟩ | ⟨-, hm⟩
    · exact (hfresh (hid ▸ hc)).elim
    · obtain ⟨hle, heq⟩ := h.agree number other m (carries_setMarker hc) hm
      refine ⟨hle, fun hmem => ?_⟩
      rcases mem_unpaged hmem with hmem | ⟨hid, -⟩
      · exact heq hmem
      · exact absurd hid (Nat.ne_of_lt (h.current_lt other m hm))

theorem current?_referencesAt {name : String} {m : Marker} {number : Nat}
    (hm : (l.referencesAt number).current? name = some m) :
    (l.unplacedMarker = some name ∧ m.page = number ∧
        ∃ was, l.references.current? name = some was ∧ was.id = m.id) ∨
      l.unplacedMarker ≠ some name ∧ l.references.current? name = some m := by
  rw [referencesAt] at hm
  split at hm
  · next moved hmoved =>
    rw [References.current?_move] at hm
    obtain ⟨was, hwas, rfl⟩ := Option.map_eq_some_iff.mp hm
    by_cases hname : name = moved
    · subst hname
      exact .inl ⟨hmoved, by simp, was, hwas, by simp⟩
    · refine .inr ⟨fun h => hname (Option.some.inj (h.symm.trans hmoved)), ?_⟩
      simpa [hname] using hwas
  · next hnone => exact .inr ⟨by simp [hnone], hm⟩

/-- What an open page carries once an item is placed on it. -/
theorem carries_place {l' : Layout} {page : Page Float} {item : PlacedItem Float}
    (hpage : l.page = some page) (hpage' : l'.page = some (page.place item))
    (hf : l'.finished = l.finished) {number d : Nat} (hc : l'.Carries number d) :
    l.Carries number d ∨ number = page.number ∧ item.destination = some d := by
  obtain ⟨page', hmem, hnumber, item', hitem, hd⟩ := hc
  rw [pages_of_page hpage', hf] at hmem
  rw [Carries, pages_of_page hpage]
  rcases List.mem_append.mp hmem with hmem | hmem
  · exact .inl ⟨page', List.mem_append_left _ hmem, hnumber, item', hitem, hd⟩
  · obtain rfl := List.mem_singleton.mp hmem
    rcases List.mem_append.mp hitem with hitem | hitem
    · exact .inl ⟨page.finish, List.mem_append_right _ (.head _), hnumber, item', hitem, hd⟩
    · obtain rfl := List.mem_singleton.mp hitem
      exact .inr ⟨hnumber.symm, hd⟩

/-- An object on a page takes the number that waits, and the name that waits belongs to this number or
to none that a page carries. -/
theorem Aligned.placeOnPage {unpaged : List Nat} (h : Aligned unpaged l) {page : Page Float}
    (hpage : l.page = some page) (x y : Float) (box : ContentBox Float) :
    Aligned unpaged
      { l with
        page := some (page.place ⟨x, y, box, l.pendingDestination⟩)
        references := l.referencesAt page.number
        pendingDestination := none
        unplacedMarker := none } := by
  generalize hl' : { l with
        page := some (page.place ⟨x, y, box, l.pendingDestination⟩)
        references := l.referencesAt page.number
        pendingDestination := none
        unplacedMarker := none } = l'
  have hp : l'.pendingDestination = none := by rw [← hl']
  have hu : l'.unplacedMarker = none := by rw [← hl']
  have hn : l'.nextId = l.nextId := by rw [← hl']
  have hcur : l.currentPageNumber = page.number := by simp [currentPageNumber, hpage]
  have hcur' : l'.currentPageNumber = page.number := by rw [← hl']; rfl
  have hcarries {number d} (hc : l'.Carries number d) :
      l.Carries number d ∨ number = page.number ∧ l.pendingDestination = some d := by
    have hpage' : l'.page = some (page.place ⟨x, y, box, l.pendingDestination⟩) := by rw [← hl']
    exact carries_place hpage hpage' (by rw [← hl']) hc
  have hcurrent {name m} (hm : l'.references.current? name = some m) :
      (l.unplacedMarker = some name ∧ m.page = page.number ∧
          ∃ was, l.references.current? name = some was ∧ was.id = m.id) ∨
        l.unplacedMarker ≠ some name ∧ l.references.current? name = some m := by
    rw [← hl'] at hm
    exact current?_referencesAt hm
  constructor
  case numbered =>
    rw [← hl']
    intro placed hplaced
    cases hplaced
    exact h.numbered page hpage
  case pendingGiven | pending_fresh | unplaced_of_pending => simp [PendingGiven, hp]
  case unplaced_fresh => simp [hu]
  case unpaged_lt =>
    rw [hn]
    exact h.unpaged_lt
  case carried_lt =>
    intro number d hc
    rw [hn]
    rcases hcarries hc with hc | ⟨-, hd⟩
    · exact h.carried_lt number d hc
    · exact h.pendingGiven d hd
  case current_lt =>
    intro name m hm
    rw [hn]
    rcases hcurrent hm with ⟨-, -, was, hwas, hid⟩ | ⟨-, hm⟩
    · exact hid ▸ h.current_lt name was hwas
    · exact h.current_lt name m hm
  case page_le =>
    intro name m hm
    rw [hcur']
    rcases hcurrent hm with ⟨-, hmoved, -⟩ | ⟨-, hm⟩
    · exact Nat.le_of_eq hmoved
    · exact hcur ▸ h.page_le name m hm
  case agree =>
    intro number name m hc hm
    rcases hcurrent hm with ⟨hname, hmoved, was, hwas, hid⟩ | ⟨hname, hm⟩
    · rcases hcarries hc with hc | ⟨rfl, -⟩
      · exact absurd (hid ▸ hc) (h.unplaced_fresh name was hname hwas number)
      · exact ⟨Nat.le_of_eq hmoved, fun _ => hmoved⟩
    · rcases hcarries hc with hc | ⟨rfl, hd⟩
      · exact h.agree number name m hc hm
      · exact ⟨hcur ▸ h.page_le name m hm,
          fun hmem => absurd (h.unplaced_of_pending m.id name m hd hmem hm rfl) hname⟩

theorem unpagedMarkers_cons (l : Layout) (op : Operation) (ops : List Operation) :
    l.unpagedMarkers (op :: ops) =
      l.unpagedMarkers [op] ++ (l.perform op).unpagedMarkers ops := by
  simp only [unpagedMarkers, calls, List.filterMap_cons, List.filterMap_nil]
  split <;> rfl

theorem unpagedMarkers_of_marker? {op : Operation} (h : Call.marker? ⟨l, op⟩ = none) :
    l.unpagedMarkers [op] = [] := by
  simp [unpagedMarkers, calls, h]

theorem unpagedMarkers_setMarker (l : Layout) (name : String) (isTarget : Bool)
    (shift : Option Float) :
    l.unpagedMarkers [.setMarker name isTarget shift] =
      if l.page.isNone then [l.nextId] else [] := by
  cases hp : l.page <;> simp [unpagedMarkers, calls, Call.marker?, setMarker, hp]

/-- **One call keeps the invariant.** -/
theorem Aligned.perform {unpaged : List Nat} (h : Aligned unpaged l) (op : Operation) :
    Aligned (unpaged ++ l.unpagedMarkers [op]) (l.perform op) := by
  have ho := outcome l op
  generalize l.perform op = l' at ho ⊢
  cases ho with
  | marked name isTarget shift =>
    rw [unpagedMarkers_setMarker]
    exact h.setMarker name isTarget shift
  | nothing hs =>
    rw [unpagedMarkers_of_marker? hs.marker?, List.append_nil]
    exact h
  | finished hs =>
    rw [unpagedMarkers_of_marker? hs.marker?, List.append_nil]
    exact h.finishPage
  | opened _ hnumber hitems =>
    rw [unpagedMarkers_of_marker? rfl, List.append_nil]
    have hopen := h.finishPage.openPage page_finishPage
      (pageCount_finishPage (l := l) ▸ hnumber) hitems
    rwa [pageCount_finishPage] at hopen
  | started | ended =>
    rw [unpagedMarkers_of_marker? rfl, List.append_nil]
    exact h.congr rfl rfl rfl rfl rfl rfl fun _ hd => hd
  | placedInGroup =>
    rw [unpagedMarkers_of_marker? rfl, List.append_nil]
    exact h.congr rfl rfl rfl rfl rfl rfl fun _ hd => by cases hd
  | placedOnPage _ hp =>
    rw [unpagedMarkers_of_marker? rfl, List.append_nil]
    exact h.placeOnPage hp _ _ _

theorem Aligned.run {unpaged : List Nat} (h : Aligned unpaged l) (ops : List Operation) :
    Aligned (unpaged ++ l.unpagedMarkers ops) (l.run ops) := by
  induction ops generalizing l unpaged with
  | nil => simpa [unpagedMarkers, calls] using h
  | cons op ops ih =>
    rw [unpagedMarkers_cons, ← List.append_assoc]
    exact ih (h.perform op)

theorem aligned_start (pageSize : Size Float) (margins : Margins Float)
    (gridSettings : GridSettings Float) (previous : Option JobRecord) (strictReferences : Bool)
    (nextId : Nat) :
    Aligned [] (start pageSize margins gridSettings (.start previous) strictReferences nextId) where
  numbered page hp := by cases hp
  pendingGiven d hd := by cases hd
  unpaged_lt d hd := by cases hd
  carried_lt number d hc := by
    obtain ⟨page, hmem, -⟩ := hc
    cases hmem
  current_lt name m hm := by cases hm
  page_le name m hm := by cases hm
  pending_fresh d hd := by cases hd
  unplaced_of_pending d name m hd := by cases hd
  unplaced_fresh name m hname := by cases hname
  agree number name m hc hm := by cases hm

/-- **Markers and destinations agree.** At every point of every history of a new layout, no number is
carried by two items; and if an item on a page carries the number of a marker that is in the table
now, then the marker is on this page or on an earlier one, and on this page if it was set while no
page was open. -/
theorem destination_on_page (pageSize : Size Float) (margins : Margins Float)
    (gridSettings : GridSettings Float) (previous : Option JobRecord) (strictReferences : Bool)
    (nextId : Nat) (ops : List Operation) :
    let l₀ := start pageSize margins gridSettings (.start previous) strictReferences nextId
    let l := l₀.run ops
    (l₀.destinations ops).Nodup ∧
    ∀ page ∈ l.pages, ∀ item ∈ page.items, ∀ name marker,
      l.references.current? name = some marker → item.destination = some marker.id →
        marker.page ≤ page.number ∧
          (marker.id ∈ l₀.unpagedMarkers ops → marker.page = page.number) := by
  intro l₀ l
  have h : Aligned (l₀.unpagedMarkers ops) l :=
    (aligned_start pageSize margins gridSettings previous strictReferences nextId).run ops
  refine ⟨nodup_destinations (fun d hd => by cases hd) ops, ?_⟩
  intro page hpage item hitem name marker hmarker hd
  exact h.agree page.number name marker ⟨page, hpage, rfl, item, hitem, hd⟩ hmarker

/-- A marker that is set before there is a page, a page that is finished empty, and the object. -/
def markerBeforePages : List Operation :=
  [.setMarker "end" false none, .installPage (framedType 10), .installPage (framedType 10),
    .place 10 10 cellBox]

theorem destination_on_page_markerBeforePages :
    let l := tenByTen.run markerBeforePages
    ∃ page ∈ l.pages, ∃ item ∈ page.items, ∃ marker,
      l.references.current? "end" = some marker ∧ item.destination = some marker.id ∧
        marker.id ∈ tenByTen.unpagedMarkers markerBeforePages ∧ page.number = 2 ∧
          marker.page = page.number := by
  intro l
  have hitem : ∃ page ∈ l.pages, ∃ item ∈ page.items, page.number = 2 ∧ item.destination = some 1 := by
    decide +kernel
  have hmarker : (l.references.current? "end").map (·.id) = some 1 := by decide +kernel
  have hunpaged : 1 ∈ tenByTen.unpagedMarkers markerBeforePages := by decide +kernel
  obtain ⟨page, hpage, item, hitem, hnumber, hd⟩ := hitem
  obtain ⟨marker, hmarker, hid⟩ := Option.map_eq_some_iff.mp hmarker
  rw [← hid] at hd hunpaged
  have hagree := (destination_on_page _ _ _ _ _ _ markerBeforePages).2 page hpage item hitem "end"
    marker hmarker hd
  exact ⟨page, hpage, item, hitem, marker, hmarker, hd, hunpaged, hnumber, hagree.2 hunpaged⟩

end Layout

end PageGrid
