import PageGrid.Proofs.Change

/-!
# Histories

What has become of the objects and markers of a layout is a question about its history: which
operations were called, in which order, on which state. `Layout.run` performs any list of
operations, also such that fail, and `Layout.calls` lists them with the layout that each of them
found. Everything said about a history is read off this list and off the last state.

The operations are those that concern pages, groups, objects and markers, with pages that are kept in
memory, so that none is refused. They are called here in any order: none of the guards under which rules
call them is assumed. What one call can do is said
once, by `Outcome`, so what a history keeps follows by one induction over it and one case for each
outcome.

## Main definitions

* `Operation`, `Layout.perform`, `Layout.run` — operations and what they do;
* `Call`, `Layout.calls` — the operations of a run, each with the layout before it;
* `Call.item?`, `Call.marker?`, `Call.opensPage` — what a call has placed, set or opened;
* `Layout.placed`, `placedAt` — the items that a run has placed, and those placed while a given
  number of groups was open;
* `Layout.Outcome` — what one call leaves.

## Main results

* `outcome` — every call ends in one of these ways.
-/

namespace PageGrid

/-- An operation on a layout that concerns pages, groups, objects or markers. -/
inductive Operation where
  | installPage (type : PageType Float)
  | finishPage
  | startGroup (name : String)
  | endGroup
  | place (x y : Float) (box : ContentBox Float)
  | setMarker (name : String) (isTarget : Bool) (shift : Option Float)

namespace Layout

/-- The layout after an operation, whether or not it succeeds. -/
def perform (l : Layout) : Operation → Layout
  | .installPage type => (l.installPage type).2
  | .finishPage => l.finishPage
  | .startGroup name =>
    match l.startGroup name with
    | .ok l' => l'
    | .error _ => l
  | .endGroup => l.endGroup.2
  | .place x y box => (l.place x y box).getD l
  | .setMarker name isTarget shift => (l.setMarker name isTarget shift).2

/-- The layout after some operations. -/
def run (l : Layout) (ops : List Operation) : Layout := ops.foldl perform l

/-- How many groups are being filled. -/
def groupDepth (l : Layout) : Nat := l.openGroups.length

end Layout

/-- A call of an operation. -/
structure Call where
  /-- The layout that the operation finds. -/
  before : Layout
  operation : Operation

namespace Call

/-- The item that the call has placed. -/
def item? (c : Call) : Option (PlacedItem Float) :=
  match c.operation with
  | .place x y box =>
    if (c.before.place x y box).isSome then some ⟨x, y, box, c.before.pendingDestination⟩ else none
  | _ => none

/-- The number of the marker that the call has set. -/
def marker? (c : Call) : Option Nat :=
  match c.operation with
  | .setMarker name isTarget shift => some (c.before.setMarker name isTarget shift).1
  | _ => none

/-- Whether the call has opened a page. -/
def opensPage (c : Call) : Bool :=
  match c.operation with
  | .installPage type => (c.before.installPage type).1.isOk
  | _ => false

/-- The call has neither placed an item nor set a marker nor opened a page. -/
structure Silent (c : Call) : Prop where
  item? : c.item? = none
  marker? : c.marker? = none
  opensPage : c.opensPage = false

end Call

namespace Layout

/-- The calls of a run. -/
def calls (l : Layout) : List Operation → List Call
  | [] => []
  | op :: ops => ⟨l, op⟩ :: calls (l.perform op) ops

/-- The items that a run places, on pages and in groups. -/
def placed (l : Layout) (ops : List Operation) : List (PlacedItem Float) :=
  (l.calls ops).filterMap Call.item?

/-- The items that a run places while exactly `depth` groups are open. -/
def placedAt (depth : Nat) (l : Layout) (ops : List Operation) : List (PlacedItem Float) :=
  (l.calls ops).filterMap fun c => if c.before.groupDepth = depth then c.item? else none

variable {l : Layout} {page : Page Float}

/-! ### Runs in parts -/

@[simp] theorem run_nil (l : Layout) : l.run [] = l := rfl

@[simp] theorem run_cons (l : Layout) (op : Operation) (ops : List Operation) :
    l.run (op :: ops) = (l.perform op).run ops := rfl

@[simp] theorem run_append (l : Layout) (ops later : List Operation) :
    l.run (ops ++ later) = (l.run ops).run later :=
  List.foldl_append

theorem calls_append (l : Layout) (ops later : List Operation) :
    l.calls (ops ++ later) = l.calls ops ++ (l.run ops).calls later := by
  induction ops generalizing l with
  | nil => rfl
  | cons op ops ih => exact congrArg (⟨l, op⟩ :: ·) (ih (l.perform op))

theorem placed_append (l : Layout) (ops later : List Operation) :
    l.placed (ops ++ later) = l.placed ops ++ (l.run ops).placed later := by
  rw [placed, calls_append, List.filterMap_append]
  rfl

theorem placedAt_append (depth : Nat) (l : Layout) (ops later : List Operation) :
    placedAt depth l (ops ++ later) = placedAt depth l ops ++ placedAt depth (l.run ops) later := by
  rw [placedAt, calls_append, List.filterMap_append]
  rfl

/-! ### What an operation does -/

/-- The markers once an item is placed on the page of a number: a marker whose page was not known is
there. -/
def referencesAt (l : Layout) (number : Nat) : References :=
  match l.unplacedMarker with
  | some name => l.references.move name number
  | none => l.references

/-- What an operation leaves. It may do nothing, which includes all failures but that of a page: the
page before is finished then. -/
inductive Outcome (l : Layout) : Operation → Layout → Prop
  | nothing {op : Operation} : Call.Silent ⟨l, op⟩ → Outcome l op l
  | finished {op : Operation} : Call.Silent ⟨l, op⟩ → Outcome l op l.finishPage
  | opened {type : PageType Float} {page : Page Float} :
      Call.opensPage ⟨l, .installPage type⟩ = true → page.number = l.pageCount + 1 →
        page.items = [] →
          Outcome l (.installPage type)
            { l.finishPage with page := some page, pageCount := l.pageCount + 1 }
  | started (name : String) (grid : Grid Float) :
      Outcome l (.startGroup name) { l with openGroups := .start name grid :: l.openGroups }
  | ended {group : Group Float} {outer : List (Group Float)} :
      l.openGroups = group :: outer →
        Outcome l .endGroup
          { l with
            openGroups := outer
            groups := group.finish :: l.groups.filter (·.name ≠ group.finish.name) }
  | placedInGroup {group : Group Float} {outer : List (Group Float)} {x y : Float}
      {box : ContentBox Float} :
      l.openGroups = group :: outer →
        Call.item? ⟨l, .place x y box⟩ = some ⟨x, y, box, l.pendingDestination⟩ →
          Outcome l (.place x y box)
            { l with
              openGroups := group.place ⟨x, y, box, l.pendingDestination⟩ :: outer
              pendingDestination := none }
  | placedOnPage {page : Page Float} {x y : Float} {box : ContentBox Float} :
      l.openGroups = [] → l.page = some page →
        Call.item? ⟨l, .place x y box⟩ = some ⟨x, y, box, l.pendingDestination⟩ →
          Outcome l (.place x y box)
            { l with
              page := some (page.place ⟨x, y, box, l.pendingDestination⟩)
              references := l.referencesAt page.number
              pendingDestination := none
              unplacedMarker := none }
  | marked (name : String) (isTarget : Bool) (shift : Option Float) :
      Outcome l (.setMarker name isTarget shift) (l.setMarker name isTarget shift).2

theorem items_of_ofType {number : Nat} {type : PageType Float} {size : Size Float}
    {settings : GridSettings Float} (h : Page.ofType number type size settings = .ok page) :
    page.items = [] := by
  obtain ⟨g₀, -, h⟩ := bind_eq_ok.mp h
  obtain ⟨g₁, -, h⟩ := bind_eq_ok.mp h
  cases h
  rfl

theorem outcome_installPage (l : Layout) (type : PageType Float) :
    Outcome l (.installPage type) (l.perform (.installPage type)) := by
  rw [perform]
  cases ho : l.finishPage.openPage type with
  | error e =>
    have hi : l.installPage type = (.error e, l.finishPage) := by simp [installPage, ho]
    rw [hi]
    exact .finished ⟨rfl, rfl, by simp [Call.opensPage, hi, Except.isOk, Except.toBool]⟩
  | ok opened =>
    have hi : l.installPage type = (.ok (), opened) := by simp [installPage, ho]
    obtain ⟨page, hpage, rfl⟩ := openPage_eq_ok.mp ho
    rw [pageCount_finishPage] at hpage hi
    rw [hi]
    exact .opened (by simp [Call.opensPage, hi, Except.isOk, Except.toBool])
      (number_of_ofType hpage) (items_of_ofType hpage)

theorem place_of_page {x y : Float} {box : ContentBox Float} (hg : l.openGroups = [])
    (hp : l.page = some page) :
    l.place x y box =
      some { l with
        page := some (page.place ⟨x, y, box, l.pendingDestination⟩)
        references := l.referencesAt page.number
        pendingDestination := none
        unplacedMarker := none } := by
  simp only [place, hg, hp]
  rfl

theorem outcome_place (l : Layout) (x y : Float) (box : ContentBox Float) :
    Outcome l (.place x y box) (l.perform (.place x y box)) := by
  rw [perform]
  cases hg : l.openGroups with
  | cons group outer =>
    have hs : (l.place x y box).isSome = true := by simp [place, hg]
    simp only [place, hg, Option.getD_some]
    exact .placedInGroup hg (by simp [Call.item?, hs])
  | nil =>
    cases hp : l.page with
    | some page =>
      rw [place_of_page hg hp]
      exact .placedOnPage hg hp (by simp [Call.item?, place_of_page hg hp])
    | none =>
      have hn : l.place x y box = none := by simp [place, hg, hp]
      rw [hn]
      exact .nothing ⟨by simp [Call.item?, hn], rfl, rfl⟩

/-- **Outcomes.** There are no others. -/
theorem outcome (l : Layout) (op : Operation) : Outcome l op (l.perform op) := by
  cases op with
  | installPage type => exact outcome_installPage l type
  | finishPage => exact .finished ⟨rfl, rfl, rfl⟩
  | startGroup name =>
    rw [perform]
    split
    · next l' h =>
      obtain ⟨grid, rfl⟩ := startGroup_eq_ok h
      exact .started name grid
    · exact .nothing ⟨rfl, rfl, rfl⟩
  | endGroup =>
    rw [perform, endGroup]
    split
    · exact .nothing ⟨rfl, rfl, rfl⟩
    · next group outer hg => exact .ended hg
  | place x y box => exact outcome_place l x y box
  | setMarker name isTarget shift => exact .marked name isTarget shift

end Layout

end PageGrid
