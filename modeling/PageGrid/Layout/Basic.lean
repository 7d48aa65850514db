import PageGrid.Group
import PageGrid.Log
import PageGrid.Marker
import PageGrid.Page
import PageGrid.Rule

/-!
# The state of a layout

What is being laid out: the open page, the groups that are being filled and those that are done, the
finished pages, the declared page types and recorded rules, and the markers. Content goes to the
innermost open group, or else to the open page.

## Markers and their destinations

A marker gets a fresh number, which the next placed item carries as its destination. If the marker is
set while no page is open, its page is not known yet; it is corrected when the next item is placed on a
page.

## Main definitions

* `Layout` — the state, and `Layout.start`;
* `Layout.shipPage`, `finishPage`, `installPage`, `pages` — pages;
* `Layout.startGroup`, `endGroup` — groups;
* `Layout.place`, `setMarker` — content;
* `Layout.targetGrid?`, `setTargetGrid` — the grid that content goes to.
-/

namespace PageGrid

/-- The state of a layout. -/
structure Layout where
  pageSize : Size Float
  margins : Margins Float
  /-- The grid of pages that are opened from now on. -/
  gridSettings : GridSettings Float
  strictReferences : Bool
  pageTypes : PageTypes Float
  patterns : Patterns
  references : References
  page : Option (Page Float)
  /-- The groups that are being filled, the innermost first. -/
  openGroups : List (Group Float)
  /-- The groups that are done, each name once. -/
  groups : List (Group Float)
  /-- The number of pages that have been opened. -/
  pageCount : Nat
  /-- Whether a page is being created. -/
  creating : Bool
  /-- The destination that the next placed item carries. -/
  pendingDestination : Option Nat
  /-- A marker whose page is not known until the next item is placed on a page. -/
  unplacedMarker : Option String
  /-- The number of the next marker. -/
  nextId : Nat
  /-- The finished pages that have been taken, in their order. -/
  finished : List (FinishedPage Float)

namespace Layout

/-- A layout without pages. -/
def start (pageSize : Size Float) (margins : Margins Float) (gridSettings : GridSettings Float)
    (references : References) (strictReferences : Bool) (nextId : Nat) : Layout :=
  { pageSize, margins, gridSettings, references, strictReferences, nextId
    pageTypes := .initial margins
    patterns := .empty
    page := none
    openGroups := []
    groups := []
    pageCount := 0
    creating := false
    pendingDestination := none
    unplacedMarker := none
    finished := [] }

/-- The number of the open page, or of the page that would be opened next. -/
def currentPageNumber (l : Layout) : Nat :=
  match l.page with
  | some page => page.number
  | none => l.pageCount + 1

/-- Whether a group is being filled. -/
def inGroup (l : Layout) : Bool := !l.openGroups.isEmpty

/-- Whether there is a page or a group that content can go to. -/
def hasTarget (l : Layout) : Bool := l.inGroup || l.page.isSome

/-- The grid that content goes to. -/
def targetGrid? (l : Layout) : Option (Grid Float) :=
  match l.openGroups with
  | group :: _ => some group.grid
  | [] => l.page.map (·.grid)

/-- The layout with another grid for the content. -/
def setTargetGrid (l : Layout) (grid : Grid Float) : Layout :=
  match l.openGroups with
  | group :: outer => { l with openGroups := { group with grid } :: outer }
  | [] => { l with page := l.page.map fun page => { page with grid } }

/-! ### Pages -/

/-- The layout after the open page, if there is one, has been taken. -/
def finishPage (l : Layout) : Layout :=
  match l.page with
  | some page => { l with page := none, finished := l.finished ++ [page.finish] }
  | none => l

/-- Whether a sink takes the open page. Without an open page there is nothing to refuse. -/
def isTaken (sink : PageSink) (l : Layout) : Bool :=
  l.page.all fun page => sink.takes l.finished page.finish

/-- Hands the open page, if there is one, to a sink; the answer is whether that succeeds. A page that is
refused is gone. -/
def shipPage (sink : PageSink) (l : Layout) : Bool × Layout :=
  if l.isTaken sink then (true, l.finishPage) else (false, { l with page := none })

/-- Opens the next page on a layout without an open page. -/
def openPage (l : Layout) (type : PageType Float) : Except (GridError Float) Layout :=
  (Page.ofType (l.pageCount + 1) type l.pageSize l.gridSettings).map fun page =>
    { l with page := some page, pageCount := l.pageCount + 1 }

/-- Finishes the open page, which is taken, and opens the next one. The page stays finished if the next one
cannot be opened. -/
def installPage (l : Layout) (type : PageType Float) : Except (GridError Float) Unit × Layout :=
  match l.finishPage.openPage type with
  | .ok opened => (.ok (), opened)
  | .error e => (.error e, l.finishPage)

/-- What is reported about the open page. -/
def pageNotice (l : Layout) : List LogEntry :=
  l.page.toList.map fun page =>
    .info (s!"Page {page.number} uses page type '{page.pageType}' " ++
      s!"({page.grid.columns}x{page.grid.rows} cells)")

/-- All pages of a layout that is complete, in their order. -/
def pages (l : Layout) : List (FinishedPage Float) := l.finishPage.finished

/-! ### Groups -/

/-- Begins a group on a grid like that of the content, or like that of a page without page type. -/
def startGroup (l : Layout) (name : String) : Except (GridError Float) Layout :=
  let outer : Except (GridError Float) (Grid Float) :=
    match l.targetGrid? with
    | some grid => .ok grid
    | none => Grid.forPage l.pageSize l.margins l.gridSettings
  outer.map fun grid => { l with openGroups := .start name grid.groupGrid :: l.openGroups }

/-- Finishes the innermost group and keeps it in place of one of the same name; the answer is its
size. -/
def endGroup (l : Layout) : Option (Size Float) × Layout :=
  match l.openGroups with
  | [] => (none, l)
  | group :: outer =>
    let group := group.finish
    (group.measured,
      { l with openGroups := outer, groups := group :: l.groups.filter (·.name ≠ group.name) })

/-- The finished group of a name. -/
def group? (l : Layout) (name : String) : Option (Group Float) := l.groups.find? (·.name = name)

/-! ### Content -/

/-- Places a box, `none` if there is neither a group nor a page for it. The box carries the pending
destination; a marker without a page moves to the page. -/
def place (l : Layout) (x y : Float) (box : ContentBox Float) : Option Layout :=
  let item : PlacedItem Float := ⟨x, y, box, l.pendingDestination⟩
  match l.openGroups, l.page with
  | group :: outer, _ =>
    some { l with openGroups := group.place item :: outer, pendingDestination := none }
  | [], some page =>
    let references :=
      match l.unplacedMarker with
      | some name => l.references.move name page.number
      | none => l.references
    some { l with
      page := some (page.place item)
      references
      pendingDestination := none
      unplacedMarker := none }
  | [], none => none

/-- Sets a marker at the current page. Its fresh number becomes the pending destination. -/
def setMarker (l : Layout) (name : String) (isTarget : Bool) (shift : Option Float) :
    Nat × Layout :=
  (l.nextId,
    { l with
      references := l.references.set ⟨name, l.currentPageNumber, l.nextId, isTarget, shift⟩
      pendingDestination := some l.nextId
      unplacedMarker := if l.page.isNone then some name else none
      nextId := l.nextId + 1 })

end Layout

end PageGrid
