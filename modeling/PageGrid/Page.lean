import PageGrid.Content
import PageGrid.Grid.Basic
import PageGrid.PageType

/-!
# Pages

A page under construction: its number, the name of its type, its size, its grid with the areas of the
type, and the items placed so far. A finished page keeps what a renderer needs, and it is handed to a sink,
which may refuse it.

## Main definitions

* `Page`, `Page.ofType` — pages that are being filled;
* `FinishedPage`, `Page.finish` — what is handed out of them;
* `PageSink` — where it is handed.
-/

namespace PageGrid

/-- A page that is being filled. -/
structure Page (α : Type) where
  number : Nat
  pageType : String
  size : Size α
  grid : Grid α
  /-- The placed items in the order of placement. -/
  items : List (PlacedItem α)

/-- A page that nothing is placed on any more. -/
structure FinishedPage (α : Type) where
  number : Nat
  pageType : String
  width : α
  height : α
  items : List (PlacedItem α)

namespace Page

variable {α : Type}

/-- An empty page of a type. The areas of the type must lie inside the grid. -/
def ofType [Scalar α] (number : Nat) (type : PageType α) (size : Size α)
    (settings : GridSettings α) : Except (GridError α) (Page α) := do
  let grid ← Grid.forPage size type.margins settings
  let grid ← type.areas.foldlM (fun g a => g.defineArea a.name a.frames) grid
  return { number, pageType := type.name, size, grid, items := [] }

/-- The page with one more item. -/
def place (p : Page α) (item : PlacedItem α) : Page α := { p with items := p.items ++ [item] }

/-- Whether nothing has been placed. -/
def isEmpty (p : Page α) : Bool := p.items.isEmpty

/-- The page as it is handed out. -/
def finish (p : Page α) : FinishedPage α :=
  { number := p.number, pageType := p.pageType, width := p.size.width, height := p.size.height
    items := p.items }

end Page

/-- Where finished pages go, one after the other: whether a page is taken, given the pages that have been
taken before it. Writing a page can fail, and then it is not. -/
structure PageSink where
  takes : List (FinishedPage Float) → FinishedPage Float → Bool

/-- The sink that keeps all pages in memory. -/
def PageSink.memory : PageSink := ⟨fun _ _ => true⟩

end PageGrid
