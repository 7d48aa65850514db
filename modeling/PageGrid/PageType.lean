import PageGrid.Geometry
import PageGrid.Grid.Area

/-!
# Page types

A page type is a template for pages: margins, named areas and a test that decides whether the type is
eligible for the data that needs a page. Types are kept in the order of their last declaration, and
the search runs from the latest to the first. A type declared again under its name loses its old place
and becomes the latest. The list starts with a fallback type whose test always holds; the fallback has
no other privilege, so declaring its name again moves it too.

## Main definitions

* `PageTypes.initial`, `PageTypes.register` — the list and its only change;
* `PageTypes.candidates` — the order of the search;
* `PageTypes.select` — the search, whose test may fail.
-/

namespace PageGrid

/-- A named region as declared by a page type. -/
structure AreaDefinition where
  name : String
  frames : List FrameSpec
  deriving DecidableEq, Repr

/-- A template for pages. The test is an expression over the data that needs a page. -/
structure PageType (α : Type) where
  name : String
  test : String
  margins : Margins α
  areas : List AreaDefinition
  deriving DecidableEq, Repr

/-- The name of the fallback type. -/
def defaultPageType : String := "Default Page"

/-- The declared page types, in the order of their last declaration. -/
structure PageTypes (α : Type) where
  types : List (PageType α)
  deriving DecidableEq, Repr

namespace PageTypes

variable {α : Type}

/-- The fallback type alone. -/
def initial (margins : Margins α) : PageTypes α :=
  ⟨[{ name := defaultPageType, test := "true()", margins, areas := [] }]⟩

/-- Declares a type; an earlier declaration of the same name is dropped. -/
def register (p : PageTypes α) (t : PageType α) : PageTypes α :=
  ⟨p.types.filter (·.name ≠ t.name) ++ [t]⟩

/-- The type of the given name. -/
def get? (p : PageTypes α) (name : String) : Option (PageType α) :=
  p.types.find? (·.name = name)

/-- The types in the order in which they are asked. -/
def candidates (p : PageTypes α) : List (PageType α) := p.types.reverse

/-- The first type of a list for which the test holds. A test that fails ends the search. -/
def firstEligible {m : Type → Type} [Monad m] (test : PageType α → m Bool) :
    List (PageType α) → m (Option (PageType α))
  | [] => pure none
  | t :: ts => do if ← test t then pure (some t) else firstEligible test ts

/-- The latest type for which the test holds. -/
def select {m : Type → Type} [Monad m] (p : PageTypes α) (test : PageType α → m Bool) :
    m (Option (PageType α)) :=
  firstEligible test p.candidates

end PageTypes

end PageGrid
