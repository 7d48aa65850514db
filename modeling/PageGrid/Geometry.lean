import PageGrid.Scalar

/-!
# Sizes and rectangles

Lengths are in points, positions are measured from the top left corner, `y` grows downward. A
rectangle stores its corner and its size; `right` and `bottom` are derived, so `union`, which is
determined by the four edges, stores differences. That over exact scalars the edges of a union are
the extremes of the edges is what makes bounding boxes independent of the order of their parts.
-/

namespace PageGrid

/-- Width and height in points. -/
structure Size (α : Type) where
  width : α
  height : α
  deriving DecidableEq, Repr

namespace Size

variable {α : Type} [Scalar α]

/-- The size of a point. -/
def zero : Size α := ⟨0, 0⟩

/-- Whether a side is zero or negative. -/
def isEmpty (s : Size α) : Bool :=
  decide (s.width ≤ 0) || decide (s.height ≤ 0)

end Size

/-- The four margins of a page. -/
structure Margins (α : Type) where
  top : α
  right : α
  bottom : α
  left : α
  deriving DecidableEq, Repr

namespace Margins

variable {α : Type}

/-- The same margin on all sides. -/
def all (margin : α) : Margins α := ⟨margin, margin, margin, margin⟩

/-- No margins. -/
def zero [Scalar α] : Margins α := all 0

end Margins

/-- A rectangle on a page. -/
structure Rect (α : Type) where
  x : α
  y : α
  width : α
  height : α
  deriving DecidableEq, Repr

namespace Rect

variable {α : Type} [Scalar α]

/-- The right edge. -/
def right (r : Rect α) : α := r.x + r.width

/-- The bottom edge. -/
def bottom (r : Rect α) : α := r.y + r.height

/-- The smallest rectangle around two rectangles. -/
def union (r s : Rect α) : Rect α :=
  let x := Scalar.smaller r.x s.x
  let y := Scalar.smaller r.y s.y
  { x := x
    y := y
    width := Scalar.larger r.right s.right - x
    height := Scalar.larger r.bottom s.bottom - y }

/-- The smallest rectangle around all rectangles of a list, taken from left to right. -/
def hull : List (Rect α) → Option (Rect α)
  | [] => none
  | r :: rs => some (rs.foldl union r)

end Rect

end PageGrid
