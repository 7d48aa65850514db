import PageGrid.Geometry

/-!
# Sizing under bounds

An object has a natural size, perhaps a requested width or height, and bounds on both sides. A side
that is not requested follows from the natural aspect ratio; a size beyond the bounds is brought
back by scaling, and only where no proportional size fits is the ratio given up. A maximum below its
minimum counts as the minimum.

## Main definitions

* `Range`, `SizeRequest.horizontal`, `SizeRequest.vertical` — the effective bounds;
* `SizeRequest.start` — the size before the bounds are looked at;
* `Size.clamp` — the size within the bounds;
* `SizeRequest.resolve` — the whole decision.

The absence of a maximum is `none`: a comparison with it holds, and a minimum taken with it changes
nothing.
-/

namespace PageGrid

/-- The size an object should have, and the bounds on it. -/
structure SizeRequest (α : Type) where
  natural : Size α
  width : Option α
  height : Option α
  minWidth : α
  maxWidth : Option α
  minHeight : α
  maxHeight : Option α
  /-- Whether to scale up to the maxima, if both are given. -/
  stretch : Bool

/-- Bounds on one side of an object: the maximum is not below the minimum. -/
structure Range (α : Type) where
  min : α
  max : Option α

namespace Range

variable {α : Type} [Scalar α]

/-- The bounds of a side: the minimum is at least zero, the maximum at least the minimum. -/
def ofLimits (min : α) (max : Option α) : Range α :=
  let low := Scalar.larger min 0
  ⟨low, max.map (Scalar.larger · low)⟩

/-- The maximum, if the length is above it. -/
def exceeded (r : Range α) (length : α) : Option α :=
  r.max.filter fun max => decide (max < length)

/-- The length, cut to the maximum. -/
def cap (r : Range α) (length : α) : α :=
  match r.max with
  | some max => Scalar.smaller length max
  | none => length

/-- The length, raised to the minimum. -/
def lift (r : Range α) (length : α) : α :=
  Scalar.larger length r.min

/-- The maximum if it is a number, `none` if the side is not limited. -/
def limit (r : Range α) : Option α :=
  r.max.filter Scalar.isFinite

end Range

/-- Brings a size of positive sides into bounds. If both sides are too long, the one that has to
shrink more decides, and if both are too short, the one that has to grow more; the other side follows
in proportion and is then brought within its own bounds. A side that is too long beside one that is
too short leaves no proportional size: both take their bound. -/
def Size.clamp {α : Type} [Scalar α] (horizontal vertical : Range α) (size : Size α) : Size α :=
  let w := size.width
  let h := size.height
  match horizontal.exceeded w, vertical.exceeded h with
  | some maxW, some maxH =>
    if maxW / w ≤ maxH / h then ⟨maxW, vertical.lift (maxW * h / w)⟩
    else ⟨horizontal.lift (maxH * w / h), maxH⟩
  | some maxW, none =>
    if h < vertical.min then ⟨maxW, vertical.min⟩ else ⟨maxW, vertical.lift (maxW * h / w)⟩
  | none, some maxH =>
    if w < horizontal.min then ⟨horizontal.min, maxH⟩
    else ⟨horizontal.lift (maxH * w / h), maxH⟩
  | none, none =>
    if w < horizontal.min then
      if h < vertical.min ∧ horizontal.min / w ≤ vertical.min / h then
        ⟨horizontal.cap (vertical.min * w / h), vertical.min⟩
      else ⟨horizontal.min, vertical.cap (horizontal.min * h / w)⟩
    else if h < vertical.min then ⟨horizontal.cap (vertical.min * w / h), vertical.min⟩
    else size

namespace SizeRequest

variable {α : Type} [Scalar α]

/-- The bounds on the width. -/
def horizontal (r : SizeRequest α) : Range α := .ofLimits r.minWidth r.maxWidth

/-- The bounds on the height. -/
def vertical (r : SizeRequest α) : Range α := .ofLimits r.minHeight r.maxHeight

/-- The requested size; a side that is not requested follows from the natural aspect ratio. -/
def start (r : SizeRequest α) : Size α :=
  match r.width, r.height with
  | some w, some h => ⟨w, h⟩
  | some w, none => ⟨w, w * r.natural.height / r.natural.width⟩
  | none, some h => ⟨h * r.natural.width / r.natural.height, h⟩
  | none, none => r.natural

/-- The greatest factor by which the natural size can grow without passing a maximum, if there are
maxima on both sides. -/
def stretchFactor (r : SizeRequest α) : Option α :=
  match r.horizontal.limit, r.vertical.limit with
  | some maxW, some maxH => some (Scalar.smaller (maxW / r.natural.width) (maxH / r.natural.height))
  | _, _ => none

/-- The size of the object. An object without area takes the requested sides as they are; stretching
applies only if it enlarges. -/
def resolve (r : SizeRequest α) : Size α :=
  if r.natural.isEmpty then
    ⟨Scalar.larger (r.width.getD r.natural.width) 0, Scalar.larger (r.height.getD r.natural.height) 0⟩
  else
    match r.stretch, r.stretchFactor with
    | true, some factor =>
      if 1 < factor then ⟨r.natural.width * factor, r.natural.height * factor⟩ else fit
    | _, _ => fit
where
  /-- The requested size, brought within the bounds unless it has no area. -/
  fit : Size α :=
    let size := r.start
    if size.isEmpty then ⟨Scalar.larger size.width 0, Scalar.larger size.height 0⟩
    else size.clamp r.horizontal r.vertical

end SizeRequest

end PageGrid
