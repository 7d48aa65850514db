import PageGrid.Geometry

/-!
# Content boxes

A box is a measured rectangle with something to draw in it: lines of text, an image, a colour or the
placed items of a group. A placed item is a box at a position, together with the number of the
marker that points to it, if one does. Groups contain placed items, so boxes nest to any depth. The path
of an image is whatever the system takes for one, and need not be a text.

## Main definitions

* `SystemPath` — paths;
* `ContentBox`, `PlacedItem` — the types above;
* `ContentBox.size` — the measured size of a box;
* `extent` — the smallest rectangle around a list of placed items.
-/

namespace PageGrid

/-- A path as the system has it: bytes that may, but need not, be a text in UTF-8. -/
structure SystemPath where
  bytes : List UInt8
  deriving DecidableEq, Repr

namespace SystemPath

/-- The path that a text is. -/
def ofText (text : String) : SystemPath := ⟨text.toUTF8.data.toList⟩

/-- The text that a path is, if it is one. -/
def toText? (p : SystemPath) : Option String := String.fromUTF8? ⟨p.bytes.toArray⟩

end SystemPath

/-- One line of text: where its base line is, from the top of its box, and how wide it is. -/
structure TextLine (α : Type) where
  text : String
  baseline : α
  width : α
  deriving DecidableEq, Repr

/-- Something at a position, with the number of the marker whose destination it is. -/
structure Placed (α : Type) (β : Type) where
  x : α
  y : α
  box : β
  destination : Option Nat
  deriving DecidableEq, Repr

/-- A measured rectangle and what it shows. -/
inductive ContentBox (α : Type) where
  /-- Lines of text, with the font size and the distance of base lines. -/
  | text (size : Size α) (lines : List (TextLine α)) (fontSize leading : α)
  /-- The image file `source`. -/
  | image (size : Size α) (source : SystemPath)
  /-- A filled rectangle; without a colour the renderer chooses. -/
  | filled (size : Size α) (color : Option String)
  /-- The items of the group `name`. -/
  | group (size : Size α) (name : String) (items : List (Placed α (ContentBox α)))
  deriving Repr

/-- A box at a position on a page or in a group. -/
abbrev PlacedItem (α : Type) := Placed α (ContentBox α)

namespace ContentBox

variable {α : Type}

/-- The measured size. -/
def size : ContentBox α → Size α
  | .text s .. => s
  | .image s .. => s
  | .filled s .. => s
  | .group s .. => s

/-- The measured width. -/
def width (b : ContentBox α) : α := b.size.width

/-- The measured height. -/
def height (b : ContentBox α) : α := b.size.height

end ContentBox

/-- The rectangle a placed item covers. -/
def Placed.bounds {α : Type} (item : PlacedItem α) : Rect α :=
  ⟨item.x, item.y, item.box.width, item.box.height⟩

/-- The smallest rectangle around the items, if there is one. -/
def extent {α : Type} [Scalar α] (items : List (PlacedItem α)) : Option (Rect α) :=
  Rect.hull (items.map Placed.bounds)

end PageGrid
