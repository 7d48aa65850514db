import PageGrid.Content
import PageGrid.Decimal.Notation
import PageGrid.Text.Blank

/-!
# Setting text

Every glyph is equally wide, so a line of text is a number of characters. A paragraph is cut into
words, a word that is longer than a line into pieces, and the pieces fill lines greedily, with single
spaces between them. Every paragraph starts a new line; one without words has no line.

## Main definitions

* `pieces` — the words of a text, cut to the length of a line;
* `fillLines` — greedy filling;
* `wrap` — the lines of a text;
* `setText` — paragraphs as a text box.
-/

namespace PageGrid

namespace Typeset

/-- Cuts a word into pieces of `width` characters and a shorter rest, at most `fuel` pieces. -/
def chunksUpTo (width : Nat) : Nat → List Char → List (List Char)
  | 0, _ => []
  | fuel + 1, cs =>
    match cs with
    | [] => []
    | c :: rest =>
      (c :: rest).take width :: chunksUpTo width fuel ((c :: rest).drop width)

/-- Cuts a word into pieces of `width` characters and a shorter rest. -/
def chunks (width : Nat) (word : List Char) : List (List Char) :=
  chunksUpTo width word.length word

/-- The words of a text; a word longer than `width` is cut. -/
def pieces (width : Nat) (text : List Char) : List (List Char) :=
  (Text.words text).flatMap (chunks width)

/-- Adds pieces to a line as long as they fit, then goes on with a new line. -/
def fillLines (width : Nat) (line : List Char) : List (List Char) → List (List Char)
  | [] => if line.isEmpty then [] else [line]
  | piece :: rest =>
    if line.isEmpty then fillLines width piece rest
    else if line.length + 1 + piece.length ≤ width then
      fillLines width (line ++ ' ' :: piece) rest
    else line :: fillLines width piece rest

/-- The lines of a text, of at most `width` characters. -/
def wrap (width : Nat) (text : List Char) : List (List Char) :=
  fillLines width [] (pieces width text)

end Typeset

/-- Font size and distance of base lines. -/
structure TextFormat where
  fontSize : Float
  leading : Float
  deriving Repr

/-- Why text cannot be set. -/
inductive TypesetError where
  /-- Not even one glyph fits. -/
  | noRoom (width : Float)
  /-- The font size or the leading is not positive. -/
  | badFormat (format : TextFormat)
  deriving Repr

/-- The wording of a refusal. -/
def TypesetError.message : TypesetError → String
  | .noRoom width => s!"Cannot set text into a width of {Decimal.twoPlaces width}pt"
  | .badFormat format =>
    s!"Invalid text format: font size {Decimal.plain format.fontSize}pt, " ++
      s!"leading {Decimal.plain format.leading}pt"

namespace Typeset

/-- The number of glyphs that fit into a width, as a float. The small addend keeps a width that is a
multiple of the glyph width from losing a glyph to rounding. -/
def capacity (glyph width : Float) : Float :=
  Decimal.floor (width / glyph + 1e-9)

/-- A capacity as a whole number; an infinite one is cut to sixty-four bits. -/
def capacityCount (capacity : Float) : Nat :=
  if Decimal.isFinite capacity then min (Decimal.floorInt capacity).toNat (Nat.pow 2 64 - 1)
  else Nat.pow 2 64 - 1

/-- The lines of a text box from top to bottom, from the given line number on. -/
def layLines (glyph : Float) (format : TextFormat) :
    Nat → List (List Char) → List (TextLine Float)
  | _, [] => []
  | i, line :: lines =>
    { text := String.ofList line
      baseline := Float.ofNat i * format.leading + format.fontSize
      width := Float.ofNat line.length * glyph } :: layLines glyph format (i + 1) lines

end Typeset

open Typeset in
/-- Sets paragraphs into a box of the given width. `advance` is the width of a glyph as a fraction of
the font size. -/
def setText (advance : Float) (paragraphs : List String) (width : Float) (format : TextFormat) :
    Except TypesetError (ContentBox Float) :=
  if format.fontSize ≤ 0 ∨ format.leading ≤ 0 then .error (.badFormat format)
  else
    let glyph := format.fontSize * advance
    let room := capacity glyph width
    if !Decimal.isFinite width || decide (room < 1) then .error (.noRoom width)
    else
      let lines := paragraphs.flatMap fun p => wrap (capacityCount room) p.toList
      .ok <| .text ⟨width, Float.ofNat lines.length * format.leading⟩
        (layLines glyph format 0 lines) format.fontSize format.leading

end PageGrid
