import PageGrid.Json.Parser
import PageGrid.Json.Printer

/-!
# Codecs for JSON

How values become text, and what a text is read as, is up to a codec. A reader may have a limit to how
deeply arrays and objects are nested in what it reads, so that no text takes it too far down; it refuses
a text that goes beyond.

## Main definitions

* `Json.Codec` — a writer and a reader;
* `Json.codec` — the compact layout and the grammar without extensions.
-/

namespace PageGrid.Json

/-- A writer and a reader of values. -/
structure Codec where
  /-- The text of a value, on one line. -/
  write : Json → List Char
  /-- The value of a text, read with a limit to its nesting or without one; `none` if the text is
  malformed or nested too deeply. -/
  read : Option Nat → List Char → Option Json

/-- Whether arrays and objects are nested in a value within a limit, if there is one. -/
def isWithin (limit : Option Nat) (v : Json) : Bool :=
  match limit with
  | none => true
  | some n => nesting v ≤ n

/-- The compact layout and the grammar without extensions. -/
def codec : Codec where
  write := compactChars
  read limit text := (parseChars text).filter (isWithin limit)

end PageGrid.Json
