import PageGrid.Decimal.Reader
import PageGrid.Geometry
import PageGrid.Text.Scan

/-!
# Lengths, extents and margins as text

A length is a signed decimal without exponent, followed at once by a unit or by nothing, which means
points. An extent reads the same texts, but a number without unit counts cells. Margins are one, two
or four lengths, separated by blanks and tabs, in the order of style sheets. Blanks around the whole
are ignored.

## Main definitions

* `Extent` — cells or a length;
* `readLength`, `readExtent`, `readMargins` — the readers;
* `LengthError` — why a text is refused, with its wording in `LengthError.message`.
-/

namespace PageGrid

open Text (Scan)

/-- A size given in grid cells or as a length in points. -/
inductive Extent (α : Type) where
  | cells (count : α)
  | length (points : α)
  deriving DecidableEq, Repr

/-- Why a text is no length, extent or list of margins. -/
inductive LengthError where
  /-- The text does not begin with a number. -/
  | noNumber
  /-- There is more after the number and its unit. -/
  | remainder (rest : String)
  /-- The text is not a list of lengths. -/
  | noMargins (input : String)
  /-- The list has another number of lengths than one, two or four. -/
  | marginCount (count : Nat)
  deriving DecidableEq, Repr

/-- The wording of a refusal. -/
def LengthError.message : LengthError → String
  | .noNumber => "Parse error: Parsing Error"
  | .remainder rest => s!"Parse error: Parser did not consume all input. Remainder: '{rest}'"
  | .noMargins input => s!"Parse error: Failed to parse margins value: '{input}'"
  | .marginCount count =>
    "Parse error: Invalid number of values for margin shorthand: " ++
      s!"got {count}, expected 1, 2, or 4."

namespace Length

/-- The sign of a number, if there is one. -/
def sign : Scan (List Char) := do
  let c ← Scan.maybe (Scan.char '+' <|> Scan.char '-')
  return c.toList

/-- Digits with an optional fraction, or a fraction alone. -/
def magnitude : Scan (List Char) :=
  (do
    let whole ← Scan.takeWhile1 Char.isDigit
    let fraction ← Scan.maybe (Scan.char '.' *> Scan.takeWhile1 Char.isDigit)
    return whole ++ (fraction.map ('.' :: ·)).getD []) <|>
  (do
    let _ ← Scan.char '.'
    let fraction ← Scan.takeWhile1 Char.isDigit
    return '.' :: fraction)

/-- A signed decimal without exponent. -/
def number : Scan Float := do
  let s ← sign
  let m ← magnitude
  match Decimal.readFloat (s ++ m) with
  | some x => return x
  | none => failure

/-- The units with their length in points. -/
def units : List (String × Float) :=
  [("pt", 1), ("px", 1), ("in", 72), ("cm", 72 / 2.54), ("mm", 72 / 25.4), ("pc", 12)]

/-- A unit in any letter case, as its length in points. -/
def unit : Scan Float := fun s =>
  match units.find? fun (name, _) => (s.take 2).map Char.toLower == name.toList with
  | some (_, points) => some (points, s.drop 2)
  | none => none

/-- A number with an optional unit, in points. -/
def length : Scan Float := do
  let x ← number
  let points ← Scan.maybe unit
  return x * points.getD 1

/-- A number with a unit, as a length, or without one, as a count of cells. -/
def extent : Scan (Extent Float) := do
  let x ← number
  match ← Scan.maybe unit with
  | some points => return .length (x * points)
  | none => return .cells x

/-- Blanks or tabs, at least one. -/
def gap : Scan (List Char) := Scan.takeWhile1 fun c => c == ' ' || c == '\t'

/-- Reads a whole text without the blanks around it. -/
def readWhole {α : Type} (p : Scan α) (input : String) : Except LengthError α :=
  match p.all (Text.trimChars input.toList) with
  | .done a => .ok a
  | .stopped rest => .error (.remainder (String.ofList rest))
  | .mismatch => .error .noNumber

end Length

/-- The length in points that a text stands for. -/
def readLength (input : String) : Except LengthError Float :=
  Length.readWhole Length.length input

/-- The extent that a text stands for. -/
def readExtent (input : String) : Except LengthError (Extent Float) :=
  Length.readWhole Length.extent input

/-- The margins that a text stands for: one length for all sides, two for vertical and horizontal
sides, four for top, right, bottom and left. -/
def readMargins (input : String) : Except LengthError (Margins Float) :=
  match (Scan.sepBy1 Length.length Length.gap).all (Text.trimChars input.toList) with
  | .done [a] => .ok (.all a)
  | .done [v, h] => .ok ⟨v, h, v, h⟩
  | .done [t, r, b, l] => .ok ⟨t, r, b, l⟩
  | .done lengths => .error (.marginCount lengths.length)
  | _ => .error (.noMargins input)

end PageGrid
