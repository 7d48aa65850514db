import PageGrid.Text.Blank

/-!
# Scanners

A scanner reads a prefix of a list of characters: it answers `none`, or a value together with the
rest. Choice is ordered and unlimited: the second alternative starts where the first one started.
`many` needs no promise that its scanner consumes anything, since it runs at most as often as there
are characters left.

## Main definitions

* `Scan` — the type of scanners;
* `char`, `word`, `takeWhile`, `takeWhile1`, `blanks`, `padded` — pieces of text;
* `many`, `sepBy`, `sepBy1` — repetition;
* `Scan.all` — runs a scanner on a whole text and tells apart a mismatch from a rest.
-/

namespace PageGrid.Text

/-- A scanner of values. -/
abbrev Scan := StateT (List Char) Option

namespace Scan

variable {α β : Type}

/-- One character that satisfies the test. -/
def satisfy (test : Char → Bool) : Scan Char := fun s =>
  match s with
  | [] => none
  | c :: rest => if test c then some (c, rest) else none

/-- The given character. -/
def char (c : Char) : Scan Char := satisfy (· == c)

/-- The given characters in order. -/
def chars : List Char → Scan Unit
  | [], s => some ((), s)
  | _ :: _, [] => none
  | c :: cs, d :: rest => if c = d then chars cs rest else none

/-- The given text. -/
def word (text : String) : Scan Unit := chars text.toList

/-- The longest run of characters that satisfy the test. -/
def takeWhile (test : Char → Bool) : Scan (List Char) := fun s =>
  some (s.takeWhile test, s.dropWhile test)

/-- The longest run of characters that satisfy the test, at least one. -/
def takeWhile1 (test : Char → Bool) : Scan (List Char) := fun s =>
  match s.takeWhile test with
  | [] => none
  | run => some (run, s.dropWhile test)

/-- Any number of ASCII blanks. -/
def blanks : Scan Unit := fun s => some ((), s.dropWhile isAsciiBlank)

/-- The scanner between ASCII blanks. -/
def padded (p : Scan α) : Scan α := do
  blanks
  let a ← p
  blanks
  return a

/-- Succeeds without reading if the next character, if there is one, does not satisfy the test. -/
def notNext (test : Char → Bool) : Scan Unit := fun s =>
  match s with
  | [] => some ((), s)
  | c :: _ => if test c then none else some ((), s)

/-- The value of the scanner, or `none` without reading. -/
def maybe (p : Scan α) : Scan (Option α) := fun s =>
  match p s with
  | some (a, rest) => some (some a, rest)
  | none => some (none, s)

/-- Runs the scanner until it fails, at most `fuel` times. -/
def manyUpTo (p : Scan α) : Nat → List Char → List α × List Char
  | 0, s => ([], s)
  | fuel + 1, s =>
    match p s with
    | none => ([], s)
    | some (a, rest) =>
      let (as, rest) := manyUpTo p fuel rest
      (a :: as, rest)

/-- Runs the scanner until it fails. -/
def many (p : Scan α) : Scan (List α) := fun s => some (manyUpTo p s.length s)

/-- One or more values with separators between them. A separator that no value follows is left. -/
def sepBy1 (p : Scan α) (separator : Scan β) : Scan (List α) := do
  let a ← p
  let as ← many (separator *> p)
  return a :: as

/-- Any number of values with separators between them. -/
def sepBy (p : Scan α) (separator : Scan β) : Scan (List α) :=
  sepBy1 p separator <|> pure []

/-- What a scanner made of a whole text. -/
inductive Outcome (α : Type) where
  /-- The scanner read all of the text. -/
  | done (value : α)
  /-- The scanner stopped before the characters of `rest`. -/
  | stopped (rest : List Char)
  /-- The text has no prefix that the scanner accepts. -/
  | mismatch
  deriving DecidableEq, Repr

/-- Runs the scanner on a whole text. -/
def all (p : Scan α) (text : List Char) : Outcome α :=
  match p text with
  | none => .mismatch
  | some (a, []) => .done a
  | some (_, rest) => .stopped rest

end Scan

end PageGrid.Text
