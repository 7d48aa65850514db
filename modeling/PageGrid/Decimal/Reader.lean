import PageGrid.Decimal.Binary

/-!
# Reading numbers

`readFloat` accepts an optional sign followed by digits with an optional point (at least one digit on
one side of it) and an optional exponent, or one of the words `inf`, `infinity` and `nan` in any
letter case. The value is the float nearest to the written decimal. `readNat` and `readInt` accept an
optional sign and digits; a limit is given by the caller.

Blanks are no part of a number: callers trim where their format allows blanks.
-/

namespace PageGrid.Decimal

/-- The value of a run of decimal digits. -/
def digitsValue (cs : List Char) : Nat :=
  cs.foldl (fun n c => 10 * n + (c.toNat - '0'.toNat)) 0

/-- The float nearest to `coefficient * 10 ^ exponent`. Beyond four hundred places the answer is
known without the digits. -/
def ofDecimal (coefficient : Nat) (exponent : Int) : Float :=
  let size : Int := exponent + (Nat.toDigits 10 coefficient).length
  if coefficient = 0 then 0
  else if 400 < size then infinity
  else if size < -400 then 0
  else Float.ofScientific coefficient (decide (exponent < 0)) exponent.natAbs

/-- Splits a leading sign off; `true` for a minus. -/
def splitSign : List Char → Bool × List Char
  | '-' :: cs => (true, cs)
  | '+' :: cs => (false, cs)
  | cs => (false, cs)

/-- The exponent part of a number, which is the rest of the text: nothing, or the letter `e`, an
optional sign and at least one digit. -/
def readExponent : List Char → Option Int
  | [] => some 0
  | c :: cs =>
    if c = 'e' ∨ c = 'E' then
      let (negative, ds) := splitSign cs
      if ds.isEmpty ∨ !ds.all Char.isDigit then none
      else
        let n : Int := digitsValue ds
        some (if negative then -n else n)
    else none

/-- An unsigned decimal with optional fraction and exponent. -/
def readMagnitude (cs : List Char) : Option Float :=
  let whole := cs.takeWhile Char.isDigit
  let rest := cs.dropWhile Char.isDigit
  let (fraction, rest) :=
    match rest with
    | '.' :: r => (r.takeWhile Char.isDigit, r.dropWhile Char.isDigit)
    | r => ([], r)
  if whole.isEmpty ∧ fraction.isEmpty then none
  else
    (readExponent rest).map fun e =>
      ofDecimal (digitsValue (whole ++ fraction)) (e - fraction.length)

/-- The float a text stands for. -/
def readFloat (cs : List Char) : Option Float :=
  let (negative, body) := splitSign cs
  let word := body.map Char.toLower
  let magnitude :=
    if word = "inf".toList ∨ word = "infinity".toList then some infinity
    else if word = "nan".toList then some notANumber
    else readMagnitude body
  magnitude.map fun x => if negative then -x else x

/-- The whole number from `0` to `limit` that a text stands for; a plus sign is allowed. -/
def readNat (limit : Nat) (cs : List Char) : Option Nat :=
  let ds := match cs with
    | '+' :: ds => ds
    | ds => ds
  if ds.isEmpty ∨ !ds.all Char.isDigit then none
  else
    let n := digitsValue ds
    if n ≤ limit then some n else none

/-- The whole number from `-limit - 1` to `limit` that a text stands for. -/
def readInt (limit : Nat) (cs : List Char) : Option Int :=
  let (negative, ds) := splitSign cs
  if ds.isEmpty ∨ !ds.all Char.isDigit then none
  else
    let n : Int := digitsValue ds
    let n := if negative then -n else n
    if -(limit : Int) - 1 ≤ n ∧ n ≤ limit then some n else none

end PageGrid.Decimal
