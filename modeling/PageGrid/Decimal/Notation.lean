import PageGrid.Decimal.Shortest

/-!
# Written forms of numbers

Three forms of a float occur in what this library writes:

* **plain** — the shortest digits, always positional and without a needless fraction
  (`3`, `-0.25`, `0.0000001`), the greater of two short forms that are equally near: messages, attribute
  values and the side file of a job;
* **JSON** — the shortest digits with a fraction or an exponent (`10.0`, `1e-6`, `1e+16`), positional
  from `1e-5` up to below `1e16`, the even one of two short forms that are equally near;
* **fixed** — two places, rounded from the exact value, a half going to the even neighbour:
  lengths in messages.

The string value of a number in an expression is a fourth form, built from the first (`Expr.Value`).
-/

namespace PageGrid.Decimal

/-- The decimal digits of a whole number, `0` for zero. -/
def digits (n : Nat) : List Char := Nat.toDigits 10 n

/-- `width` copies of the digit zero. -/
def zeros (width : Nat) : List Char := List.replicate width '0'

/-- Whole part and fraction of a decimal, written out; the fraction may be empty. -/
def Scaled.positional (d : Scaled) : List Char × List Char :=
  let cs := digits d.coefficient
  if 0 ≤ d.exponent then (if d.coefficient = 0 then ['0'] else cs ++ zeros d.exponent.toNat, [])
  else
    let places := (-d.exponent).toNat
    if places < cs.length then (cs.take (cs.length - places), cs.drop (cs.length - places))
    else (['0'], zeros (places - cs.length) ++ cs)

/-- The power of ten of the leading digit. -/
def Scaled.leadingExponent (d : Scaled) : Int :=
  d.exponent + (digits d.coefficient).length - 1

/-- The sign in front of a written number. A negative zero keeps its sign. -/
private def sign (x : Float) : List Char :=
  if signBit x then ['-'] else []

/-- The texts of the values that have no digits. -/
private def nonFinite (x : Float) : List Char :=
  if isNaN x then "NaN".toList else sign x ++ "inf".toList

/-- The plain form: always positional, no fraction when the number is whole. -/
def plain (x : Float) : String :=
  String.ofList <|
    if !isFinite x then nonFinite x
    else
      let (whole, fraction) := (shortest .upper x).positional
      sign x ++ whole ++ (if fraction.isEmpty then [] else '.' :: fraction)

/-- The JSON form of a finite number: positional with a fraction for magnitudes from `1e-5` up to
below `1e16`, else one digit, the further digits after a point, and a signed exponent. -/
def json (x : Float) : String :=
  String.ofList <|
    let d := shortest .even x
    let e := d.leadingExponent
    if d.coefficient = 0 ∨ (-5 ≤ e ∧ e < 16) then
      let (whole, fraction) := d.positional
      sign x ++ whole ++ '.' :: (if fraction.isEmpty then ['0'] else fraction)
    else
      let cs := digits d.coefficient
      let fraction := cs.drop 1
      sign x ++ cs.take 1 ++ (if fraction.isEmpty then [] else '.' :: fraction) ++
        'e' :: (if e < 0 then '-' else '+') :: digits e.natAbs

/-- A fraction of whole numbers as the nearest whole number, a half going to the even neighbour. -/
def roundHalfEven (num den : Nat) : Nat :=
  let q := num / den
  let r := num % den
  if 2 * r < den then q
  else if den < 2 * r then q + 1
  else if q % 2 = 0 then q else q + 1

/-- The form with two places after the point. -/
def twoPlaces (x : Float) : String :=
  String.ofList <|
    if !isFinite x then nonFinite x
    else
      let (n, d) := (Binary.ofFloat x).ratio
      let hundredths := roundHalfEven (n * 100) d
      sign x ++ digits (hundredths / 100) ++
        '.' :: (if hundredths % 100 < 10 then '0' :: digits (hundredths % 100)
                else digits (hundredths % 100))

end PageGrid.Decimal
