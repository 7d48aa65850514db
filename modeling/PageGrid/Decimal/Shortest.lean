import PageGrid.Decimal.Binary

/-!
# The shortest decimal that reads back

A finite positive float `v` is the value of every real in an interval around it, the rounding
interval; its ends belong to it exactly if the significand is even. Among the decimals in the
interval the ones with the fewest digits are the short forms of `v`, and of these the one nearest to
`v` is chosen. Two of them can be equally near; `Tie` says which one is taken then.

## Why testing two neighbours is enough

If a decimal grid `10 ^ k * ℤ` has a point in the interval, then one of the two grid points next to
`v` is in the interval too, since an interval that contains `v` and a point beyond a neighbour
contains the neighbour. So `shortest` tries one digit, two digits and so on, and looks only at these
two points, in exact arithmetic on whole numbers. Seventeen digits always suffice.

## Main definitions

* `Scaled` — `coefficient * 10 ^ exponent`;
* `Tie` — what decides between two decimals that are equally near;
* `RoundingInterval` — the reals that a float stands for, as fractions over one denominator;
* `shortest` — the short form described above.
-/

namespace PageGrid.Decimal

/-- The decimal number `coefficient * 10 ^ exponent`. -/
structure Scaled where
  coefficient : Nat
  exponent : Int
  deriving DecidableEq, Repr

/-- Which of two neighbouring decimals is taken if both are equally near. -/
inductive Tie where
  /-- The one whose last digit is even. -/
  | even
  /-- The greater one. -/
  | upper
  deriving DecidableEq, Repr

/-- Whether the lesser of two neighbours wins, given its coefficient. -/
def Tie.takesLower : Tie → Nat → Bool
  | .even, n => n % 2 == 0
  | .upper, _ => false

/-- Removes trailing zeros of the coefficient, at most `fuel` of them. -/
def Scaled.trimZeros : Nat → Scaled → Scaled
  | 0, d => d
  | fuel + 1, d =>
    if d.coefficient ≠ 0 ∧ d.coefficient % 10 = 0 then
      Scaled.trimZeros fuel ⟨d.coefficient / 10, d.exponent + 1⟩
    else d

/-- The reals from `low` to `high`, over the common denominator `unit`, around `value`; `closed`
tells whether the ends belong to it. -/
structure RoundingInterval where
  low : Nat
  value : Nat
  high : Nat
  unit : Nat
  closed : Bool
  deriving DecidableEq, Repr

/-- The reals that round to the binary fraction. Below a power of two the neighbouring floats are
twice as close, so the lower half of the interval is half as long, except at the smallest
exponent. -/
def RoundingInterval.ofBinary (b : Binary) : RoundingInterval :=
  let below : Nat := if b.significand = Nat.pow 2 52 ∧ b.exponent ≠ -1074 then 1 else 2
  let scale : Nat := Nat.pow 2 (b.exponent - 2).toNat
  { low := (4 * b.significand - below) * scale
    value := 4 * b.significand * scale
    high := (4 * b.significand + 2) * scale
    unit := Nat.pow 2 (2 - b.exponent).toNat
    closed := b.significand % 2 == 0 }

/-- Whether the decimal lies in the interval. -/
def RoundingInterval.contains (i : RoundingInterval) (d : Scaled) : Bool :=
  let point := d.coefficient * Nat.pow 10 d.exponent.toNat * i.unit
  let scale := Nat.pow 10 (-d.exponent).toNat
  if i.closed then decide (i.low * scale ≤ point) && decide (point ≤ i.high * scale)
  else decide (i.low * scale < point) && decide (point < i.high * scale)

/-- The distance of the decimal from the value, over the denominator
`unit * 10 ^ (-exponent)`. Distances of decimals with one exponent compare directly. -/
def RoundingInterval.distance (i : RoundingInterval) (d : Scaled) : Nat :=
  let point := d.coefficient * Nat.pow 10 d.exponent.toNat * i.unit
  let value := i.value * Nat.pow 10 (-d.exponent).toNat
  (point - value) + (value - point)

/-- The greatest multiple of `10 ^ exponent` that is not above the value, in units of that power. -/
def RoundingInterval.floorAt (i : RoundingInterval) (exponent : Int) : Nat :=
  i.value * Nat.pow 10 (-exponent).toNat / (i.unit * Nat.pow 10 exponent.toNat)

/-- The place of the leading decimal digit of the value: the `p` with `10 ^ p ≤ value < 10 ^ (p+1)`.
The estimate from the binary logarithm is off by at most one. -/
def RoundingInterval.leadingPlace (i : RoundingInterval) : Int :=
  let log2 : Int := (Nat.log2 i.value : Int) - (Nat.log2 i.unit : Int)
  let guess := log2 * 30103 / 100000
  if i.floorAt (guess + 1) ≠ 0 then guess + 1
  else if i.floorAt guess = 0 then guess - 1
  else guess

/-- The better of the two grid points next to the value that lie in the interval, if one does. -/
def RoundingInterval.pointAt (tie : Tie) (i : RoundingInterval) (exponent : Int) : Option Scaled :=
  let n := i.floorAt exponent
  let lower : Scaled := ⟨n, exponent⟩
  let upper : Scaled := ⟨n + 1, exponent⟩
  match i.contains lower, i.contains upper with
  | true, true =>
    if i.distance lower < i.distance upper then some lower
    else if i.distance upper < i.distance lower then some upper
    else if tie.takesLower n then some lower else some upper
  | true, false => some lower
  | false, true => some upper
  | false, false => none

/-- The first grid with a point in the interval, from the coarsest on. -/
def RoundingInterval.firstPoint (tie : Tie) (i : RoundingInterval) : Nat → Int → Scaled
  | 0, exponent => ⟨i.floorAt exponent, exponent⟩
  | fuel + 1, exponent =>
    match i.pointAt tie exponent with
    | some d => d
    | none => i.firstPoint tie fuel (exponent - 1)

/-- The shortest decimal that reads back as the absolute value of a finite float. -/
def shortest (tie : Tie) (x : Float) : Scaled :=
  let b := Binary.ofFloat x
  if b.significand = 0 then ⟨0, 0⟩
  else
    let i := RoundingInterval.ofBinary b
    (i.firstPoint tie 17 i.leadingPlace).trimZeros 17

end PageGrid.Decimal
