/-!
# Floating-point numbers as exact binary fractions

A finite `Float` is `± significand * 2 ^ exponent` with whole `significand` and `exponent`. `Binary`
is that reading, taken from the bit pattern, and everything below is exact arithmetic on it: rounding
to whole numbers, the remainder of a division, comparison with a power of ten. No operation here
asks the processor for more than the bit pattern, so every one of them also evaluates in the kernel.

## Main definitions

* `Binary.ofFloat` — the exact reading of a finite number;
* `floorInt`, `ceilInt` — the whole numbers next to a finite number;
* `floor`, `ceiling`, `remainder` — the same on `Float`, where not-a-number and the infinities pass
  through and a zero keeps the sign of its argument.
-/

namespace PageGrid.Decimal

/-- A signed binary fraction `(-1) ^ negative * significand * 2 ^ exponent`. -/
structure Binary where
  negative : Bool
  significand : Nat
  exponent : Int
  deriving DecidableEq, Repr

/-- The sign bit. Unlike a comparison with zero it also tells `-0.0` from `0.0`. -/
def signBit (x : Float) : Bool :=
  x.toBits.toNat / Nat.pow 2 63 == 1

/-- The eleven exponent bits; all ones stand for the infinities and not-a-number. -/
def exponentBits (x : Float) : Nat :=
  x.toBits.toNat / Nat.pow 2 52 % Nat.pow 2 11

/-- The fifty-two fraction bits. -/
def fractionBits (x : Float) : Nat :=
  x.toBits.toNat % Nat.pow 2 52

/-- Whether the number is neither infinite nor not-a-number. -/
def isFinite (x : Float) : Bool :=
  exponentBits x != 2047

/-- Whether the number is not-a-number. -/
def isNaN (x : Float) : Bool :=
  exponentBits x == 2047 && fractionBits x != 0

/-- The positive infinity. -/
def infinity : Float := Float.ofBits 0x7FF0000000000000

/-- The not-a-number value that computations here produce. -/
def notANumber : Float := Float.ofBits 0x7FF8000000000000

/-- The exact value of a finite number. The smallest exponent has no implicit leading bit. -/
def Binary.ofFloat (x : Float) : Binary :=
  let e := exponentBits x
  let f := fractionBits x
  if e = 0 then ⟨signBit x, f, -1074⟩ else ⟨signBit x, Nat.pow 2 52 + f, (e : Int) - 1075⟩

/-- Numerator and denominator of the absolute value. -/
def Binary.ratio (b : Binary) : Nat × Nat :=
  match b.exponent with
  | .ofNat e => (b.significand * Nat.pow 2 e, 1)
  | .negSucc e => (b.significand, Nat.pow 2 (e + 1))

/-- The greatest whole number that is not above a finite number. -/
def floorInt (x : Float) : Int :=
  let b := Binary.ofFloat x
  let (n, d) := b.ratio
  if b.negative then -(((n + (d - 1)) / d : Nat) : Int) else ((n / d : Nat) : Int)

/-- The least whole number that is not below a finite number. -/
def ceilInt (x : Float) : Int :=
  let b := Binary.ofFloat x
  let (n, d) := b.ratio
  if b.negative then -((n / d : Nat) : Int) else (((n + (d - 1)) / d : Nat) : Int)

/-- A whole number as the nearest float. -/
def ofInt : Int → Float
  | .ofNat n => Float.ofNat n
  | .negSucc n => -Float.ofNat (n + 1)

/-- A whole number as a float; zero takes the sign of `x`. -/
private def wholeLike (x : Float) (n : Int) : Float :=
  if n = 0 then (if signBit x then Float.ofBits 0x8000000000000000 else 0) else ofInt n

/-- The greatest whole number that is not above `x`. -/
def floor (x : Float) : Float :=
  if isFinite x then wholeLike x (floorInt x) else x

/-- The least whole number that is not below `x`. -/
def ceiling (x : Float) : Float :=
  if isFinite x then wholeLike x (ceilInt x) else x

/-- Whether a finite number is whole. -/
def isWhole (x : Float) : Bool :=
  floorInt x == ceilInt x

/-- The absolute value. -/
def magnitude (x : Float) : Float :=
  Float.ofBits (UInt64.ofNat (x.toBits.toNat % Nat.pow 2 63))

/-- The float `significand * 2 ^ exponent`, for a significand of at most fifty-three bits and an
exponent of at least `-1074`; such a number is exact. -/
private def assemble (negative : Bool) (significand : Nat) (exponent : Int) : Float :=
  let top : Nat := if negative then Nat.pow 2 63 else 0
  if significand = 0 then Float.ofBits (UInt64.ofNat top)
  else
    -- shift the leading bit to place 52 as far as the smallest exponent allows
    let shift : Nat := min (52 - Nat.log2 significand) (exponent + 1074).toNat
    let m := significand * Nat.pow 2 shift
    let e : Int := exponent - shift
    let biased : Nat := if m < Nat.pow 2 52 then 0 else (e + 1075).toNat
    Float.ofBits (UInt64.ofNat (top + biased * Nat.pow 2 52 + m % Nat.pow 2 52))

/-- The remainder of a division that rounds toward zero; it has the sign of the dividend and is
always exact. Not-a-number if the divisor is zero or the dividend is infinite. -/
def remainder (x y : Float) : Float :=
  if isNaN x || isNaN y || !isFinite x then notANumber
  else if !isFinite y then x
  else
    let a := Binary.ofFloat x
    let b := Binary.ofFloat y
    if b.significand = 0 then notANumber
    else
      let e := min a.exponent b.exponent
      let m := a.significand * Nat.pow 2 (a.exponent - e).toNat
      let n := b.significand * Nat.pow 2 (b.exponent - e).toNat
      assemble a.negative (m % n) e

end PageGrid.Decimal
