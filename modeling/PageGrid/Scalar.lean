import PageGrid.Decimal.Binary

/-!
# Scalars

Lengths are computed with floating-point numbers, and the laws of page geometry hold for exact
ones. The geometry is therefore written once, over any `Scalar`: arithmetic, comparison, the passage
from whole numbers to scalars and back, and the tolerance for counting cells. `Float` is the instance
that runs; `Rat` is the instance about which statements with exact arithmetic are made.

## Design

Nothing in the class is a law. A float that is not a number is comparable with nothing, so `larger`
and `smaller` are written such that it never wins against a number; over `Rat` they are the maximum
and the minimum.

Counts that come back from scalars are whole numbers from `0` to `countLimit`; what is greater is
cut to that limit and what is negative or not a number to zero.
-/

namespace PageGrid

/-- The greatest count of cells, pages or rows: thirty-two bits. -/
def countLimit : Nat := Nat.pow 2 32 - 1

/-- The sum of two counts in a word of thirty-two bits: beyond the limit it begins at zero again. In a
build that checks its sums the program stops there instead. -/
def wordSum (a b : Nat) : Nat := (a + b) % (countLimit + 1)

theorem wordSum_le (a b : Nat) : wordSum a b ≤ a + b := Nat.mod_le _ _

theorem wordSum_of_le {a b : Nat} (h : a + b ≤ countLimit) : wordSum a b = a + b :=
  Nat.mod_eq_of_lt (Nat.lt_succ_of_le h)

/-- Numbers that lengths are computed with. -/
class Scalar (α : Type) extends Zero α, One α, Add α, Sub α, Mul α, Div α, LT α, LE α where
  decideLT : DecidableLT α
  decideLE : DecidableLE α
  /-- A whole number as a scalar. -/
  ofInt : Int → α
  /-- The greatest whole number not above the scalar, within `0` and `countLimit`. -/
  floorCount : α → Nat
  /-- The least whole number not below the scalar, within `0` and `countLimit`. -/
  ceilCount : α → Nat
  /-- The tolerance of cell counts, in cell pitches: five thousandths. -/
  tolerance : α
  /-- Whether the scalar is a number other than an infinity. -/
  isFinite : α → Bool

namespace Scalar

variable {α : Type} [Scalar α]

instance : DecidableLT α := Scalar.decideLT

instance : DecidableLE α := Scalar.decideLE

/-- A natural number as a scalar. -/
def ofNat (n : Nat) : α := ofInt (n : Int)

/-- The greater of two scalars, the first if they are equal. What is not comparable with itself
loses. -/
def larger (a b : α) : α :=
  if a < b then b else if a ≤ a then a else b

/-- The lesser of two scalars, the first if they are equal. What is not comparable with itself
loses. -/
def smaller (a b : α) : α :=
  if b < a then b else if a ≤ a then a else b

end Scalar

/-- A whole number within `0` and `countLimit`. -/
def clampCount (n : Int) : Nat :=
  min n.toNat countLimit

instance : Scalar Float where
  zero := 0
  one := 1
  decideLT := inferInstance
  decideLE := inferInstance
  ofInt := Decimal.ofInt
  floorCount x :=
    if Decimal.isFinite x then clampCount (Decimal.floorInt x)
    else if 0 < x then countLimit else 0
  ceilCount x :=
    if Decimal.isFinite x then clampCount (Decimal.ceilInt x)
    else if 0 < x then countLimit else 0
  tolerance := 0.005
  isFinite := Decimal.isFinite

instance : Scalar Rat where
  zero := 0
  one := 1
  decideLT := inferInstance
  decideLE := inferInstance
  ofInt n := n
  floorCount x := clampCount x.floor
  ceilCount x := clampCount x.ceil
  tolerance := 5 / 1000
  isFinite _ := true

end PageGrid
