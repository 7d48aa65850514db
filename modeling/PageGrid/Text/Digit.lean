/-!
# Digits

The values of the hexadecimal digits, in either letter case, and of numbers written with them in a base
up to sixteen.
-/

namespace PageGrid.Text

/-- The value of a hexadecimal digit. -/
def hexValue (c : Char) : Option Nat :=
  if c.isDigit then some (c.toNat - '0'.toNat)
  else if 'a' ≤ c ∧ c ≤ 'f' then some (c.toNat - 'a'.toNat + 10)
  else if 'A' ≤ c ∧ c ≤ 'F' then some (c.toNat - 'A'.toNat + 10)
  else none

/-- The number that digits in a base stand for; a number has at least one digit. -/
def readCode (base : Nat) (digits : List Char) : Option Nat :=
  if digits.isEmpty then none
  else
    digits.foldlM (fun n c => (hexValue c).bind fun d => if d < base then some (base * n + d) else none)
      0

end PageGrid.Text
