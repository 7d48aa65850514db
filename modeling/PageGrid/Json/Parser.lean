import PageGrid.Decimal.Reader
import PageGrid.Json.Basic
import PageGrid.Text.Digit
import PageGrid.Text.Scan

/-!
# Reading JSON

The grammar of JSON without extensions: no comments, no trailing commas, no leading zeros, no raw
control characters inside strings. A pair of surrogate escapes is one character, a lone one is an
error. The nesting of arrays and objects is limited only by the length of the text.

## Numbers

A number with a fraction or an exponent is not the float nearest to its decimal: it is computed in two
roundings from the leading digits, as many as fit into sixty-four bits, and a power of ten (`scale`). Up
to fifteen digits the result is the nearest float all the same. A number too great for a float is
infinite, and no reader of values accepts it as a float.

## Main definitions

* `Json.parse` — the value of a whole text, `none` if the text is no JSON.
-/

namespace PageGrid.Json

open Text (Scan)

/-- Skips the blanks between tokens. -/
def skip : Scan Unit := Scan.blanks

/-- Four hexadecimal digits. -/
def hexFour : Scan Nat := fun s =>
  match s with
  | a :: b :: c :: d :: rest => do
    let a ← Text.hexValue a
    let b ← Text.hexValue b
    let c ← Text.hexValue c
    let d ← Text.hexValue d
    some (((a * 16 + b) * 16 + c) * 16 + d, rest)
  | _ => none

/-- The character of a `\u` escape, whose letter has been read. -/
def unicodeEscape : Scan Char := do
  let n ← hexFour
  if 0xD800 ≤ n ∧ n < 0xDC00 then
    Scan.word "\\u"
    let m ← hexFour
    if 0xDC00 ≤ m ∧ m < 0xE000 then
      return Char.ofNat (0x10000 + (n - 0xD800) * 0x400 + (m - 0xDC00))
    else failure
  else if 0xDC00 ≤ n ∧ n < 0xE000 then failure
  else return Char.ofNat n

/-- The character of an escape, whose backslash has been read. -/
def escape : Scan Char := fun s =>
  match s with
  | '"' :: rest => some ('"', rest)
  | '\\' :: rest => some ('\\', rest)
  | '/' :: rest => some ('/', rest)
  | 'b' :: rest => some (Char.ofNat 8, rest)
  | 'f' :: rest => some (Char.ofNat 12, rest)
  | 'n' :: rest => some ('\n', rest)
  | 'r' :: rest => some ('\r', rest)
  | 't' :: rest => some ('\t', rest)
  | 'u' :: rest => unicodeEscape rest
  | _ => none

/-- One character of a string. -/
def stringChar : Scan Char := fun s =>
  match s with
  | '\\' :: rest => escape rest
  | c :: rest => if c = '"' ∨ c.toNat < 32 then none else some (c, rest)
  | [] => none

/-- A string in quotes. -/
def quoted : Scan String := do
  let _ ← Scan.char '"'
  let cs ← Scan.many stringChar
  let _ ← Scan.char '"'
  return String.ofList cs

/-- The digits of a whole number: a zero alone, or digits that do not start with one. -/
def wholeDigits : Scan (List Char) :=
  (do
    let _ ← Scan.char '0'
    Scan.notNext Char.isDigit
    return ['0']) <|>
  (do
    Scan.notNext (· == '0')
    Scan.takeWhile1 Char.isDigit)

/-- The digits of the fraction of a number. -/
def fraction : Scan (List Char) := Scan.char '.' *> Scan.takeWhile1 Char.isDigit

/-- The sign and the digits of the exponent of a number. -/
def exponent : Scan (List Char) := do
  let _ ← Scan.char 'e' <|> Scan.char 'E'
  let sign ← Scan.maybe (Scan.char '+' <|> Scan.char '-')
  let ds ← Scan.takeWhile1 Char.isDigit
  return sign.toList ++ ds

/-- The greatest significand: sixty-four bits. -/
def significandLimit : Nat := Nat.pow 2 64 - 1

/-- Appends the digits of the whole part to a significand as long as it stays within its limit. Every
digit after that counts for the exponent only. -/
def pushWhole (significand exponent : Nat) : List Char → Nat × Nat
  | [] => (significand, exponent)
  | c :: cs =>
    let next := 10 * significand + Decimal.digitsValue [c]
    if exponent = 0 ∧ next ≤ significandLimit then pushWhole next 0 cs
    else pushWhole significand (exponent + 1) cs

/-- Appends the digits of the fraction to a significand as long as it stays within its limit, and drops
the others. -/
def pushFraction (significand : Nat) (exponent : Int) : List Char → Nat × Int
  | [] => (significand, exponent)
  | c :: cs =>
    let next := 10 * significand + Decimal.digitsValue [c]
    if next ≤ significandLimit then pushFraction next (exponent - 1) cs else (significand, exponent)

/-- The float of a significand and a power of ten, rounded twice: the significand becomes a float, which
is then multiplied or divided by the float nearest to the power. An exponent below the least power of
the table is divided off in two steps. -/
def scale (significand : Nat) (exponent : Int) : Float :=
  let x := Float.ofNat significand
  let power (n : Nat) : Float := Decimal.ofDecimal 1 n
  if significand = 0 then 0
  else if 0 ≤ exponent then (if exponent ≤ 308 then x * power exponent.toNat else Decimal.infinity)
  else if -308 ≤ exponent then x / power (-exponent).toNat
  else if -616 ≤ exponent then x / power 308 / power (-exponent - 308).toNat
  else 0

/-- The float of a number with the given digits and the given exponent. -/
def floatOf (negative : Bool) (whole fraction : List Char) (exponent : Int) : Float :=
  let (significand, extra) := pushWhole 0 0 whole
  let (significand, shift) := pushFraction significand extra fraction
  let x := scale significand (shift + exponent)
  if negative then -x else x

/-- The value of an exponent as written. -/
def exponentValue : List Char → Int
  | '-' :: ds => -(Decimal.digitsValue ds : Int)
  | '+' :: ds => Decimal.digitsValue ds
  | ds => Decimal.digitsValue ds

/-- The least and the greatest whole number that is kept exactly: sixty-four bits, with a sign below
zero. -/
def isExact (n : Int) : Bool := -(Nat.pow 2 63) ≤ n && n ≤ significandLimit

/-- A number. A negative zero is a float, since no whole number has a sign without a value, and so is a
whole number that is too great to be kept exactly. -/
def numeral : Scan Json := do
  let sign ← Scan.maybe (Scan.char '-')
  let whole ← wholeDigits
  let fraction ← Scan.maybe fraction
  let exponent ← Scan.maybe exponent
  let magnitude : Int := Decimal.digitsValue whole
  let n := if sign.isSome then -magnitude else magnitude
  if fraction.isNone && exponent.isNone && isExact n && !(sign.isSome && n == 0) then
    return .whole n
  else
    return .number (floatOf sign.isSome whole (fraction.getD [])
      ((exponent.map exponentValue).getD 0))

/-- Items between two brackets, with commas between them. -/
def bracketed {α : Type} (opening closing : Char) (item : Scan α) : Scan (List α) := do
  let _ ← Scan.char opening
  skip
  let items ← Scan.sepBy item (skip *> Scan.char ',' *> skip)
  skip
  let _ ← Scan.char closing
  return items

/-- A member of an object, given how to read values. -/
def memberWith (value : Scan Json) : Scan (String × Json) := do
  let key ← quoted
  skip
  let _ ← Scan.char ':'
  skip
  let v ← value
  return (key, v)

/-- A value of nesting depth below `fuel`. -/
def value : Nat → Scan Json
  | 0 => failure
  | fuel + 1 =>
    (Scan.word "null" *> pure .null) <|>
    (Scan.word "true" *> pure (.bool true)) <|>
    (Scan.word "false" *> pure (.bool false)) <|>
    (.string <$> quoted) <|>
    (.array <$> bracketed '[' ']' (value fuel)) <|>
    (.object <$> bracketed '\x7b' '\x7d' (memberWith (value fuel))) <|>
    numeral

/-- The value of a whole text. -/
def parseChars (text : List Char) : Option Json :=
  match (Scan.padded (value (text.length + 1))).all text with
  | .done v => some v
  | _ => none

/-- The value of a whole text. -/
def parse (text : String) : Option Json := parseChars text.toList

end PageGrid.Json
