import PageGrid.Decimal.Notation
import PageGrid.Decimal.Reader
import PageGrid.NodeSet
import PageGrid.Text.Blank

/-!
# Values of expressions

A value is a node set, a text, a number or a truth value, and each kind converts to the others. A node
set converts by its first node, so conversions need the document.

## Main definitions

* `Value` — the values;
* `formatNumber`, `numberOf` — numbers as texts and texts as numbers;
* `Value.toBool`, `toNumber`, `toText` — the conversions;
* `Value.compare` — comparison, which on node sets asks for some pair of nodes.
-/

namespace PageGrid

open Xml (Address Document)

/-- A value of an expression. -/
inductive Value where
  | nodes (set : List Address)
  | string (s : String)
  | number (x : Float)
  | boolean (b : Bool)
  deriving Repr

/-- A number as a text: whole numbers below `1e15` without fraction and without a sign of zero. -/
def formatNumber (x : Float) : String :=
  if Decimal.isNaN x then "NaN"
  else if !Decimal.isFinite x then (if 0 < x then "Infinity" else "-Infinity")
  else if Decimal.isWhole x && Decimal.magnitude x < 1e15 then toString (Decimal.floorInt x)
  else Decimal.plain x

/-- The number that a text stands for, without the blanks around it. -/
def numberOf (s : String) : Float :=
  (Decimal.readFloat (Text.trimChars s.toList)).getD Decimal.notANumber

namespace Value

/-- The word for a truth value. -/
def boolText (b : Bool) : String := if b then "true" else "false"

/-- Whether the value counts as true: a node set or text that is not empty, a number other than zero
and not-a-number. -/
def toBool : Value → Bool
  | .nodes set => !set.isEmpty
  | .string s => !s.isEmpty
  | .number x => x != 0 && !Decimal.isNaN x
  | .boolean b => b

/-- The value as a text. -/
def toText (d : Document) : Value → String
  | .nodes [] => ""
  | .nodes (a :: _) => d.stringValue a
  | .string s => s
  | .number x => formatNumber x
  | .boolean b => boolText b

/-- The value as a number. -/
def toNumber (d : Document) : Value → Float
  | .nodes [] => numberOf ""
  | .nodes (a :: _) => numberOf (d.stringValue a)
  | .string s => numberOf s
  | .number x => x
  | .boolean b => if b then 1 else 0

/-- The number of items: of nodes, or one. -/
def size : Value → Nat
  | .nodes set => set.length
  | _ => 1

/-- What a message calls the value. -/
def describe : Value → String
  | .nodes set => s!"a node set of {set.length} node(s)"
  | .string s => s!"the string '{s}'"
  | .number x => s!"the number {formatNumber x}"
  | .boolean b => s!"the boolean {boolText b}"

/-! ### Comparison -/

/-- How two values can be compared. -/
inductive Comparison where
  | equal
  | notEqual
  | less
  | lessOrEqual
  | greater
  | greaterOrEqual
  deriving DecidableEq, Repr

/-- Compares two numbers. -/
def Comparison.numbers : Comparison → Float → Float → Bool
  | .equal, x, y => x == y
  | .notEqual, x, y => x != y
  | .less, x, y => x < y
  | .lessOrEqual, x, y => x ≤ y
  | .greater, x, y => y < x
  | .greaterOrEqual, x, y => y ≤ x

/-- A text or a number, which is what comparison is about in the end. -/
inductive Atom where
  | string (s : String)
  | number (x : Float)
  deriving Repr

/-- An atom as a number. -/
def Atom.toNumber : Atom → Float
  | .string s => numberOf s
  | .number x => x

/-- Compares two atoms. Two texts are compared as texts for equality, and as numbers for order. -/
def Comparison.atoms : Comparison → Atom → Atom → Bool
  | .equal, .string s, .string t => s == t
  | .notEqual, .string s, .string t => s != t
  | c, a, b => c.numbers a.toNumber b.toNumber

/-- The atoms of a value: the texts of all nodes, or one. -/
def toAtoms (d : Document) : Value → List Atom
  | .nodes set => set.map fun a => .string (d.stringValue a)
  | .string s => [.string s]
  | .number x => [.number x]
  | .boolean b => [.string (boolText b)]

/-- Whether the value is a truth value. -/
def isBoolean : Value → Bool
  | .boolean _ => true
  | _ => false

/-- Compares two values. Beside a truth value everything counts as one; otherwise some atom of the left
side has to compare with some atom of the right side. -/
def compare (d : Document) (c : Comparison) (left right : Value) : Bool :=
  if left.isBoolean || right.isBoolean then
    c.numbers (if left.toBool then 1 else 0) (if right.toBool then 1 else 0)
  else
    (left.toAtoms d).any fun a => (right.toAtoms d).any fun b => c.atoms a b

end Value

end PageGrid
