import PageGrid.Expr.Context
import PageGrid.Text.UpperCase

/-!
# Built-in functions

Every built-in function has a name, perhaps two, a range for the number of its arguments, and a value
that depends on its arguments and the context. Functions that take an optional text or node use the
context node without it.

## Main definitions

* `CoreFunction` — the functions, with `names` and `arity`;
* `CoreFunction.apply` — their values.
-/

namespace PageGrid

/-- The built-in functions. -/
inductive CoreFunction where
  | true
  | false
  | not
  | boolean
  | position
  | last
  | count
  | empty
  | string
  | number
  | concat
  | contains
  | startsWith
  | stringLength
  | normalizeSpace
  | upperCase
  | sum
  | floor
  | ceiling
  | round
  | name
  deriving DecidableEq, Repr

namespace CoreFunction

/-- The functions by name. -/
def names : List (String × CoreFunction) :=
  [("true", .true), ("false", .false), ("not", .not), ("boolean", .boolean),
   ("position", .position), ("last", .last), ("count", .count), ("empty", .empty),
   ("string", .string), ("number", .number), ("concat", .concat), ("contains", .contains),
   ("starts-with", .startsWith), ("string-length", .stringLength),
   ("normalize-space", .normalizeSpace), ("upper-case", .upperCase), ("sum", .sum),
   ("floor", .floor), ("ceiling", .ceiling), ("round", .round), ("name", .name),
   ("local-name", .name)]

/-- The function of a name. -/
def ofName? (name : String) : Option CoreFunction :=
  (names.find? fun (n, _) => n = name).map (·.2)

/-- The least and the greatest number of arguments, if their number is checked. -/
def arity : CoreFunction → Option (Nat × Nat)
  | .true | .false => some (0, 0)
  | .not | .boolean | .count | .empty | .upperCase | .sum | .floor | .ceiling | .round => some (1, 1)
  | .string | .number | .stringLength | .normalizeSpace | .name => some (0, 1)
  | .contains | .startsWith => some (2, 2)
  | .position | .last | .concat => none

/-- The text of the first argument, or of the context node. -/
def textArgument (c : Context) : List Value → String
  | [] => c.nodeText
  | v :: _ => c.text v

/-- The numbers of a node set added up; of nothing, that is negative zero. -/
def total (numbers : List Float) : Float := numbers.foldl (· + ·) (-0.0)

/-- The local name of a node, empty if it has none. -/
def localName (c : Context) (node : Option Xml.Address) : Value :=
  .string ((node.bind c.document.name?).getD "")

/-- The value of a function whose number of arguments is right. -/
def apply (c : Context) (f : CoreFunction) (args : List Value) : Except CallFault Value :=
  match f, args with
  | .true, _ => .ok (.boolean Bool.true)
  | .false, _ => .ok (.boolean Bool.false)
  | .not, v :: _ => .ok (.boolean (!v.toBool))
  | .boolean, v :: _ => .ok (.boolean v.toBool)
  | .position, _ => .ok (.number (Float.ofNat c.position))
  | .last, _ => .ok (.number (Float.ofNat c.size))
  | .count, .nodes set :: _ => .ok (.number (Float.ofNat set.length))
  | .empty, v :: _ => .ok (.boolean (v.size == 0))
  | .string, args => .ok (.string (textArgument c args))
  | .number, [] => .ok (.number (numberOf c.nodeText))
  | .number, v :: _ => .ok (.number (c.number v))
  | .concat, args => .ok (.string (String.join (args.map c.text)))
  | .contains, v :: w :: _ => .ok (.boolean (Text.contains (c.text v).toList (c.text w).toList))
  | .startsWith, v :: w :: _ => .ok (.boolean ((c.text w).toList.isPrefixOf (c.text v).toList))
  | .stringLength, args => .ok (.number (Float.ofNat (textArgument c args).length))
  | .normalizeSpace, args => .ok (.string (Text.normalizeBlanks (textArgument c args)))
  | .upperCase, v :: _ => .ok (.string (Text.upperCase (c.text v)))
  | .sum, .nodes set :: _ =>
    .ok (.number (total (set.map fun a => numberOf (c.document.stringValue a))))
  | .floor, v :: _ => .ok (.number (Decimal.floor (c.number v)))
  | .ceiling, v :: _ => .ok (.number (Decimal.ceiling (c.number v)))
  | .round, v :: _ => .ok (.number (Decimal.floor (c.number v + 0.5)))
  | .name, [] => .ok (localName c c.node)
  | .name, .nodes set :: _ => .ok (localName c set.head?)
  | _, _ => .error .notNodes

/-- The value of a function, or why it refuses its arguments. -/
def call (c : Context) (f : CoreFunction) (args : List Value) : Except CallFault Value :=
  match f.arity with
  | some (least, most) =>
    if least ≤ args.length ∧ args.length ≤ most then f.apply c args
    else .error (.argumentCount least most args.length)
  | none => f.apply c args

end CoreFunction

end PageGrid
