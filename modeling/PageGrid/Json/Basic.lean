import PageGrid.Decimal.Notation

/-!
# JSON values

A JSON value as read, or as it will be written. The members of an object keep their order, and a key
may occur more than once: a reader that forbids repetition says so itself. A number without fraction
and exponent is `whole` and exact; any other number is a float.

## Main definitions

* `Json` — the values;
* `Json.ofFloat` — a float as a value, `null` if it is not finite;
* `Json.float?`, `Json.string?`, … — typed views of a value;
* `Json.member` — a member that must occur, and once;
* `Json.nesting` — how deeply arrays and objects are nested in a value.
-/

namespace PageGrid

/-- A JSON value. -/
inductive Json where
  | null
  | bool (value : Bool)
  | whole (value : Int)
  | number (value : Float)
  | string (value : String)
  | array (items : List Json)
  | object (members : List (String × Json))
  deriving Repr, Inhabited

namespace Json

/-- A float as a value. JSON has no infinities and no not-a-number. -/
def ofFloat (x : Float) : Json :=
  if Decimal.isFinite x then .number x else .null

/-- A natural number as a value. -/
def ofNat (n : Nat) : Json := .whole n

/-- The finite number that a value stands for. -/
def float? : Json → Option Float
  | .whole n => some (Decimal.ofInt n)
  | .number x => if Decimal.isFinite x then some x else none
  | _ => none

/-- The natural number that a value stands for. -/
def nat? : Json → Option Nat
  | .whole (.ofNat n) => some n
  | _ => none

/-- The text that a value stands for. -/
def string? : Json → Option String
  | .string s => some s
  | _ => none

/-- The truth value that a value stands for. -/
def bool? : Json → Option Bool
  | .bool b => some b
  | _ => none

/-- The items of an array. -/
def array? : Json → Option (List Json)
  | .array items => some items
  | _ => none

/-- The values of all members with the given key. -/
def valuesOf (key : String) (members : List (String × Json)) : List Json :=
  members.filterMap fun (k, v) => if k = key then some v else none

/-- The member with the given key, which must occur exactly once. -/
def member (key : String) (members : List (String × Json)) : Option Json :=
  match valuesOf key members with
  | [v] => some v
  | _ => none

mutual

/-- How deeply arrays and objects are nested in a value. -/
def nesting : Json → Nat
  | .array items => nestingOfItems items + 1
  | .object members => nestingOfMembers members + 1
  | _ => 0

/-- How deeply arrays and objects are nested in items. -/
def nestingOfItems : List Json → Nat
  | [] => 0
  | v :: vs => max (nesting v) (nestingOfItems vs)

/-- How deeply arrays and objects are nested in members. -/
def nestingOfMembers : List (String × Json) → Nat
  | [] => 0
  | (_, v) :: ms => max (nesting v) (nestingOfMembers ms)

end

end Json

end PageGrid
