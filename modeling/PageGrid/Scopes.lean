import PageGrid.Expr.Value

/-!
# Scopes of variables

Variables are bound in nested scopes around a global one, which is always there. A variable means its
innermost binding. An assignment changes the innermost binding there is, or makes a global one.

## Main definitions

* `Scopes` — the local scopes, innermost first, and the global one;
* `Scopes.lookup?`, `bind`, `assign` — access to variables;
* `Scopes.push`, `pop` — entering and leaving a scope.
-/

namespace PageGrid

/-- The bindings of one scope; a name is bound once. -/
abbrev Scope := List (String × Value)

namespace Scope

/-- The value of a name. -/
def lookup? (s : Scope) (name : String) : Option Value :=
  (s.find? fun (n, _) => n = name).map (·.2)

/-- The scope with a name bound to a value. -/
def bind (s : Scope) (name : String) (v : Value) : Scope :=
  (name, v) :: s.filter fun (n, _) => n ≠ name

end Scope

/-- Nested scopes, the innermost first, around a global one. -/
structure Scopes where
  inner : List Scope
  outermost : Scope

namespace Scopes

/-- The global scope without bindings. -/
def empty : Scopes := ⟨[], []⟩

/-- The innermost value of a name. -/
def lookup? (s : Scopes) (name : String) : Option Value :=
  (s.inner.findSome? (·.lookup? name)).or (s.outermost.lookup? name)

/-- Enters a scope. -/
def push (s : Scopes) : Scopes := { s with inner := [] :: s.inner }

/-- Leaves the innermost scope. The global scope cannot be left. -/
def pop (s : Scopes) : Scopes := { s with inner := s.inner.tail }

/-- Binds a name in the innermost scope. -/
def bind (s : Scopes) (name : String) (v : Value) : Scopes :=
  match s.inner with
  | scope :: rest => { s with inner := scope.bind name v :: rest }
  | [] => { s with outermost := s.outermost.bind name v }

/-- Changes the innermost scope of a list that binds a name, if one does. -/
def assignIn (name : String) (v : Value) : List Scope → Option (List Scope)
  | [] => none
  | scope :: rest =>
    if (scope.lookup? name).isSome then some (scope.bind name v :: rest)
    else (assignIn name v rest).map (scope :: ·)

/-- Changes the innermost binding of a name, or binds it globally. -/
def assign (s : Scopes) (name : String) (v : Value) : Scopes :=
  match assignIn name v s.inner with
  | some inner => { s with inner }
  | none => { s with outermost := s.outermost.bind name v }

end Scopes

end PageGrid
