import PageGrid.Log

/-!
# Computations that report

Evaluating an expression may leave remarks for the log even if it fails in the end. `Noted ε α` is an
outcome, an error or a value, together with these remarks in the order in which they arose.

## Main definitions

* `Noted` — an outcome with remarks, and its monad;
* `Noted.fail`, `Noted.note`, `Noted.ofExcept` — the ways to make one.
-/

namespace PageGrid

/-- The outcome of a computation, and what it reported. -/
structure Noted (ε α : Type) where
  outcome : Except ε α
  notices : List LogEntry

namespace Noted

variable {ε ε' α β : Type}

/-- A value without remarks. -/
def value (a : α) : Noted ε α := ⟨.ok a, []⟩

/-- An error without further remarks. -/
def fail (e : ε) : Noted ε α := ⟨.error e, []⟩

/-- A remark. -/
def note (entry : LogEntry) : Noted ε Unit := ⟨.ok (), [entry]⟩

/-- An outcome without remarks. -/
def ofExcept (r : Except ε α) : Noted ε α := ⟨r, []⟩

/-- Goes on with the value of a computation. -/
def andThen (x : Noted ε α) (f : α → Noted ε β) : Noted ε β :=
  match x.outcome with
  | .error e => ⟨.error e, x.notices⟩
  | .ok a =>
    let y := f a
    ⟨y.outcome, x.notices ++ y.notices⟩

instance : Monad (Noted ε) where
  pure := value
  bind := andThen

/-- The same computation with another error. -/
def mapError (f : ε → ε') (x : Noted ε α) : Noted ε' α :=
  ⟨x.outcome.mapError f, x.notices⟩

end Noted

end PageGrid
