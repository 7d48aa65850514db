import Mathlib.Tactic.SplitIfs
import PageGrid.Scopes

/-!
# Assignments through scopes

An assignment goes to the innermost scope that binds the variable. Seen from within it always takes effect:
the variable has the value afterwards (`lookup?_assign`). When a scope is left, the assignments to the
variables that the scope binds are lost with it, and all others are there as if the scope had never been
(`pop_assignAll`). Which variables a scope binds is settled when it is entered, since no assignment adds a
binding to it.

## Main definitions

* `Scopes.assignAll` — assignments, one after the other;
* `lastAssigned?` — the value that a variable is assigned last.

## Main results

* `lookup?_assignAll` — variables after assignments;
* `pop_assignAll` — what is left of assignments when a scope is left.
-/

namespace PageGrid

/-! ### Single scopes -/

theorem Scope.lookup?_cons (name : String) (v : Value) (scope : Scope) (n : String) :
    Scope.lookup? ((name, v) :: scope) n = if name = n then some v else scope.lookup? n := by
  rw [lookup?, List.find?_cons]
  by_cases h : name = n <;> simp [h, lookup?]

theorem Scope.lookup?_bind (scope : Scope) (name : String) (v : Value) (n : String) :
    (scope.bind name v).lookup? n = if n = name then some v else scope.lookup? n := by
  rw [bind, lookup?_cons]
  by_cases h : n = name
  · rw [if_pos h, if_pos h.symm]
  · rw [if_neg h, if_neg (Ne.symm h), lookup?, lookup?, List.find?_filter]
    congr 2
    funext p
    by_cases hp : p.1 = n <;> simp [hp, h]

/-! ### Nested scopes -/

namespace Scopes

/-- The scopes with one more inside. -/
def within (s : Scopes) (scope : Scope) : Scopes := ⟨scope :: s.inner, s.outermost⟩

theorem push_eq (s : Scopes) : s.push = s.within [] := rfl

theorem push_bind_eq (s : Scopes) (name : String) (v : Value) :
    s.push.bind name v = s.within [(name, v)] := rfl

theorem lookup?_within (s : Scopes) (scope : Scope) (n : String) :
    (s.within scope).lookup? n = (scope.lookup? n).or (s.lookup? n) := by
  rw [lookup?, within, List.findSome?_cons]
  cases scope.lookup? n <;> rfl

/-- An assignment changes the innermost scope if this binds the variable, and else the scopes around it. -/
theorem assign_within (s : Scopes) (scope : Scope) (name : String) (v : Value) :
    (s.within scope).assign name v =
      if (scope.lookup? name).isSome then s.within (scope.bind name v)
      else (s.assign name v).within scope := by
  rw [assign, within, assignIn]
  split_ifs with hbound
  · rfl
  · rw [assign]
    cases assignIn name v s.inner <;> rfl

/-- **An assignment takes effect**, whichever scope it goes to. By induction on the inner scopes. -/
theorem lookup?_assign (s : Scopes) (name : String) (v : Value) (n : String) :
    (s.assign name v).lookup? n = if n = name then some v else s.lookup? n := by
  obtain ⟨inner, outermost⟩ := s
  induction inner with
  | nil => exact outermost.lookup?_bind name v n
  | cons scope inner ih =>
    have hassign := assign_within ⟨inner, outermost⟩ scope name v
    rw [within] at hassign
    rw [hassign]
    split_ifs with hbound hn hn
    · rw [lookup?_within, Scope.lookup?_bind, if_pos hn, Option.some_or]
    · rw [lookup?_within, Scope.lookup?_bind, if_neg hn, ← lookup?_within]
      rfl
    · subst hn
      rw [lookup?_within, Option.not_isSome_iff_eq_none.mp hbound, Option.none_or, ih, if_pos rfl]
    · rw [lookup?_within, ih, if_neg hn, ← lookup?_within]
      rfl

/-- The scopes after assignments, one after the other. -/
def assignAll (s : Scopes) (assigned : List (String × Value)) : Scopes :=
  assigned.foldl (fun s a => s.assign a.1 a.2) s

theorem assignAll_append (s : Scopes) (first second : List (String × Value)) :
    s.assignAll (first ++ second) = (s.assignAll first).assignAll second :=
  List.foldl_append

end Scopes

/-- The value that a variable is assigned last. -/
def lastAssigned? (assigned : List (String × Value)) (n : String) : Option Value :=
  Scope.lookup? assigned.reverse n

theorem lastAssigned?_cons (a : String × Value) (assigned : List (String × Value)) (n : String) :
    lastAssigned? (a :: assigned) n =
      (lastAssigned? assigned n).or (if n = a.1 then some a.2 else none) := by
  rw [lastAssigned?, List.reverse_cons, Scope.lookup?, List.find?_append, Option.map_or]
  congr 1
  by_cases hn : n = a.1
  · simp [hn]
  · simp [hn, Ne.symm hn]

/-- Assignments to one variable left out. -/
theorem lastAssigned?_filter_ne (assigned : List (String × Value)) (name n : String) :
    lastAssigned? (assigned.filter (·.1 ≠ name)) n =
      if n = name then none else lastAssigned? assigned n := by
  induction assigned with
  | nil => simp [lastAssigned?, Scope.lookup?]
  | cons a assigned ih =>
    rw [List.filter_cons, lastAssigned?_cons]
    by_cases ha : a.1 = name
    · rw [if_neg (by simpa using ha), ih]
      by_cases hn : n = name
      · rw [if_pos hn, if_pos hn]
      · rw [if_neg hn, if_neg hn, if_neg (ha ▸ hn), Option.or_none]
    · rw [if_pos (by simpa using ha), lastAssigned?_cons, ih]
      by_cases hn : n = name
      · rw [if_pos hn, if_pos hn, if_neg (hn ▸ Ne.symm ha), Option.or_none]
      · rw [if_neg hn, if_neg hn]

namespace Scopes

/-- **Variables after assignments.** -/
theorem lookup?_assignAll (s : Scopes) (assigned : List (String × Value)) (n : String) :
    (s.assignAll assigned).lookup? n = (lastAssigned? assigned n).or (s.lookup? n) := by
  induction assigned generalizing s with
  | nil => rfl
  | cons a assigned ih =>
    change ((s.assign a.1 a.2).assignAll assigned).lookup? n = _
    rw [ih, lookup?_assign, lastAssigned?_cons, Option.or_assoc]
    by_cases hn : n = a.1
    · rw [if_pos hn, if_pos hn, Option.some_or]
    · rw [if_neg hn, if_neg hn, Option.none_or]

/-- **Leaving a scope.** By induction on the assignments; each leaves the scope with the bindings of the
same variables. -/
theorem pop_assignAll (s : Scopes) (scope : Scope) (assigned : List (String × Value)) :
    ((s.within scope).assignAll assigned).pop =
      s.assignAll (assigned.filter fun a => (scope.lookup? a.1).isNone) := by
  induction assigned generalizing s scope with
  | nil => rfl
  | cons a assigned ih =>
    change (((s.within scope).assign a.1 a.2).assignAll assigned).pop = _
    rw [assign_within, List.filter_cons]
    cases hbound : scope.lookup? a.1 with
    | none => exact ih (s.assign a.1 a.2) scope
    | some w =>
      have hsame (n : String) : ((scope.bind a.1 a.2).lookup? n).isNone = (scope.lookup? n).isNone := by
        rw [Scope.lookup?_bind]
        by_cases hn : n = a.1
        · rw [if_pos hn, hn, hbound]
          rfl
        · rw [if_neg hn]
      change ((s.within (scope.bind a.1 a.2)).assignAll assigned).pop = _
      rw [ih]
      simp only [hsame]
      rfl

/-- A scope that binds nothing loses nothing. -/
theorem pop_assignAll_push (s : Scopes) (assigned : List (String × Value)) :
    (s.push.assignAll assigned).pop = s.assignAll assigned := by
  rw [push_eq, pop_assignAll]
  exact congrArg _ (List.filter_eq_self.mpr fun _ _ => rfl)

/-- A scope that binds one variable loses the assignments to this one. -/
theorem pop_assignAll_push_bind (s : Scopes) (name : String) (v : Value)
    (assigned : List (String × Value)) :
    ((s.push.bind name v).assignAll assigned).pop = s.assignAll (assigned.filter (·.1 ≠ name)) := by
  rw [push_bind_eq, pop_assignAll]
  congr 2
  funext a
  by_cases ha : a.1 = name
  · simp [Scope.lookup?, ha]
  · simp [Scope.lookup?, ha, Ne.symm ha]

end Scopes

end PageGrid
