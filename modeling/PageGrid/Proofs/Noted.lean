import PageGrid.Noted

/-!
# Outcomes of computations that report

A sequence of computations has a value iff each part has one, whatever remarks are left on the way.
The remarks of a sequence are those of its parts. What a computation fails with is not for itself to
log, so none of its remarks is about a failure: it is `Mild`.

## Main definitions

* `Remarks` — log entries none of which is about a failure;
* `Noted.Mild` — a computation that leaves only such entries.

## Main results

* `outcome_bind_eq_ok` — a sequence of computations has a value iff both parts have one;
* `Mild.bind` — a sequence of mild computations is mild.
-/

namespace PageGrid

/-! ### Log entries -/

/-- None of the entries is about a failure. -/
def Remarks (entries : List LogEntry) : Prop := ∀ entry ∈ entries, entry.level ≠ .error

theorem remarks_nil : Remarks [] := nofun

theorem Remarks.cons {entry : LogEntry} {entries : List LogEntry} (he : entry.level ≠ .error)
    (h : Remarks entries) : Remarks (entry :: entries) :=
  List.forall_mem_cons.mpr ⟨he, h⟩

theorem Remarks.append {a b : List LogEntry} (ha : Remarks a) (hb : Remarks b) : Remarks (a ++ b) :=
  List.forall_mem_append.mpr ⟨ha, hb⟩

theorem remarks_map {α : Type} {f : α → LogEntry} (h : ∀ a, (f a).level ≠ .error) (as : List α) :
    Remarks (as.map f) :=
  List.forall_mem_map.mpr fun a _ => h a

theorem remarks_warning (text : String) : Remarks [.warning text] := remarks_nil.cons nofun

theorem remarks_info (text : String) : Remarks [.info text] := remarks_nil.cons nofun

namespace Noted

variable {ε ε' α β : Type}

/-! ### Outcomes -/

@[simp] theorem outcome_pure (a : α) : (pure a : Noted ε α).outcome = .ok a := rfl

@[simp] theorem outcome_fail (e : ε) : (fail e : Noted ε α).outcome = .error e := rfl

@[simp] theorem outcome_ofExcept (r : Except ε α) : (ofExcept r).outcome = r := rfl

/-- **Sequencing.** A sequence of computations has a value iff both parts have one. -/
theorem outcome_bind_eq_ok {x : Noted ε α} {f : α → Noted ε β} {b : β} :
    (x >>= f).outcome = .ok b ↔ ∃ a, x.outcome = .ok a ∧ (f a).outcome = .ok b := by
  change (andThen x f).outcome = .ok b ↔ _
  rw [andThen]
  cases hx : x.outcome <;> simp

theorem outcome_mapError_eq_ok {f : ε → ε'} {x : Noted ε α} {a : α} :
    (x.mapError f).outcome = .ok a ↔ x.outcome = .ok a := by
  rw [mapError]
  cases x.outcome with
  | ok b =>
    change (Except.ok b : Except ε' α) = .ok a ↔ _
    simp only [Except.ok.injEq]
  | error e => exact ⟨nofun, nofun⟩

/-! ### Remarks -/

/-- None of the remarks of the computation is about a failure. -/
def Mild (x : Noted ε α) : Prop := Remarks x.notices

theorem mild_pure (a : α) : Mild (pure a : Noted ε α) := remarks_nil

theorem mild_fail (e : ε) : Mild (fail e : Noted ε α) := remarks_nil

theorem mild_ofExcept (r : Except ε α) : Mild (ofExcept r) := remarks_nil

theorem Mild.mapError {x : Noted ε α} (h : Mild x) (f : ε → ε') : Mild (x.mapError f) := h

theorem Mild.bind {x : Noted ε α} {f : α → Noted ε β} (hx : Mild x) (hf : ∀ a, Mild (f a)) :
    Mild (x >>= f) := by
  change Mild (andThen x f)
  rw [andThen]
  split
  · exact hx
  · exact Remarks.append hx (hf _)

end Noted

end PageGrid
