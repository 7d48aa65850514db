import Mathlib.Data.List.Forall2
import PageGrid.Proofs.Text.Scan

/-!
# What scanners take

A scanner takes a front of the text that it is run on. `Takes p R` says of every run of it that what it has
taken and what it yields are related by `R`. As for the facts about values alone, there is a rule for
every way to put scanners together, and what a scanner takes is put together along with it: behind
whatever `p` has taken, `p >>= f` goes on.

That a scanner takes nothing else than the texts of a grammar is stated in this way, where the texts that it
does take are equations about it.

## Main definitions

* `Scan.Takes` — what a scanner takes and what it yields are related.

## Main results

* `Scan.Takes.bind`, `Scan.Takes.orElse`, `Scan.Takes.many` — the rules of sequence, choice and repetition;
* `Scan.Takes.of_all` — of a whole text that is accepted, all is taken.
-/

namespace PageGrid.Text.Scan

variable {α β : Type} {p q : Scan α} {f : α → Scan β} {R R' : List Char → α → Prop}
  {T : List Char → β → Prop} {s : List Char} {a : α}

/-- What the scanner takes from the front of a text and the value that it yields are related. -/
def Takes (p : Scan α) (R : List Char → α → Prop) : Prop :=
  ∀ s a t, p s = some (a, t) → ∃ front, s = front ++ t ∧ R front a

theorem Takes.mono (h : Takes p R) (hR : ∀ cs a, R cs a → R' cs a) : Takes p R' := by
  intro s a t e
  obtain ⟨front, hs, ha⟩ := h s a t e
  exact ⟨front, hs, hR front a ha⟩

theorem takes_pure (h : R [] a) : Takes (pure a) R := by
  intro s b t e
  cases e
  exact ⟨[], rfl, h⟩

/-- The second scanner goes on behind what the first one has taken. -/
theorem Takes.bind (hp : Takes p R)
    (hf : ∀ front a, R front a → Takes (f a) fun back b => T (front ++ back) b) :
    Takes (p >>= f) T := by
  intro s b u e
  rw [bind_apply, Option.bind_eq_some_iff] at e
  obtain ⟨⟨a, t⟩, e, e'⟩ := e
  obtain ⟨front, rfl, ha⟩ := hp s a t e
  obtain ⟨back, rfl, hb⟩ := hf front a ha t b u e'
  exact ⟨front ++ back, (List.append_assoc ..).symm, hb⟩

theorem Takes.seqRight {q : Scan β} (hp : Takes p R)
    (hq : ∀ front a, R front a → Takes q fun back b => T (front ++ back) b) : Takes (p *> q) T := by
  intro s b u e
  rw [seqRight_apply] at e
  refine Takes.bind hp (f := fun _ => q) hq s b u ?_
  rw [bind_apply, e]

theorem Takes.map {g : α → β} (h : Takes p fun cs a => T cs (g a)) : Takes (g <$> p) T := by
  intro s b t e
  rw [map_apply, Option.map_eq_some_iff] at e
  obtain ⟨⟨a, u⟩, e, e'⟩ := e
  cases e'
  exact h s a u e

theorem Takes.orElse (hp : Takes p R) (hq : Takes q R) : Takes (p <|> q) R := by
  intro s a t e
  rw [orElse_apply, Option.or_eq_some_iff] at e
  obtain e | ⟨-, e⟩ := e
  · exact hp s a t e
  · exact hq s a t e

/-- Without a value nothing is taken. -/
theorem Takes.maybe (h : Takes p R) :
    Takes (maybe p) fun cs o => cs = [] ∧ o = none ∨ ∃ a, o = some a ∧ R cs a := by
  intro s o t e
  cases e' : p s with
  | none =>
    rw [maybe_of_none e'] at e
    cases e
    exact ⟨[], rfl, .inl ⟨rfl, rfl⟩⟩
  | some x =>
    rw [maybe_of_some e'] at e
    cases e
    obtain ⟨front, hs, ha⟩ := h s x.1 x.2 e'
    exact ⟨front, hs, .inr ⟨x.1, rfl, ha⟩⟩

theorem takes_char (c : Char) : Takes (char c) fun cs d => cs = [c] ∧ d = c := by
  intro s d t e
  obtain rfl := eq_cons_of_char e
  rw [char_cons] at e
  cases e
  exact ⟨[c], rfl, rfl, rfl⟩

theorem takes_takeWhile1 (test : Char → Bool) :
    Takes (takeWhile1 test) fun cs run => cs = run ∧ run ≠ [] ∧ ∀ c ∈ run, test c = true := by
  intro s run t e
  have hrun := yields_takeWhile1 test s run t e
  simp only [takeWhile1] at e
  split at e
  · cases e
  · cases e
    exact ⟨_, List.takeWhile_append_dropWhile.symm, rfl, hrun⟩

/-- Repetition takes one front after the other. -/
theorem Takes.many (h : Takes p R) :
    Takes (many p) fun cs as => ∃ fronts, cs = fronts.flatten ∧ List.Forall₂ R fronts as := by
  have run : ∀ fuel s, ∃ fronts, s = fronts.flatten ++ (manyUpTo p fuel s).2 ∧
      List.Forall₂ R fronts (manyUpTo p fuel s).1 := by
    intro fuel
    induction fuel with
    | zero => exact fun s => ⟨[], rfl, .nil⟩
    | succ fuel ih =>
      intro s
      rw [manyUpTo]
      split
      · exact ⟨[], rfl, .nil⟩
      · next a t e =>
        obtain ⟨front, rfl, ha⟩ := h s a t e
        obtain ⟨fronts, ht, has⟩ := ih t
        refine ⟨front :: fronts, ?_, .cons ha has⟩
        rw [List.flatten_cons, List.append_assoc, ← ht]
  intro s as t e
  obtain ⟨fronts, hs, has⟩ := run s.length s
  simp only [Scan.many, Option.some.injEq] at e
  rw [e] at hs has
  exact ⟨fronts.flatten, hs, fronts, rfl, has⟩

/-! ### Whole texts -/

theorem all_eq_done_iff : p.all s = .done a ↔ p s = some (a, []) := by
  rw [all]
  split
  · next h => simp [h]
  · next h => simp [h]
  · next hne h => simpa [h] using fun _ => hne

theorem Takes.of_all (h : Takes p R) (hs : p.all s = .done a) : R s a := by
  obtain ⟨front, hfront, ha⟩ := h s a [] (all_eq_done_iff.mp hs)
  rwa [hfront, List.append_nil]

end PageGrid.Text.Scan
