import Mathlib.Data.List.TakeWhile
import PageGrid.Text.Scan

/-!
# What scanners read and yield

Two kinds of facts about a scanner are kept apart. That it reads a given text is an equation
`p s = some (a, rest)`, where `rest` is arbitrary up to its first character: a run of characters
ends where the next one does not belong to it. What is known of every value that it yields,
whatever it has read, is `Yields p P`; such facts go through sequence, choice and repetition
without a look at any text.

## Main definitions

* `Ahead` — what comes first in a text, if anything, has a property;
* `Scan.Runs` — a scanner succeeds so many times in a row, and then fails;
* `Scan.Yields` — every value of a scanner has a property.

## Main results

* `Scan.Runs.many` — repetition collects the values of such a row.
-/

namespace PageGrid.Text

/-! ### The character ahead -/

/-- A property of given characters, decided one by one. A quantifier over the members of a list of
characters is decidable as well, but perhaps by a look at all characters. -/
theorem forall_mem_of_all {P : Char → Prop} [DecidablePred P] {cs : List Char}
    (h : cs.all (fun c => decide (P c)) = true) : ∀ c ∈ cs, P c := by
  simpa using h

/-- The text is empty or begins with a character that has the property. -/
def Ahead (P : Char → Prop) (s : List Char) : Prop := ∀ c ∈ s.head?, P c

namespace Ahead

variable {P Q : Char → Prop} {c : Char} {s t : List Char}

@[simp] theorem nil : Ahead P [] := by simp [Ahead]

@[simp] theorem cons_iff : Ahead P (c :: s) ↔ P c := by simp [Ahead]

theorem mono (h : Ahead P s) (hPQ : ∀ c, P c → Q c) : Ahead Q s := fun c hc => hPQ c (h c hc)

theorem append (hs : Ahead P s) (ht : Ahead P t) : Ahead P (s ++ t) := by
  cases s with
  | nil => exact ht
  | cons c s => exact hs

/-- Of given characters the property is decided one by one. -/
theorem of_mem {cs : List Char} [DecidablePred P] (hs : Ahead (· ∈ cs) s)
    (h : cs.all (fun c => decide (P c)) = true) : Ahead P s :=
  hs.mono (forall_mem_of_all h)

/-- A text that is not empty decides alone. -/
theorem append_left (hne : s ≠ []) (hs : Ahead P s) : Ahead P (s ++ t) := by
  cases s with
  | nil => exact absurd rfl hne
  | cons c s => exact hs

end Ahead

section Runs

variable {test : Char → Bool} {run s : List Char}

theorem takeWhile_of_ahead (h : Ahead (test · = false) s) : s.takeWhile test = [] := by
  cases s with
  | nil => rfl
  | cons c s => simp_all

theorem dropWhile_of_ahead (h : Ahead (test · = false) s) : s.dropWhile test = s := by
  cases s with
  | nil => rfl
  | cons c s => simp_all

/-- A run ends inside a text that is followed by a character that does not go on with it. -/
theorem takeWhile_append_of_ahead (h : Ahead (test · = false) s) :
    (run ++ s).takeWhile test = run.takeWhile test := by
  induction run with
  | nil => exact takeWhile_of_ahead h
  | cons c run ih => simp only [List.cons_append, List.takeWhile_cons, ih]

theorem dropWhile_append_of_ahead (h : Ahead (test · = false) s) :
    (run ++ s).dropWhile test = run.dropWhile test ++ s := by
  induction run with
  | nil => exact dropWhile_of_ahead h
  | cons c run ih =>
    simp only [List.cons_append, List.dropWhile_cons, ih]
    split <;> rfl

end Runs

namespace Scan

variable {α β : Type} {p q : Scan α} {s t u : List Char} {a : α} {c : Char}

/-! ### Applied scanners -/

@[simp] theorem bind_apply (p : Scan α) (f : α → Scan β) (s : List Char) :
    (p >>= f) s = (p s).bind fun x => f x.1 x.2 := by
  cases h : p s <;> simp [bind, StateT.bind, h]

@[simp] theorem pure_apply (a : α) (s : List Char) : (pure a : Scan α) s = some (a, s) := rfl

@[simp] theorem failure_apply (s : List Char) : (failure : Scan α) s = none := rfl

@[simp] theorem map_apply (f : α → β) (p : Scan α) (s : List Char) :
    (f <$> p) s = (p s).map fun x => (f x.1, x.2) := by
  cases h : p s <;> simp [Functor.map, StateT.map, h, bind, pure]

@[simp] theorem seqRight_apply (p : Scan α) (q : Scan β) (s : List Char) :
    (p *> q) s = (p s).bind fun x => q x.2 := by
  cases h : p s <;> simp [SeqRight.seqRight, StateT.bind, h, bind]

@[simp] theorem seqLeft_apply (p : Scan α) (q : Scan β) (s : List Char) :
    (p <* q) s = (p s).bind fun x => (q x.2).map fun y => (x.1, y.2) := by
  change (p >>= fun a => q >>= fun _ => pure a) s = _
  cases h : p s with
  | none => simp [h]
  | some x => cases h' : q x.2 <;> simp [h, h']

@[simp] theorem orElse_apply (p q : Scan α) (s : List Char) : (p <|> q) s = (p s).or (q s) := by
  change (p s <|> q s) = _
  cases h : p s <;> simp

/-! ### Pieces of text -/

@[simp] theorem char_cons : char c (c :: s) = some (c, s) := by simp [char, satisfy]

theorem char_eq_none (h : Ahead (· ≠ c) s) : char c s = none := by
  cases s with
  | nil => rfl
  | cons d s => simp_all [char, satisfy]

/-- A character is read only where it stands. -/
theorem eq_cons_of_char {d : Char} (h : char c s = some (d, t)) : s = c :: t := by
  cases s with
  | nil => cases h
  | cons e s =>
    simp only [char, satisfy, Option.ite_none_right_eq_some, Option.some.injEq, Prod.mk.injEq,
      beq_iff_eq] at h
    obtain ⟨rfl, -, rfl⟩ := h
    rfl

theorem chars_eq_none {cs : List Char} (h : Ahead (· ≠ c) s) : chars (c :: cs) s = none := by
  cases s with
  | nil => rfl
  | cons d s => simp_all [chars, eq_comm]

/-- Given characters are read only where they stand. -/
theorem eq_append_of_chars {cs : List Char} (h : chars cs s = some ((), t)) : s = cs ++ t := by
  induction cs generalizing s with
  | nil => simpa [chars] using h
  | cons c cs ih =>
    cases s with
    | nil => simp [chars] at h
    | cons d s =>
      simp only [chars, Option.ite_none_right_eq_some] at h
      rw [h.1, ih h.2, List.cons_append]

theorem takeWhile_append {test : Char → Bool} {run : List Char} (hrun : ∀ c ∈ run, test c = true)
    (h : Ahead (test · = false) s) : takeWhile test (run ++ s) = some (run, s) := by
  simp only [takeWhile, takeWhile_append_of_ahead h, dropWhile_append_of_ahead h]
  rw [List.takeWhile_eq_self_iff.mpr hrun, List.dropWhile_eq_nil_iff.mpr hrun, List.nil_append]

theorem takeWhile1_append {test : Char → Bool} {run : List Char} (hne : run ≠ [])
    (hrun : ∀ c ∈ run, test c = true) (h : Ahead (test · = false) s) :
    takeWhile1 test (run ++ s) = some (run, s) := by
  simp only [takeWhile1, takeWhile_append_of_ahead h, dropWhile_append_of_ahead h]
  rw [List.takeWhile_eq_self_iff.mpr hrun, List.dropWhile_eq_nil_iff.mpr hrun, List.nil_append]
  cases run with
  | nil => exact absurd rfl hne
  | cons c run => rfl

theorem takeWhile1_eq_none {test : Char → Bool} (h : Ahead (test · = false) s) :
    takeWhile1 test s = none := by
  simp only [takeWhile1, takeWhile_of_ahead h]

theorem padded_apply (p : Scan α) (s : List Char) :
    padded p s = (p (s.dropWhile isAsciiBlank)).map fun x => (x.1, x.2.dropWhile isAsciiBlank) := by
  simp only [padded, blanks, bind_apply, Option.bind_some, pure_apply]
  cases p (s.dropWhile isAsciiBlank) <;> rfl

/-- Where no blank is ahead, padding reads blanks only behind. -/
theorem padded_of_ahead (h : Ahead (isAsciiBlank · = false) s) :
    padded p s = (p s).map fun x => (x.1, x.2.dropWhile isAsciiBlank) := by
  rw [padded_apply, dropWhile_of_ahead h]

/-- A padded character, which takes the blanks behind it along. -/
theorem padded_char (hc : isAsciiBlank c = false) :
    padded (char c) (c :: s) = some (c, s.dropWhile isAsciiBlank) := by
  rw [padded_of_ahead (Ahead.cons_iff.mpr hc), char_cons]
  rfl

theorem padded_char_eq_none (h : Ahead (fun d => isAsciiBlank d = false ∧ d ≠ c) s) :
    padded (char c) s = none := by
  rw [padded_of_ahead (h.mono fun _ => And.left), char_eq_none (h.mono fun _ => And.right)]
  rfl

theorem maybe_of_some (h : p s = some (a, t)) : maybe p s = some (some a, t) := by
  simp only [maybe, h]

theorem maybe_of_none (h : p s = none) : maybe p s = some (none, s) := by
  simp only [maybe, h]

/-! ### Repetition -/

/-- What stands behind a character and a run is shorter than all of it. -/
theorem length_lt_cons_append (c : Char) (run s : List Char) :
    s.length < (c :: (run ++ s)).length := by
  rw [List.length_cons, List.length_append]
  omega

/-- The scanner reads the values one after the other, each with at least one character, and fails
on the rest. -/
inductive Runs (p : Scan α) : List Char → List α → List Char → Prop
  | stop {s : List Char} : p s = none → Runs p s [] s
  | next {s t u : List Char} {a : α} {as : List α} :
      p s = some (a, t) → t.length < s.length → Runs p t as u → Runs p s (a :: as) u

theorem Runs.many {as : List α} (h : Runs p s as t) : many p s = some (as, t) := by
  -- the fuel may be larger than needed, as it is after the first value
  have run : ∀ fuel, s.length ≤ fuel → manyUpTo p fuel s = (as, t) := by
    induction h with
    | stop h =>
      intro fuel _
      cases fuel with
      | zero => rfl
      | succ fuel => simp only [manyUpTo, h]
    | next h hlt _ ih =>
      intro fuel hfuel
      cases fuel with
      | zero => omega
      | succ fuel => simp only [manyUpTo, h, ih fuel (by omega)]
  simp only [Scan.many, run s.length (Nat.le_refl _)]

/-! ### Values -/

/-- Every value that the scanner yields has the property. -/
def Yields (p : Scan α) (P : α → Prop) : Prop := ∀ s a t, p s = some (a, t) → P a

section Yields

variable {P : α → Prop} {Q : β → Prop} {f : α → Scan β}

theorem yields_true (p : Scan α) : Yields p fun _ => True := fun _ _ _ _ => trivial

theorem Yields.mono {P' : α → Prop} (h : Yields p P) (hP : ∀ a, P a → P' a) : Yields p P' :=
  fun s a t e => hP a (h s a t e)

theorem yields_pure (h : P a) : Yields (pure a) P := by
  intro s b t e
  cases e
  exact h

theorem yields_failure : Yields (failure : Scan α) P := by
  intro s a t e
  cases e

theorem Yields.bind (hp : Yields p P) (hf : ∀ a, P a → Yields (f a) Q) : Yields (p >>= f) Q := by
  intro s b u e
  rw [bind_apply, Option.bind_eq_some_iff] at e
  obtain ⟨⟨a, t⟩, e, e'⟩ := e
  exact hf a (hp s a t e) t b u e'

theorem Yields.map {g : α → β} (h : Yields p fun a => Q (g a)) : Yields (g <$> p) Q := by
  intro s b t e
  rw [map_apply, Option.map_eq_some_iff] at e
  obtain ⟨⟨a, u⟩, e, e'⟩ := e
  cases e'
  exact h s a u e

theorem Yields.seqRight {q : Scan β} (h : Yields q Q) : Yields (p *> q) Q := by
  intro s b u e
  rw [seqRight_apply, Option.bind_eq_some_iff] at e
  obtain ⟨⟨a, t⟩, -, e⟩ := e
  exact h t b u e

theorem Yields.orElse (hp : Yields p P) (hq : Yields q P) : Yields (p <|> q) P := by
  intro s a t e
  rw [orElse_apply, Option.or_eq_some_iff] at e
  obtain e | ⟨-, e⟩ := e
  · exact hp s a t e
  · exact hq s a t e

theorem yields_takeWhile (test : Char → Bool) :
    Yields (takeWhile test) fun cs => ∀ c ∈ cs, test c = true := by
  intro s cs t e
  cases e
  exact fun c hc => List.mem_takeWhile_imp hc

theorem yields_takeWhile1 (test : Char → Bool) :
    Yields (takeWhile1 test) fun cs => cs ≠ [] ∧ ∀ c ∈ cs, test c = true := by
  intro s cs t e
  simp only [takeWhile1] at e
  split at e
  · cases e
  · next hne =>
    cases e
    exact ⟨fun h => hne h, fun c hc => List.mem_takeWhile_imp hc⟩

theorem Yields.padded (h : Yields p P) : Yields (padded p) P := by
  intro s a t e
  rw [padded_apply, Option.map_eq_some_iff] at e
  obtain ⟨⟨b, u⟩, e, e'⟩ := e
  cases e'
  exact h _ b u e

theorem Yields.maybe (h : Yields p P) : Yields (maybe p) fun o => ∀ a ∈ o, P a := by
  intro s o t e
  cases e' : p s with
  | none =>
    rw [maybe_of_none e'] at e
    cases e
    simp
  | some x =>
    rw [maybe_of_some e'] at e
    cases e
    simpa using h s x.1 x.2 e'

theorem Yields.many (h : Yields p P) : Yields (many p) fun as => ∀ a ∈ as, P a := by
  have run : ∀ fuel s, ∀ a ∈ (manyUpTo p fuel s).1, P a := by
    intro fuel
    induction fuel with
    | zero => simp [manyUpTo]
    | succ fuel ih =>
      intro s
      simp only [manyUpTo]
      split
      · simp
      · next a t e => simpa using ⟨h s a t e, ih t⟩
  intro s as t e
  simp only [Scan.many, Option.some.injEq] at e
  exact fun a ha => run s.length s a (by rwa [e])

theorem Yields.sepBy {separator : Scan β} (h : Yields p P) :
    Yields (sepBy p separator) fun as => ∀ a ∈ as, P a := by
  refine Yields.orElse ?_ (yields_pure (by simp))
  refine h.bind fun a ha => (Yields.many h.seqRight).bind fun as has => yields_pure ?_
  simpa using ⟨ha, has⟩

end Yields

end Scan

end PageGrid.Text
