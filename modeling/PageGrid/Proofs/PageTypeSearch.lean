import PageGrid.Proofs.PageTypes

/-!
# The search for a page type

The table of page types holds the last declaration of each name, and the order of the table is the order of
these declarations. A search goes through the table from its end, so the latest declaration is asked first.
It ends with the first type that its test accepts, or with the first one whose test fails; types that have
been declared before are not asked.

A test may change a state, as the tests of a run do, which leave remarks in the log. Each type is therefore
asked in the state that the types before it have left. What a search asks is made visible by a test that
notes the types it is asked about. Noting does not change what is found.

## Main definitions

* `PageTypes.DeclaredLast` — a declaration is the last one under its name;
* `PageTypes.ListsLatest` — a table is what a series of declarations amounts to;
* `PageTypes.Test`, `Test.noting` — tests of page types;
* `PageTypes.Search` — what a search asks and finds.

## Main results

* `listsLatest_latest` — the table of a series of declarations;
* `exists_search` — every search;
* `selection_follows_declarations` — both, also for the page types of a run.
-/

namespace PageGrid

namespace PageTypes

variable {α : Type} {t u first : PageType α} {ts later rest : List (PageType α)}

/-! ### The table -/

/-- The declaration is the last one under its name, and these are the declarations after it. -/
structure DeclaredLast (ts : List (PageType α)) (t : PageType α) (later : List (PageType α)) : Prop where
  split : ∃ earlier, ts = earlier ++ t :: later
  last : ∀ u ∈ later, u.name ≠ t.name

/-- The types are the last declarations of all names, in their order: each name is there once, and from the
last declaration of a type on, the types before it are not declared any more. -/
structure ListsLatest (ts types : List (PageType α)) : Prop where
  nodup : (types.map (·.name)).Nodup
  names : ∀ name, name ∈ types.map (·.name) ↔ name ∈ ts.map (·.name)
  mem_iff : ∀ t, t ∈ types ↔ ∃ later, DeclaredLast ts t later
  ordered : types.Pairwise fun t u => ∃ later, DeclaredLast ts u later ∧ ∀ v ∈ later, v.name ≠ t.name

theorem DeclaredLast.mem (h : DeclaredLast ts t later) : t ∈ ts := by
  obtain ⟨earlier, rfl⟩ := h.split
  simp

theorem DeclaredLast.mem_of_mem_later (h : DeclaredLast ts t later) (hu : u ∈ later) : u ∈ ts := by
  obtain ⟨earlier, rfl⟩ := h.split
  simp [hu]

theorem DeclaredLast.cons (h : DeclaredLast rest t later) (first : PageType α) :
    DeclaredLast (first :: rest) t later := by
  obtain ⟨earlier, rfl⟩ := h.split
  exact ⟨⟨first :: earlier, rfl⟩, h.last⟩

/-- The last declaration of a name is the first one of all, or it is among those after the first. -/
theorem declaredLast_cons :
    DeclaredLast (first :: rest) t later ↔
      DeclaredLast rest t later ∨ t = first ∧ later = rest ∧ ∀ u ∈ rest, u.name ≠ first.name := by
  constructor
  · rintro ⟨⟨earlier, hsplit⟩, hlast⟩
    cases earlier with
    | nil =>
      cases hsplit
      exact .inr ⟨rfl, rfl, hlast⟩
    | cons _ earlier =>
      cases hsplit
      exact .inl ⟨⟨earlier, rfl⟩, hlast⟩
  · rintro (h | ⟨rfl, rfl, hlast⟩)
    · exact h.cons first
    · exact ⟨⟨[], rfl⟩, hlast⟩

theorem mem_latest_iff : t ∈ latest ts ↔ ∃ later, DeclaredLast ts t later := by
  induction ts with
  | nil => simpa [latest] using fun later (h : DeclaredLast [] t later) => by cases h.mem
  | cons first rest ih =>
    simp only [declaredLast_cons, exists_or, ← ih]
    rw [latest]
    split
    · next hlater =>
      obtain ⟨u, hu, hname⟩ := List.any_eq_true.mp hlater
      refine (or_iff_left ?_).symm
      rintro ⟨_, -, -, hlast⟩
      exact hlast u hu (by simpa using hname)
    · next hlater =>
      have hlast : ∀ u ∈ rest, u.name ≠ first.name := by simpa using hlater
      have hfirst : (∃ later, t = first ∧ later = rest ∧ ∀ u ∈ rest, u.name ≠ first.name) ↔ t = first := by
        constructor
        · rintro ⟨_, h, -, -⟩
          exact h
        · exact fun h => ⟨rest, h, rfl, hlast⟩
      rw [hfirst, List.mem_cons, or_comm]

/-- **The table of a series of declarations.** -/
theorem listsLatest_latest (ts : List (PageType α)) : ListsLatest ts (latest ts) := by
  refine ⟨nodup_latest ts, fun name => ?_, fun t => mem_latest_iff, ?_⟩
  · simp only [List.mem_map]
    constructor
    · rintro ⟨t, ht, rfl⟩
      exact ⟨t, mem_of_mem_latest ht, rfl⟩
    · rintro ⟨t, ht, rfl⟩
      exact exists_mem_latest ht
  · induction ts with
    | nil => exact .nil
    | cons first rest ih =>
      have hrest : (latest rest).Pairwise fun t u =>
          ∃ later, DeclaredLast (first :: rest) u later ∧ ∀ v ∈ later, v.name ≠ t.name :=
        ih.imp fun ⟨later, hlast, hothers⟩ => ⟨later, hlast.cons first, hothers⟩
      rw [latest]
      split
      · exact hrest
      · next hlater =>
        refine List.pairwise_cons.mpr ⟨fun u hu => ?_, hrest⟩
        obtain ⟨later, hlast⟩ := mem_latest_iff.mp hu
        have hnone : ∀ v ∈ rest, v.name ≠ first.name := by simpa using hlater
        exact ⟨later, hlast.cons first, fun v hv => hnone v (hlast.mem_of_mem_later hv)⟩

/-! ### Searches -/

variable {ε σ : Type}

/-- A test of page types, which may fail and may change a state. -/
abbrev Test (ε σ α : Type) := PageType α → ExceptT ε (StateM σ) Bool

/-- The test, which also notes the types that it is asked about. -/
def Test.noting (test : Test ε σ α) : Test ε (σ × List (PageType α)) α := fun t (s, asked) =>
  ((test t s).1, ((test t s).2, asked ++ [t]))

variable {test : Test ε σ α} {s s₁ s₂ : σ}

/-- The test refuses all types of the list, which are asked one after the other. -/
inductive Refuses (test : Test ε σ α) : List (PageType α) → σ → σ → Prop
  | nil (s : σ) : Refuses test [] s s
  | cons {t : PageType α} {ts : List (PageType α)} {s s₁ s₂ : σ} : test t s = (.ok false, s₁) →
      Refuses test ts s₁ s₂ → Refuses test (t :: ts) s s₂

/-- A search through types: which of them are asked, in their order, what is found, and the state
afterwards. -/
inductive Search (test : Test ε σ α) (types : List (PageType α)) (s : σ) :
    List (PageType α) → Except ε (Option (PageType α)) → σ → Prop
  | found {refused rest : List (PageType α)} {t : PageType α} {s₁ s₂ : σ} :
      types = refused ++ t :: rest → Refuses test refused s s₁ → test t s₁ = (.ok true, s₂) →
        Search test types s (refused ++ [t]) (.ok (some t)) s₂
  | failed {refused rest : List (PageType α)} {t : PageType α} {e : ε} {s₁ s₂ : σ} :
      types = refused ++ t :: rest → Refuses test refused s s₁ → test t s₁ = (.error e, s₂) →
        Search test types s (refused ++ [t]) (.error e) s₂
  | exhausted {s₁ : σ} : Refuses test types s s₁ → Search test types s types (.ok none) s₁

theorem Search.cons {asked : List (PageType α)} {result : Except ε (Option (PageType α))}
    (hfirst : test first s = (.ok false, s₁)) (h : Search test rest s₁ asked result s₂) :
    Search test (first :: rest) s (first :: asked) result s₂ := by
  cases h with
  | found hsplit hrefused haccepts =>
    exact .found (congrArg (first :: ·) hsplit) (.cons hfirst hrefused) haccepts
  | failed hsplit hrefused hfails =>
    exact .failed (congrArg (first :: ·) hsplit) (.cons hfirst hrefused) hfails
  | exhausted hrefused => exact .exhausted (.cons hfirst hrefused)

/-- The first type is asked first, and the others only if it is refused. -/
theorem firstEligible_cons (test : Test ε σ α) (first : PageType α) (rest : List (PageType α)) (s : σ) :
    firstEligible test (first :: rest) s =
      match test first s with
      | (.ok true, s₁) => (.ok (some first), s₁)
      | (.ok false, s₁) => firstEligible test rest s₁
      | (.error e, s₁) => (.error e, s₁) := by
  have hrun : firstEligible test (first :: rest) s =
      (ExceptT.bindCont (fun eligible => if eligible then pure (some first) else firstEligible test rest)
        (test first s).1 : StateM σ _) (test first s).2 := rfl
  rw [hrun]
  rcases test first s with ⟨_ | _ | _, _⟩ <;> rfl

/-- **Every search** through a list asks and finds what it should, and the same is found by the test that
notes what it is asked. By induction on the list, from every state. -/
theorem exists_search (test : Test ε σ α) (types : List (PageType α)) (s : σ) :
    ∃ asked result s', Search test types s asked result s' ∧
      firstEligible test types s = (result, s') ∧
      ∀ before, firstEligible test.noting types (s, before) = (result, (s', before ++ asked)) := by
  induction types generalizing s with
  | nil => exact ⟨[], .ok none, s, .exhausted (.nil s), rfl, fun before => by rw [List.append_nil]; rfl⟩
  | cons first rest ih =>
    simp only [firstEligible_cons, Test.noting]
    rcases hfirst : test first s with ⟨e | _ | _, s₁⟩
    · exact ⟨[first], .error e, s₁, .failed rfl (.nil s) hfirst, rfl, fun _ => rfl⟩
    · obtain ⟨asked, result, s', hsearch, hfound, hnoted⟩ := ih s₁
      refine ⟨first :: asked, result, s', hsearch.cons hfirst, hfound, fun before => ?_⟩
      rw [List.append_cons before first asked]
      exact hnoted (before ++ [first])
    · exact ⟨[first], .ok (some first), s₁, .found rfl (.nil s) hfirst, rfl, fun _ => rfl⟩

end PageTypes

/-! ### The page types of a run -/

namespace Action

open PageTypes (Search firstEligible)

/-- The test of page types for some data. -/
def eligibility (focus : Focus) (setting : Setting) : PageTypes.Test Fault Session Float :=
  fun type => isEligible focus type setting

/-- What a search amounts to where there has to be a page type. -/
def chosen : Except Fault (Option (PageType Float)) → Except Fault (PageType Float)
  | .ok (some type) => .ok type
  | .ok none => .error (.ofCause .noPageType)
  | .error fault => .error fault

theorem firstEligible_isEligible (focus : Focus) (setting : Setting) (types : List (PageType Float))
    (s : Session) :
    (firstEligible (isEligible focus) types).runWith setting s =
      firstEligible (eligibility focus setting) types s := by
  induction types generalizing s with
  | nil => rfl
  | cons first rest ih =>
    have heligible : (isEligible focus first).runWith setting s = eligibility focus setting first s := rfl
    rw [PageTypes.firstEligible_cons, firstEligible, runWith_bind, heligible]
    rcases eligibility focus setting first s with ⟨e | _ | _, s₁⟩
    · rfl
    · exact ih s₁
    · rfl

/-- The page type for some data is searched for in the table of the layout. -/
theorem runWith_selectPageType (focus : Focus) (setting : Setting) (s : Session) :
    (selectPageType focus).runWith setting s =
      (chosen ((s.layout.pageTypes.select (eligibility focus setting)) s).1,
        ((s.layout.pageTypes.select (eligibility focus setting)) s).2) := by
  rw [selectPageType, runWith_bind_of_ok runWith_layout, runWith_bind, PageTypes.select, PageTypes.select,
    firstEligible_isEligible]
  rcases firstEligible (eligibility focus setting) s.layout.pageTypes.candidates s with
    ⟨e | _ | type, s₁⟩ <;> rfl

end Action

/-- **The selection of page types follows the last declarations.** After any declarations, the table lists
each declared name and that of the fallback once, with the last declaration and in the order of these. A
search asks the types from the last one on, up to the first one that is eligible, which it finds, or the
first one whose test fails, with whose error it ends; it finds none only if all of them have been asked and
refused. So it is with every test, whatever state it changes, and with the tests of a run. -/
theorem selection_follows_declarations (margins : Margins Float) (ts : List (PageType Float)) :
    PageTypes.ListsLatest (PageTypes.fallback margins :: ts) (PageTypes.declared margins ts).types ∧
    (∀ {ε σ : Type} (test : PageTypes.Test ε σ Float) (s : σ), ∃ asked result s',
      PageTypes.Search test (PageTypes.declared margins ts).types.reverse s asked result s' ∧
      (PageTypes.declared margins ts).select test s = (result, s') ∧
      (PageTypes.declared margins ts).select test.noting (s, []) = (result, (s', asked))) ∧
    ∀ (focus : Focus) (setting : Setting) (s : Session),
      s.layout.pageTypes = PageTypes.declared margins ts → ∃ asked result s',
        PageTypes.Search (Action.eligibility focus setting)
          (PageTypes.declared margins ts).types.reverse s asked result s' ∧
        (Action.selectPageType focus).runWith setting s = (Action.chosen result, s') := by
  refine ⟨?_, fun test s => ?_, fun focus setting s htable => ?_⟩
  · rw [PageTypes.types_declared]
    exact PageTypes.listsLatest_latest _
  · obtain ⟨asked, result, s', hsearch, hfound, hnoted⟩ :=
      PageTypes.exists_search test (PageTypes.declared margins ts).types.reverse s
    exact ⟨asked, result, s', hsearch, hfound, hnoted []⟩
  · obtain ⟨asked, result, s', hsearch, hfound, -⟩ :=
      PageTypes.exists_search (Action.eligibility focus setting)
        (PageTypes.declared margins ts).types.reverse s
    have hselect : (s.layout.pageTypes.select (Action.eligibility focus setting)) s = (result, s') := by
      rw [htable]
      exact hfound
    exact ⟨asked, result, s', hsearch, by rw [Action.runWith_selectPageType, hselect]⟩

/-- Declarations of which the last one takes the place of the first one. -/
def declaredTwice : List (PageType Float) :=
  [⟨"A", "true()", .all 5, []⟩, ⟨"B", "1", .all 5, []⟩, ⟨"A", "false()", .all 5, []⟩]

/-- A test that counts what it is asked and takes nothing but the words for truth values. -/
def wordTest : PageTypes.Test String Nat Float := fun type count =>
  if type.test = "true()" then (.ok true, count + 1)
  else if type.test = "false()" then (.ok false, count + 1)
  else (.error type.name, count + 1)

/-- With these declarations the search ends at the second type, and the fallback is not asked. Without any,
a run finds the fallback. -/
theorem selection_follows_declarations_declaredTwice :
    PageTypes.ListsLatest (PageTypes.fallback (.all 10) :: declaredTwice)
      [PageTypes.fallback (.all 10), ⟨"B", "1", .all 5, []⟩, ⟨"A", "false()", .all 5, []⟩] ∧
    PageTypes.Search wordTest
      [⟨"A", "false()", .all 5, []⟩, ⟨"B", "1", .all 5, []⟩, PageTypes.fallback (.all 10)] 0
      [⟨"A", "false()", .all 5, []⟩, ⟨"B", "1", .all 5, []⟩] (.error "B") 2 ∧
    (Session.start .tenByTen).layout.pageTypes = PageTypes.declared (.all 10) [] ∧
    ∃ asked type t, PageTypes.Search (Action.eligibility .root .bare) [PageTypes.fallback (.all 10)]
        (.start .tenByTen) asked (.ok (some type)) t ∧
      (Action.selectPageType .root).runWith .bare (.start .tenByTen) = (.ok type, t) := by
  obtain ⟨hlists, hsearches, -⟩ := selection_follows_declarations (.all 10) declaredTwice
  obtain ⟨asked, result, count, hsearch, -, hnoted⟩ := hsearches wordTest 0
  have heval : (PageTypes.declared (.all 10) declaredTwice).select wordTest.noting (0, []) =
      (.error "B", (2, [⟨"A", "false()", .all 5, []⟩, ⟨"B", "1", .all 5, []⟩])) := rfl
  obtain ⟨rfl, hstate⟩ := Prod.mk.inj (heval.symm.trans hnoted)
  obtain ⟨rfl, rfl⟩ := Prod.mk.inj hstate
  have htable : (Session.start .tenByTen).layout.pageTypes = PageTypes.declared (.all 10) [] := rfl
  obtain ⟨asked, result, t, hfallback, hrun⟩ :=
    (selection_follows_declarations (.all 10) []).2.2 .root .bare (.start .tenByTen) htable
  have hfound : (((Action.selectPageType .root).runWith .bare (.start .tenByTen)).1.toOption.map
      (·.name)).isSome = true := by decide +kernel
  rw [hrun] at hfound
  refine ⟨hlists, hsearch, htable, asked, ?_⟩
  match result, hfallback, hrun with
  | .ok (some type), hfallback, hrun => exact ⟨type, t, hfallback, hrun⟩
  | .ok none, _, _ => cases hfound
  | .error _, _, _ => cases hfound

end PageGrid
