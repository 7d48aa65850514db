import Mathlib.Tactic.FinCases
import PageGrid.Proofs.Expr.Primary

/-!
# Reading printed paths

The head of a path is its first step, or a slash with what stands behind it, or a primary
expression; the further steps are read behind any of the three, each with its slash. So a printed
path is read in two parts that are put together again. A slash in front is read like a slash between
steps, but for the root alone.

## Main results

* `pathHead_of_nextSteps` — a path from the root begins with what could go on with a path;
* `path_path` — a printed path is read back;
* `path_append` — a printed operand that is no operation is read back.
-/

namespace PageGrid.Expr.Grammar

open Text Text.Scan

variable {rest s t u text : List Char} {texts : List (List Char)} {e : Expr} {start : PathStart}
variable {steps : List PathStep} {nested : Scan Expr}

/-! ### Heads of paths -/

theorem extend_path (start : PathStart) (before steps : List PathStep) :
    extend (.path start before) steps = .path start (before ++ steps) := by
  cases steps <;> simp [extend]

theorem extend_of_not_path (he : e.isPath = false) (hne : steps ≠ []) :
    extend e steps = .path (.value e) steps := by
  cases steps with
  | nil => exact absurd rfl hne
  | cons => cases e <;> first | rfl | cases he

/-- A primary expression, and the steps behind it. -/
theorem path_of_primary {lists : List (List PathStep)} (h : primary nested s = some (e, t))
    (hr : Runs (nextSteps nested) t lists u) :
    path nested s = some (extend e lists.flatten, u) := by
  simp [path, h, hr.many]

/-- The head of a path, and the steps behind it. -/
theorem path_of_head {lists : List (List PathStep)} (hp : primary nested s = none)
    (h : pathHead nested s = some ((start, steps), t)) (hr : Runs (nextSteps nested) t lists u) :
    path nested s = some (.path start (steps ++ lists.flatten), u) := by
  simp [path, hp, h, hr.many, extend_path]

theorem pathHead_of_ahead (h : Ahead (· ≠ '/') s) :
    pathHead nested s = (step nested s).map fun x => ((.context, [x.1]), x.2) := by
  unfold pathHead
  split
  · exact absurd rfl (Ahead.cons_iff.mp h)
  · exact absurd rfl (Ahead.cons_iff.mp h)
  · rw [map_apply]

theorem pathHead_slash (h : Ahead (· ≠ '/') s) :
    pathHead nested ('/' :: s) =
      (Scan.maybe (step nested) s).map fun x => ((.root, x.1.toList), x.2) := by
  unfold pathHead
  split
  · next heq =>
    cases heq
    exact absurd rfl (Ahead.cons_iff.mp h)
  · next heq =>
    cases heq
    rw [map_apply]
  · next hne => exact absurd rfl (hne _)

theorem pathHead_slashes (s : List Char) :
    pathHead nested ('/' :: '/' :: s) =
      (step nested s).map fun x => ((.root, [.descend, x.1]), x.2) :=
  map_apply (fun t => (PathStart.root, [PathStep.descend, t])) (step nested) s

/-- **A path from the root begins with what could go on with a path.** -/
theorem pathHead_of_nextSteps (h : nextSteps nested s = some (steps, t)) :
    pathHead nested s = some ((.root, steps), t) := by
  simp only [nextSteps, orElse_apply, Option.or_eq_some_iff, bind_apply, Option.bind_eq_some_iff]
    at h
  obtain ⟨⟨_, u⟩, hword, ⟨t', v⟩, hstep, hpure⟩ | ⟨-, ⟨c, u⟩, hchar, ⟨t', v⟩, hstep, hpure⟩ := h
  · cases hpure
    have split : s = '/' :: '/' :: u := eq_append_of_chars hword
    rw [split, pathHead_slashes, hstep]
    rfl
  · cases hpure
    obtain rfl := eq_cons_of_char hchar
    -- a step does not begin with a slash, so there was one slash only
    have slash : Ahead (· ≠ '/') u := by
      intro c hc
      rintro rfl
      obtain ⟨w, rfl⟩ := List.head?_eq_some_iff.mp hc
      cases hstep
    rw [pathHead_slash slash, maybe_of_some hstep]
    rfl

/-- No step begins where an expression ends, so the root may stand alone. -/
theorem step_closing (hr : Closing rest) : step nested rest = none := by
  cases rest with
  | nil => rfl
  | cons c rest =>
    have hc : c ∈ [')', ']', ','] := Ahead.cons_iff.mp hr
    fin_cases hc <;> rfl

theorem primary_step {t : PathStep} (hs : t.Explicit)
    (h : PathStep.Prints Expr.Prints t text) (hr : AfterStep rest) :
    primary nested (text ++ rest) = none := by
  cases h with
  | descend => cases hs
  | @written _ _ _ _ texts hhead _ =>
    rw [List.append_assoc]
    exact primary_head hs hhead (afterTest_predicates texts hr)

/-- A slash in front of steps with slashes between them. -/
theorem slash_intercalate {prints : PathStep → List Char → Prop}
    (h : List.Forall₂ prints steps texts) (hne : steps ≠ []) :
    '/' :: (['/'].intercalate texts ++ rest) = (texts.map ('/' :: ·)).flatten ++ rest := by
  cases h with
  | nil => exact absurd rfl hne
  | cons => simp [intercalate_cons]

/-! ### Whole paths -/

section Rereads

variable {k : Nat} (hn : Rereads nested k)

include hn

theorem path_context {t : PathStep} (hs : t.Explicit) (hw : Walk steps)
    (hp : ∀ u ∈ t :: steps, ∀ p ∈ u.predicates, p.Readable)
    (h : List.Forall₂ (PathStep.Prints Expr.Prints) (t :: steps) texts)
    (hk : ∀ t ∈ texts, t.length ≤ k) (hr : Closing rest) :
    path nested (['/'].intercalate texts ++ rest) = some (.path .context (t :: steps), rest) := by
  cases h with
  | @cons _ text _ texts hprints htail =>
    simp only [List.mem_cons, forall_eq_or_imp] at hp hk
    have follow := afterStep_slashes texts hr
    obtain ⟨lists, hruns, rfl⟩ := runs_nextSteps hn ⟨hw, hp.2⟩ htail hk.2 hr
    have head : pathHead nested (text ++ ((texts.map ('/' :: ·)).flatten ++ rest)) =
        some ((.context, [t]), (texts.map ('/' :: ·)).flatten ++ rest) := by
      rw [pathHead_of_ahead (ahead_step_ne_slash hs hprints),
        step_append hn hs hp.1 hprints hk.1 follow, Option.map_some]
    rw [intercalate_cons, List.append_assoc]
    exact path_of_head (primary_step hs hprints follow) head hruns

/-- The steps of a path from the root, unless there are none, are read as behind another path. -/
theorem path_root (hs : ReadableSteps steps)
    (h : List.Forall₂ (PathStep.Prints Expr.Prints) steps texts)
    (hk : ∀ t ∈ texts, t.length ≤ k) (hr : Closing rest) :
    path nested ('/' :: (['/'].intercalate texts ++ rest)) = some (.path .root steps, rest) := by
  have no_primary (s : List Char) : primary nested ('/' :: s) = none := rfl
  by_cases hne : steps = []
  · subst hne
    cases h
    have head : pathHead nested ('/' :: rest) = some ((.root, []), rest) := by
      rw [pathHead_slash (hr.of_mem (by decide)), maybe_of_none (step_closing hr)]
      rfl
    exact path_of_head (no_primary _) head (.stop (nextSteps_eq_none (hr.of_mem (by decide))))
  · obtain ⟨lists, hruns, rfl⟩ := runs_nextSteps hn hs h hk hr
    rw [slash_intercalate h hne]
    cases lists with
    | nil => exact absurd rfl hne
    | cons =>
      cases hruns with
      | next first _ others =>
        refine path_of_head ?_ (pathHead_of_nextSteps first) others
        rw [← slash_intercalate h hne]
        exact no_primary _

theorem path_value (he : e.Readable) (hpath : e.isPath = false) (hne : steps ≠ [])
    (hs : ReadableSteps steps) (hprints : e.Prints text) (hlt : text.length < k)
    (h : List.Forall₂ (PathStep.Prints Expr.Prints) steps texts)
    (hk : ∀ t ∈ texts, t.length ≤ k) (hr : Closing rest) :
    path nested (parens text ++ '/' :: (['/'].intercalate texts ++ rest)) =
      some (.path (.value e) steps, rest) := by
  obtain ⟨lists, hruns, hsteps⟩ := runs_nextSteps hn hs h hk hr
  have start : primary nested (parens text ++ ((texts.map ('/' :: ·)).flatten ++ rest)) =
      some (e, (texts.map ('/' :: ·)).flatten ++ rest) := by
    rw [primary_parens hn he hprints hlt,
      dropWhile_of_ahead ((afterStep_slashes texts hr).of_mem (by decide))]
  rw [slash_intercalate h hne, path_of_primary start hruns, hsteps, extend_of_not_path hpath hne]

/-- **A printed path is read back.** -/
theorem path_path {front : List Char} (h : (Expr.path start steps).Readable)
    (hfront : PathStart.Prints Expr.Prints start front)
    (hsteps : List.Forall₂ (PathStep.Prints Expr.Prints) steps texts)
    (hk : (front ++ ['/'].intercalate texts).length ≤ k) (hr : Closing rest) :
    path nested (front ++ ['/'].intercalate texts ++ rest) = some (.path start steps, rest) := by
  have short : ∀ t ∈ texts, t.length ≤ k := by
    intro t ht
    have := length_le_intercalate '/' ht
    rw [List.length_append] at hk
    omega
  cases hfront with
  | context =>
    cases h with
    | context hs hw hp => exact path_context hn hs hw hp hsteps short hr
  | root => exact path_root hn h.readableSteps hsteps short hr
  | @value e text hprints =>
    cases h with
    | value he hpath hne hw hp =>
      have lt : text.length < k := by
        simp only [parens, List.length_append, List.length_cons] at hk
        omega
      rw [List.append_assoc, List.append_assoc]
      exact path_value hn he hpath hne ⟨hw, hp⟩ hprints lt hsteps short hr

/-- **A printed operand is read back**, if it is no operation. -/
theorem path_append (he : e.Readable) (hp : e.Prints text) (hop : e.isOperation = false)
    (hk : text.length ≤ k) (hr : Closing rest) : path nested (text ++ rest) = some (e, rest) := by
  have single (h : primary nested (text ++ rest) = some (e, rest)) :
      path nested (text ++ rest) = some (e, rest) :=
    path_of_primary h (.stop (nextSteps_eq_none (hr.of_mem (by decide))))
  cases hp with
  | literal hq hnot => exact single (primary_literal hq hnot)
  | number hds hx => exact single (primary_number hds hx hr)
  | «variable» =>
    cases he with
    | «variable» hname => exact single (primary_variable hname hr)
  | call hargs =>
    cases he with
    | call hname hne ha =>
      refine single (primary_call hn hname hne ha hargs (fun t ht => ?_) hr)
      have := length_le_intercalate ',' ht
      simp only [parens, List.length_append, List.length_cons] at hk
      omega
  | binary _ _ => cases hop
  | negate _ => cases hop
  | path hfront hsteps => exact path_path hn he hfront hsteps hk hr

end Rereads

end PageGrid.Expr.Grammar
