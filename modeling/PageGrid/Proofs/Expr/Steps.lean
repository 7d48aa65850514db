import PageGrid.Proofs.Expr.Printed

/-!
# Reading printed steps

A printed step is read back as itself, and a row of steps with a slash before each is read back as
that row. What follows matters at three places, and only by its first character: behind a test may
stand a predicate, behind a step another step, and behind both a bracket or a comma, which end the
expression.

Predicates contain expressions, whose reader is a parameter here. `Rereads p k` says what is assumed
of it: it reads back the printed forms of fewer than `k` characters. Since a predicate stands in
brackets, this is enough for a step of `k` characters.

## Main definitions

* `Closing`, `AfterStep`, `AfterTest` — what may follow an expression, a step and a node test;
* `Rereads` — a reader of expressions reads back what is printed.

## Main results

* `stepHead_append`, `step_append` — a printed step is read back;
* `runs_nextSteps` — steps with slashes are read back.
-/

namespace PageGrid.Expr.Grammar

open Text Text.Scan

variable {cs rest s head text : List Char} {test : NodeTest} {axis : PathAxis} {t : PathStep}
variable {e : Expr} {predicates : List Expr} {steps : List PathStep} {texts : List (List Char)}

/-! ### What may follow -/

/-- An expression ends here: with the text, or before a closing bracket or a comma. -/
def Closing (rest : List Char) : Prop := Ahead (· ∈ [')', ']', ',']) rest

/-- A step ends here: another one may follow. -/
def AfterStep (rest : List Char) : Prop := Ahead (· ∈ ['/', ')', ']', ',']) rest

/-- A node test ends here: a predicate may follow. -/
def AfterTest (rest : List Char) : Prop := Ahead (· ∈ ['[', '/', ')', ']', ',']) rest

theorem Closing.afterStep (h : Closing rest) : AfterStep rest := h.of_mem (by decide)

theorem AfterStep.afterTest (h : AfterStep rest) : AfterTest rest := h.of_mem (by decide)

/-- A name ends where a test ends. -/
theorem AfterTest.name_ends (h : AfterTest rest) :
    Ahead (fun c => isNameChar c = false ∧ c ≠ ':') rest :=
  h.of_mem (by decide)

/-- Behind a test stand its predicates. -/
theorem afterTest_predicates (texts : List (List Char)) (h : AfterStep rest) :
    AfterTest ((texts.map brackets).flatten ++ rest) := by
  cases texts with
  | nil => exact h.afterTest
  | cons => exact Ahead.cons_iff.mpr (by decide)

/-- Behind a step stand the further ones. -/
theorem afterStep_slashes (texts : List (List Char)) (h : Closing rest) :
    AfterStep ((texts.map ('/' :: ·)).flatten ++ rest) := by
  cases texts with
  | nil => exact h.afterStep
  | cons => exact Ahead.cons_iff.mpr (by decide)

/-- Behind an argument stand the further ones and the end of the call. -/
theorem closing_args (texts : List (List Char)) (rest : List Char) :
    Closing ((texts.map (',' :: ·)).flatten ++ ')' :: rest) := by
  cases texts <;> exact Ahead.cons_iff.mpr (by decide)

/-! ### Node tests -/

/-- Where a text of one kind of characters is followed by one of another kind, any beginning that
has none of the other kind leaves one of both kinds ahead. -/
theorem ahead_of_append_eq {P Q : Char → Prop} {w u : List Char} (hcs : ∀ c ∈ cs, P c)
    (hrest : Ahead Q rest) (hw : ∀ c ∈ w, ¬Q c) (h : cs ++ rest = w ++ u) :
    Ahead (fun c => P c ∨ Q c) u := by
  induction w generalizing cs with
  | nil =>
    rw [List.nil_append] at h
    subst h
    exact Ahead.append (fun c hc => .inl (hcs c (List.mem_of_mem_head? hc)))
      (hrest.mono fun _ => .inr)
  | cons d w ih =>
    cases cs with
    | nil =>
      rw [List.nil_append, List.cons_append] at h
      rw [h, Ahead.cons_iff] at hrest
      exact absurd hrest (hw d (by simp))
    | cons c cs =>
      simp only [List.cons_append, List.cons.injEq] at h
      exact ih (fun c hc => hcs c (by simp [hc])) (fun c hc => hw c (by simp [hc])) h.2

/-- A name is never followed by a parenthesis, so it is no test for a node type even if it begins
with the word of one. -/
theorem nodeType_eq_none (hn : IsName cs) (hr : AfterTest rest) : nodeType (cs ++ rest) = none := by
  have delimiter : ∀ c ∈ ['[', '/', ')', ']', ','], isAsciiBlank c = false ∧ c ≠ '(' :=
    forall_mem_of_all (by decide)
  have opening {w u : List Char} (hw : ∀ c ∈ w, c ∉ ['[', '/', ')', ']', ','])
      (h : Scan.chars w (cs ++ rest) = some ((), u)) : Scan.padded (Scan.char '(') u = none := by
    have ahead := ahead_of_append_eq hn.isNameChar_or_colon hr hw (eq_append_of_chars h)
    refine padded_char_eq_none (ahead.mono fun c hc => ?_)
    obtain (hc | rfl) | hc := hc
    · exact ⟨isAsciiBlank_of_isBlank (isBlank_of_isNameChar hc), ne_of_test hc (by decide)⟩
    · decide
    · exact delimiter c hc
  simp only [nodeType, bind_apply, orElse_apply, seqRight_apply, Scan.word]
  cases htext : Scan.chars "text".toList (cs ++ rest) with
  | some x => simp [opening (forall_mem_of_all (by decide)) htext]
  | none =>
    cases hnode : Scan.chars "node".toList (cs ++ rest) with
    | some x => simp [opening (forall_mem_of_all (by decide)) hnode]
    | none => rfl

/-- **A printed node test is read back.** -/
theorem nodeTest_append (h : test.Readable) (hr : AfterTest rest) :
    nodeTest (test.written ++ rest) = some (test, rest) := by
  cases test with
  | name n =>
    have star : Scan.char '*' (n.toList ++ rest) = none :=
      char_eq_none (h.ahead.mono fun c hc => ne_of_test hc (by decide))
    change nodeTest (n.toList ++ rest) = _
    simp [nodeTest, star, nodeType_eq_none h hr, name_append h hr.name_ends]
  | any => rfl
  | text => rfl
  | node => rfl

/-! ### Steps -/

/-- What a printed step begins with. -/
def BeginsStep (c : Char) : Prop := isNameStart c = true ∨ c ∈ ['.', '@', '*']

theorem BeginsStep.ne {c d : Char} (h : BeginsStep c) (hd : isNameStart d = false)
    (hd' : d ∉ ['.', '@', '*']) : c ≠ d := by
  obtain h | h := h
  · exact ne_of_test h hd
  · rintro rfl
    exact hd' h

theorem BeginsStep.isAsciiBlank {c : Char} (h : BeginsStep c) : isAsciiBlank c = false := by
  obtain h | h := h
  · exact isAsciiBlank_of_isBlank (isBlank_of_isNameChar (isNameChar_of_isNameStart h))
  · have signs : ∀ c ∈ ['.', '@', '*'], Text.isAsciiBlank c = false :=
      forall_mem_of_all (by decide)
    exact signs c h

theorem ahead_written (h : test.Readable) :
    Ahead (fun c => isNameStart c = true ∨ c = '*') (test.written ++ rest) := by
  cases test with
  | name n => exact h.ahead.mono fun _ => .inl
  | any => exact Ahead.cons_iff.mpr (.inr rfl)
  | text => exact Ahead.cons_iff.mpr (.inl (by decide))
  | node => exact Ahead.cons_iff.mpr (.inl (by decide))

theorem ahead_written_ne {c : Char} (h : test.Readable) (hc : isNameStart c = false)
    (hstar : '*' ≠ c) : Ahead (· ≠ c) (test.written ++ rest) :=
  (ahead_written h).mono fun d hd => by
    obtain hd | rfl := hd
    · exact ne_of_test hd hc
    · exact hstar

theorem ahead_head (h : (PathStep.mk axis test predicates).Explicit)
    (hp : PathStep.HeadPrints axis test head) : Ahead BeginsStep (head ++ rest) := by
  cases h with
  | self => cases hp; exact Ahead.cons_iff.mpr (.inr (by decide))
  | parent => cases hp; exact Ahead.cons_iff.mpr (.inr (by decide))
  | «attribute» _ => cases hp; exact Ahead.cons_iff.mpr (.inr (by decide))
  | child ht =>
    cases hp
    exact (ahead_written ht).mono fun c hc => hc.imp id (by rintro rfl; decide)

/-- Between two slashes nothing is printed. -/
theorem prints_descend {prints : Expr → List Char → Prop}
    (h : PathStep.Prints prints .descend text) : text = [] := by
  cases h with
  | descend => rfl
  | written hhead _ => cases hhead

theorem ahead_step (hs : t.Explicit) (h : PathStep.Prints Expr.Prints t text) :
    Ahead BeginsStep (text ++ rest) := by
  cases h with
  | descend => cases hs
  | written hhead _ =>
    rw [List.append_assoc]
    exact ahead_head hs hhead

theorem ahead_step_ne_slash (hs : t.Explicit) (h : PathStep.Prints Expr.Prints t text) :
    Ahead (· ≠ '/') (text ++ rest) :=
  (ahead_step hs h).mono fun _ hc => hc.ne (by decide) (by decide)

/-- **A printed step head is read back.** -/
theorem stepHead_append (h : (PathStep.mk axis test predicates).Explicit)
    (hp : PathStep.HeadPrints axis test head) (hr : AfterTest rest) :
    stepHead (head ++ rest) = some ((axis, test), rest) := by
  cases h with
  | parent => cases hp; rfl
  | self =>
    cases hp
    have up : Scan.word ".." ('.' :: rest) = none := by
      have : Scan.chars ['.'] rest = none := chars_eq_none (hr.of_mem (by decide))
      exact this
    simp [stepHead, up]
  | «attribute» ht =>
    cases hp
    have up : Scan.word ".." ('@' :: (test.written ++ rest)) = none := rfl
    simp [stepHead, up, nodeTest_append ht hr, char_eq_none]
  | child ht =>
    cases hp
    have dot : Ahead (· ≠ '.') (test.written ++ rest) :=
      ahead_written_ne ht (by decide) (by decide)
    have at_sign : Ahead (· ≠ '@') (test.written ++ rest) :=
      ahead_written_ne ht (by decide) (by decide)
    have up : Scan.word ".." (test.written ++ rest) = none := chars_eq_none dot
    simp [stepHead, up, char_eq_none dot, char_eq_none at_sign, nodeTest_append ht hr]

/-! ### Predicates -/

/-- No blank stands before a printed form. -/
theorem ahead_printed (he : e.Readable) (hp : e.Prints text) (hr : Closing rest) :
    Ahead (isAsciiBlank · = false) (text ++ rest) :=
  Ahead.append ((he.solid hp).1.mono fun _ => isAsciiBlank_of_isBlank) (hr.of_mem (by decide))

/-- A bracket or a comma before a printed form, which no blank follows. -/
theorem padded_char_printed {c : Char} (hc : isAsciiBlank c = false) (he : e.Readable)
    (hp : e.Prints text) (hr : Closing rest) :
    Scan.padded (Scan.char c) (c :: (text ++ rest)) = some (c, text ++ rest) := by
  rw [padded_char hc, dropWhile_of_ahead (ahead_printed he hp hr)]

/-- The reader reads back the printed forms of fewer than `k` characters, and finds no expression
before a closing parenthesis. -/
structure Rereads (p : Scan Expr) (k : Nat) : Prop where
  reads : ∀ {e : Expr} {text rest : List Char}, e.Readable → e.Prints text → text.length < k →
    Closing rest → p (text ++ rest) = some (e, rest)
  closing : ∀ rest, p (')' :: rest) = none

section Nested

variable {nested : Scan Expr}

theorem nextSteps_eq_none (h : Ahead (· ≠ '/') s) : nextSteps nested s = none := by
  have double : Scan.word "//" s = none := chars_eq_none h
  simp [nextSteps, double, char_eq_none h]

variable {k : Nat} (hn : Rereads nested k)

include hn

/-- **A printed predicate is read back.** -/
theorem predicate_append (he : e.Readable) (hp : e.Prints text) (hk : text.length < k)
    (hr : AfterTest rest) : predicate nested (brackets text ++ rest) = some (e, rest) := by
  have closing : Closing (']' :: rest) := Ahead.cons_iff.mpr (by decide)
  have opened := padded_char_printed (c := '[') (by decide) he hp closing
  have inner : nested (text ++ ']' :: rest) = some (e, ']' :: rest) := hn.reads he hp hk closing
  have closed : Scan.padded (Scan.char ']') (']' :: rest) = some (']', rest) := by
    rw [padded_char (by decide), dropWhile_of_ahead (hr.of_mem (by decide))]
  simp [predicate, brackets, opened, inner, closed]

theorem runs_predicates (he : ∀ p ∈ predicates, p.Readable)
    (hp : List.Forall₂ Expr.Prints predicates texts) (hk : ∀ t ∈ texts, t.length < k)
    (hr : AfterStep rest) :
    Runs (predicate nested) ((texts.map brackets).flatten ++ rest) predicates rest := by
  induction hp with
  | nil =>
    have closed : Scan.padded (Scan.char '[') rest = none :=
      padded_char_eq_none (hr.of_mem (by decide))
    exact .stop (by simp [predicate, closed])
  | @cons p text predicates texts hp _ ih =>
    simp only [List.mem_cons, forall_eq_or_imp] at he hk
    have follow := afterTest_predicates texts hr
    rw [List.map_cons, List.flatten_cons, List.append_assoc]
    refine .next (predicate_append hn he.1 hp hk.1 follow) ?_ (ih he.2 hk.2)
    exact length_lt_cons_append '[' (text ++ [']']) _

/-- **A printed step is read back.** -/
theorem step_append (hs : t.Explicit) (hp : ∀ p ∈ t.predicates, p.Readable)
    (h : PathStep.Prints Expr.Prints t text) (hk : text.length ≤ k) (hr : AfterStep rest) :
    step nested (text ++ rest) = some (t, rest) := by
  cases h with
  | descend => cases hs
  | @written axis test predicates head texts hhead htexts =>
    have short : ∀ t ∈ texts, t.length < k := by
      intro t ht
      have : (brackets t).length ≤ (texts.map brackets).flatten.length :=
        (List.sublist_flatten_of_mem (List.mem_map_of_mem ht)).length_le
      simp only [brackets, List.length_append, List.length_cons] at this hk
      omega
    have follow := afterTest_predicates texts hr
    have predicates := (runs_predicates hn hp htexts short hr).many
    simp only [List.append_assoc, step, bind_apply, stepHead_append hs hhead follow,
      Option.bind_some, predicates, pure_apply]
    rfl

/-! ### Slashes -/

/-- A slash and a printed step. No step begins with a slash, so this is no double slash. -/
theorem nextSteps_step (hs : t.Explicit) (hp : ∀ p ∈ t.predicates, p.Readable)
    (h : PathStep.Prints Expr.Prints t text) (hk : text.length ≤ k) (hr : AfterStep rest) :
    nextSteps nested ('/' :: (text ++ rest)) = some ([t], rest) := by
  have double : Scan.word "//" ('/' :: (text ++ rest)) = none := by
    have : Scan.chars ['/'] (text ++ rest) = none := chars_eq_none (ahead_step_ne_slash hs h)
    exact this
  simp [nextSteps, double, step_append hn hs hp h hk hr]

/-- A double slash and a printed step. -/
theorem nextSteps_descend (hs : t.Explicit) (hp : ∀ p ∈ t.predicates, p.Readable)
    (h : PathStep.Prints Expr.Prints t text) (hk : text.length ≤ k) (hr : AfterStep rest) :
    nextSteps nested ('/' :: '/' :: (text ++ rest)) = some ([.descend, t], rest) := by
  have double : Scan.word "//" ('/' :: '/' :: (text ++ rest)) = some ((), text ++ rest) := rfl
  simp [nextSteps, double, step_append hn hs hp h hk hr]

/-- **Steps with slashes are read back**, those that print as nothing together with the next one. -/
theorem runs_nextSteps (hs : ReadableSteps steps)
    (h : List.Forall₂ (PathStep.Prints Expr.Prints) steps texts) (hk : ∀ t ∈ texts, t.length ≤ k)
    (hr : Closing rest) :
    ∃ lists, Runs (nextSteps nested) ((texts.map ('/' :: ·)).flatten ++ rest) lists rest ∧
      lists.flatten = steps := by
  obtain ⟨hw, hp⟩ := hs
  induction hw generalizing texts with
  | nil =>
    cases h
    exact ⟨[], .stop (nextSteps_eq_none (hr.of_mem (by decide))), rfl⟩
  | @step s steps hs _ ih =>
    cases h with
    | @cons _ text _ texts hprints htail =>
      simp only [List.mem_cons, forall_eq_or_imp] at hp hk
      obtain ⟨lists, hruns, rfl⟩ := ih htail hk.2 hp.2
      have read := nextSteps_step hn hs hp.1 hprints hk.1 (afterStep_slashes texts hr)
      refine ⟨[s] :: lists, ?_, by simp⟩
      simp only [List.map_cons, List.flatten_cons, List.cons_append, List.append_assoc]
      exact .next read (length_lt_cons_append '/' text _) hruns
  | @descend s steps hs _ ih =>
    cases h with
    | cons hdescend htail =>
    cases htail with
    | @cons _ text _ texts hprints htail =>
      obtain rfl : _ = [] := prints_descend hdescend
      simp only [List.mem_cons, forall_eq_or_imp] at hp hk
      obtain ⟨lists, hruns, rfl⟩ := ih htail hk.2.2 hp.2.2
      have read := nextSteps_descend hn hs hp.2.1 hprints hk.2.1 (afterStep_slashes texts hr)
      refine ⟨[.descend, s] :: lists, ?_, by simp⟩
      simp only [List.map_cons, List.flatten_cons, List.cons_append, List.nil_append,
        List.append_assoc]
      exact .next read (length_lt_cons_append '/' ('/' :: text) _) hruns

end Nested

end PageGrid.Expr.Grammar
