import PageGrid.Proofs.Text.Scan

/-!
# Words

The words of a text are computed one after the other: blanks are dropped, and what comes up to the next
blank is a word. What the words are can be said without that order of work. The text falls apart into
words and blanks around them, and no word can be longer, since a blank or the end follows. A text falls
apart in this way once, so the computation gives the only list of words that there is.

## Main definitions

* `WordsOf` — a text falls apart into words and blanks around them.

## Main results

* `wordsOf_iff` — the words of a text are the only ones;
* `flatten_words` — they are the text without its blanks;
* `words_intercalate` — joined by spaces they are found again.
-/

namespace PageGrid.Text

variable {c : Char} {cs gap word text rest : List Char} {ws : List (List Char)}

/-- The text falls apart into the words and blanks around them. A word is a run of characters that are
not blank, with a blank or the end of the text behind it. -/
inductive WordsOf : List Char → List (List Char) → Prop
  | blank {gap : List Char} : (∀ c ∈ gap, isBlank c = true) → WordsOf gap []
  | word {gap word rest : List Char} {ws : List (List Char)} :
      (∀ c ∈ gap, isBlank c = true) → word ≠ [] → (∀ c ∈ word, isBlank c = false) →
        Ahead (isBlank · = true) rest → WordsOf rest ws → WordsOf (gap ++ (word ++ rest)) (word :: ws)

/-! ### What is computed -/

/-- A text falls apart into its words. -/
theorem wordsOf_wordsUpTo {fuel : Nat} (h : cs.length ≤ fuel) : WordsOf cs (wordsUpTo fuel cs) := by
  induction fuel generalizing cs with
  | zero =>
    obtain rfl := List.length_eq_zero_iff.mp (Nat.le_zero.mp h)
    exact .blank nofun
  | succ fuel ih =>
    rw [wordsUpTo]
    split
    · next hblank => exact .blank (List.dropWhile_eq_nil_iff.mp hblank)
    · next c rest hdrop =>
      have hc : isBlank c = false := by
        have hne : cs.dropWhile isBlank ≠ [] := by simp [hdrop]
        simpa [hdrop] using List.head_dropWhile_not isBlank hne
      -- the blanks in front, the word, and what comes behind it
      have htext : cs = cs.takeWhile isBlank ++
          ((c :: rest).takeWhile (!isBlank ·) ++ (c :: rest).dropWhile (!isBlank ·)) := by
        rw [List.takeWhile_append_dropWhile, ← hdrop, List.takeWhile_append_dropWhile]
      have hbehind : Ahead (isBlank · = true) ((c :: rest).dropWhile (!isBlank ·)) := by
        intro d hd
        have hnot := List.head?_dropWhile_not (!isBlank ·) (c :: rest)
        rw [Option.mem_def.mp hd] at hnot
        simpa using hnot
      have hshort : ((c :: rest).dropWhile (!isBlank ·)).length ≤ fuel := by
        have hlength := congrArg List.length htext
        have hword : 1 ≤ ((c :: rest).takeWhile (!isBlank ·)).length := by
          simp [hc]
        rw [List.length_append, List.length_append] at hlength
        omega
      have hgap : ∀ d ∈ cs.takeWhile isBlank, isBlank d = true :=
        fun d hd => List.mem_takeWhile_imp hd
      have hword : ∀ d ∈ (c :: rest).takeWhile (!isBlank ·), isBlank d = false :=
        fun d hd => by simpa using List.mem_takeWhile_imp hd
      have hsplit := WordsOf.word hgap (by simp [hc]) hword hbehind (ih hshort)
      rwa [← htext] at hsplit

/-- There are no other words. -/
theorem WordsOf.wordsUpTo_eq {fuel : Nat} (h : WordsOf cs ws) (hf : cs.length ≤ fuel) :
    wordsUpTo fuel cs = ws := by
  induction h generalizing fuel with
  | blank hgap =>
    cases fuel with
    | zero => rfl
    | succ fuel => rw [wordsUpTo, List.dropWhile_eq_nil_iff.mpr hgap]
  | @word gap word rest ws hgap hne hword hrest _ ih =>
    obtain ⟨c, word, rfl⟩ := List.exists_cons_of_ne_nil hne
    have hc : isBlank c = false := hword c (List.mem_cons_self ..)
    have hlength : gap.length + (word.length + rest.length + 1) ≤ fuel := by simpa using hf
    obtain ⟨fuel, rfl⟩ : ∃ n, fuel = n + 1 := Nat.exists_eq_add_one.mpr (by omega)
    have hdrop : (gap ++ (c :: word ++ rest)).dropWhile isBlank = c :: (word ++ rest) := by
      rw [List.dropWhile_append_of_pos hgap]
      simp [hc]
    have hstop : Ahead ((fun d => !isBlank d) · = false) rest := hrest.mono fun d hd => by simp [hd]
    have htake : (c :: (word ++ rest)).takeWhile (!isBlank ·) = c :: word := by
      rw [← List.cons_append, takeWhile_append_of_ahead hstop]
      exact List.takeWhile_eq_self_iff.mpr fun d hd => by simp [hword d hd]
    have hnext : (c :: (word ++ rest)).dropWhile (!isBlank ·) = rest := by
      rw [← List.cons_append, dropWhile_append_of_ahead hstop,
        List.dropWhile_eq_nil_iff.mpr fun d hd => by simp [hword d hd], List.nil_append]
    rw [wordsUpTo, hdrop]
    dsimp only
    rw [htake, hnext, ih (by omega)]

/-- **The words of a text** are the only ones that it falls apart into. -/
theorem wordsOf_iff : WordsOf text ws ↔ words text = ws := by
  constructor
  · intro h
    exact h.wordsUpTo_eq (Nat.le_refl _)
  · rintro rfl
    exact wordsOf_wordsUpTo (Nat.le_refl _)

theorem wordsOf_words (text : List Char) : WordsOf text (words text) := wordsOf_iff.mpr rfl

/-! ### Words and their characters -/

/-- A word has characters, none of which is blank. -/
theorem WordsOf.of_mem (h : WordsOf text ws) (hw : word ∈ ws) :
    word ≠ [] ∧ ∀ c ∈ word, isBlank c = false := by
  induction h with
  | blank => cases hw
  | word _ hne hword _ _ ih =>
    rcases List.mem_cons.mp hw with rfl | hw
    · exact ⟨hne, hword⟩
    · exact ih hw

/-- Words are a text without its blanks. -/
theorem WordsOf.flatten (h : WordsOf text ws) : ws.flatten = text.filter (!isBlank ·) := by
  induction h with
  | blank hgap => simpa using hgap
  | @word gap word _ _ hgap _ hword _ _ ih =>
    have hnone : gap.filter (!isBlank ·) = [] := by simpa using hgap
    have hall : word.filter (!isBlank ·) = word := by simpa using hword
    rw [List.flatten_cons, ih, List.filter_append, List.filter_append, hnone, hall, List.nil_append]

theorem flatten_words (text : List Char) : (words text).flatten = text.filter (!isBlank ·) :=
  (wordsOf_words text).flatten

/-! ### Words joined by spaces -/

/-- A blank in front makes no difference. -/
theorem WordsOf.cons (hc : isBlank c = true) (h : WordsOf text ws) : WordsOf (c :: text) ws := by
  cases h with
  | blank hgap => exact .blank (List.forall_mem_cons.mpr ⟨hc, hgap⟩)
  | @word gap _ _ _ hgap hne hword hrest h =>
    have hgap' : ∀ d ∈ c :: gap, isBlank d = true := List.forall_mem_cons.mpr ⟨hc, hgap⟩
    exact .word hgap' hne hword hrest h

/-- Words with single spaces between them fall apart into these words. -/
theorem wordsOf_intercalate (h : ∀ w ∈ ws, w ≠ [] ∧ ∀ c ∈ w, isBlank c = false) :
    WordsOf ([' '].intercalate ws) ws := by
  have hnone : ∀ c ∈ ([] : List Char), isBlank c = true := nofun
  induction ws with
  | nil => exact .blank hnone
  | cons w ws ih =>
    rw [List.forall_mem_cons] at h
    obtain ⟨⟨hne, hw⟩, hws⟩ := h
    cases ws with
    | nil => simpa using WordsOf.word hnone hne hw .nil (.blank hnone)
    | cons w' ws =>
      rw [List.intercalate_cons_cons]
      have hspace : isBlank ' ' = true := by decide
      simpa using WordsOf.word hnone hne hw (Ahead.cons_iff.mpr hspace)
        ((ih hws).cons hspace)

theorem words_intercalate (h : ∀ w ∈ ws, w ≠ [] ∧ ∀ c ∈ w, isBlank c = false) :
    words ([' '].intercalate ws) = ws :=
  wordsOf_iff.mp (wordsOf_intercalate h)

end PageGrid.Text
