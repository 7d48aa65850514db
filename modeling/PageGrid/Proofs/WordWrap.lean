import Mathlib.Data.List.Chain
import Mathlib.Data.List.Forall2
import PageGrid.Proofs.Text.Words
import PageGrid.Typeset

/-!
# Word wrap

A text is set in lines by cutting its words into pieces that are not longer than a line and putting as
many pieces into every line as fit. Two questions are apart: what the pieces are, and how they get into
lines. The first is answered word by word, by `CutInto`. For the second it is convenient to keep the
lines as lists of pieces, in `lineGroups`, since the pieces of a line can be read off the line only
because no piece has a blank in it. The filled lines are these lists with spaces between the pieces.

Nothing is said about the width of a line in points, only about its number of characters.

## Main definitions

* `CutInto` — a word is cut into pieces;
* `lineGroups` — the pieces of every line.

## Main results

* `cutInto_chunks` — how words are cut;
* `fillLines_eq_map` — lines are their pieces with spaces between them;
* `wrap_greedy` — what wrapping does with the pieces of a text;
* `filter_flatten_wrap` — the characters of the lines that are not blank are those of the text.
-/

namespace PageGrid.Typeset

open Text (words WordsOf isBlank)

variable {width fuel : Nat} {word piece text : List Char}
  {group ps : List (List Char)} {groups : List (List (List Char))}

/-! ### Pieces -/

/-- The word is cut into the pieces. In order they make up the word, all of them fit on a line, and only
the last one may leave room there. -/
structure CutInto (width : Nat) (word : List Char) (ps : List (List Char)) : Prop where
  flatten : ps.flatten = word
  length : ∀ p ∈ ps, 1 ≤ p.length ∧ p.length ≤ width
  full : ∀ p ∈ ps.dropLast, p.length = width

theorem cutInto_chunksUpTo (hw : 1 ≤ width) (hf : word.length ≤ fuel) :
    CutInto width word (chunksUpTo width fuel word) := by
  induction fuel generalizing word with
  | zero =>
    obtain rfl := List.length_eq_zero_iff.mp (Nat.le_zero.mp hf)
    exact ⟨rfl, nofun, nofun⟩
  | succ fuel ih =>
    cases word with
    | nil => exact ⟨rfl, nofun, nofun⟩
    | cons c rest =>
      rw [chunksUpTo]
      have hlength : (c :: rest).length = rest.length + 1 := List.length_cons
      have hdrop : ((c :: rest).drop width).length = (c :: rest).length - width := List.length_drop
      have htake : ((c :: rest).take width).length = min width (c :: rest).length := List.length_take
      have hfuel : ((c :: rest).drop width).length ≤ fuel := by omega
      obtain ⟨hflatten, hlengths, hfull⟩ := ih hfuel
      refine ⟨?_, List.forall_mem_cons.mpr ⟨by omega, hlengths⟩, ?_⟩
      · rw [List.flatten_cons, hflatten, List.take_append_drop]
      · -- the first piece is full unless nothing comes after it
        generalize hafter : chunksUpTo width fuel ((c :: rest).drop width) = after at hflatten hfull ⊢
        cases after with
        | nil => exact nofun
        | cons p after =>
          rw [List.dropLast_cons_cons]
          have hpos : 0 < ((c :: rest).drop width).length := by
            have hp := (hlengths p (hafter ▸ List.mem_cons_self ..)).1
            rw [← hflatten, List.flatten_cons, List.length_append]
            omega
          exact List.forall_mem_cons.mpr ⟨by omega, hfull⟩

/-- **How words are cut.** -/
theorem cutInto_chunks (hw : 1 ≤ width) (word : List Char) :
    CutInto width word (chunks width word) :=
  cutInto_chunksUpTo hw (Nat.le_refl _)

/-- A word that fits on a line is not cut. -/
theorem CutInto.eq_singleton (h : CutInto width word ps) (hne : word ≠ [])
    (hl : word.length ≤ width) : ps = [word] := by
  obtain ⟨hflatten, hlength, hfull⟩ := h
  match ps with
  | [] => exact absurd hflatten.symm hne
  | [p] => simpa using hflatten
  | p :: q :: rest =>
    have hp : p.length = width := hfull p (by simp)
    have hq := (hlength q (by simp)).1
    have htotal := congrArg List.length hflatten
    simp only [List.flatten_cons, List.length_append] at htotal
    omega

/-- The pieces of a text have characters, none of which is blank. -/
theorem of_mem_pieces (hw : 1 ≤ width) (hp : piece ∈ pieces width text) :
    (1 ≤ piece.length ∧ piece.length ≤ width) ∧ ∀ c ∈ piece, isBlank c = false := by
  obtain ⟨word, hword, hpiece⟩ := List.mem_flatMap.mp hp
  have hcut := cutInto_chunks hw word
  refine ⟨hcut.length piece hpiece, fun c hc => ?_⟩
  refine ((Text.wordsOf_words text).of_mem hword).2 c ?_
  rw [← hcut.flatten]
  exact List.mem_flatten.mpr ⟨piece, hpiece, hc⟩

/-! ### Pieces in lines -/

/-- The pieces of each line, where the pieces of the line that is being filled are given. -/
def lineGroups (width : Nat) (group : List (List Char)) :
    List (List Char) → List (List (List Char))
  | [] => [group]
  | piece :: rest =>
    if ([' '].intercalate group).length + 1 + piece.length ≤ width then
      lineGroups width (group ++ [piece]) rest
    else group :: lineGroups width [piece] rest

/-- A further piece comes after a space. -/
theorem intercalate_append_singleton (hne : group ≠ []) (piece : List Char) :
    [' '].intercalate (group ++ [piece]) = [' '].intercalate group ++ ' ' :: piece := by
  induction group with
  | nil => exact absurd rfl hne
  | cons first group ih =>
    cases group with
    | nil => simp
    | cons second group =>
      have hrest := ih (List.cons_ne_nil _ _)
      rw [List.cons_append] at hrest
      simp only [List.cons_append, List.intercalate_cons_cons, hrest, List.append_assoc]

theorem intercalate_ne_nil (hne : group ≠ []) (h : ∀ p ∈ group, p ≠ []) :
    [' '].intercalate group ≠ [] := by
  obtain ⟨first, group, rfl⟩ := List.exists_cons_of_ne_nil hne
  have hfirst := h first (List.mem_cons_self ..)
  cases group with
  | nil => simpa using hfirst
  | cons second group => simp [List.intercalate_cons_cons]

/-- Filled lines are their pieces with spaces between them. -/
theorem fillLines_eq_map (hne : group ≠ []) (hgroup : ∀ p ∈ group, p ≠ [])
    (hps : ∀ p ∈ ps, p ≠ []) :
    fillLines width ([' '].intercalate group) ps =
      (lineGroups width group ps).map ([' '].intercalate ·) := by
  induction ps generalizing group with
  | nil => simp [fillLines, lineGroups, intercalate_ne_nil hne hgroup]
  | cons piece rest ih =>
    obtain ⟨hpiece, hrest⟩ := List.forall_mem_cons.mp hps
    have hopen : ([' '].intercalate group).isEmpty = false :=
      List.isEmpty_eq_false_iff.mpr (intercalate_ne_nil hne hgroup)
    rw [fillLines, lineGroups, hopen, if_neg Bool.false_ne_true]
    split
    · have hlonger : ∀ p ∈ group ++ [piece], p ≠ [] := by
        intro p hp
        rcases List.mem_append.mp hp with hp | hp
        · exact hgroup p hp
        · exact List.mem_singleton.mp hp ▸ hpiece
      rw [← intercalate_append_singleton hne, ih (by simp) hlonger hrest]
    · have hnext := ih (List.cons_ne_nil piece []) (by simpa using hpiece) hrest
      rw [List.intercalate_singleton] at hnext
      rw [hnext, List.map_cons]

/-- No piece is lost, and none is moved. -/
theorem flatten_lineGroups : (lineGroups width group ps).flatten = group ++ ps := by
  induction ps generalizing group with
  | nil => simp [lineGroups]
  | cons piece rest ih =>
    rw [lineGroups]
    split
    · rw [ih, List.append_assoc, List.singleton_append]
    · rw [List.flatten_cons, ih, List.singleton_append]

/-- The first line begins with the pieces that it begins with. -/
theorem head?_lineGroups (hne : group ≠ []) :
    ∀ g ∈ (lineGroups width group ps).head?, g.head? = group.head? := by
  induction ps generalizing group with
  | nil => simp [lineGroups]
  | cons piece rest ih =>
    rw [lineGroups]
    split
    · intro g hg
      rw [ih (by simp) g hg, List.head?_append_of_ne_nil _ hne]
    · simp

/-- Every line has pieces, and it fits. -/
theorem of_mem_lineGroups (hne : group ≠ []) (hgroup : ([' '].intercalate group).length ≤ width)
    (hps : ∀ p ∈ ps, p.length ≤ width) :
    ∀ g ∈ lineGroups width group ps, g ≠ [] ∧ ([' '].intercalate g).length ≤ width := by
  induction ps generalizing group with
  | nil => simpa [lineGroups] using ⟨hne, hgroup⟩
  | cons piece rest ih =>
    obtain ⟨hpiece, hrest⟩ := List.forall_mem_cons.mp hps
    rw [lineGroups]
    split
    · next hfits =>
      refine ih (by simp) ?_ hrest
      rw [intercalate_append_singleton hne, List.length_append, List.length_cons]
      omega
    · refine List.forall_mem_cons.mpr ⟨⟨hne, hgroup⟩, ih (List.cons_ne_nil _ _) ?_ hrest⟩
      rwa [List.intercalate_singleton]

/-- The first piece of a line does not fit on the line before. -/
theorem isChain_lineGroups (hne : group ≠ []) :
    (lineGroups width group ps).IsChain fun g next =>
      ∀ p ∈ next.head?, width < ([' '].intercalate g).length + 1 + p.length := by
  induction ps generalizing group with
  | nil => exact .singleton _
  | cons piece rest ih =>
    rw [lineGroups]
    split
    · exact ih (by simp)
    · next hfull =>
      refine (ih (List.cons_ne_nil _ _)).cons fun next hnext p hp => ?_
      rw [head?_lineGroups (List.cons_ne_nil _ _) next hnext, List.head?_cons] at hp
      cases hp
      exact Nat.not_le.mp hfull

/-! ### Lines of a text -/

/-- The lines of a text as lists of pieces. -/
theorem exists_groups (hw : 1 ≤ width) (text : List Char) :
    ∃ groups : List (List (List Char)), wrap width text = groups.map ([' '].intercalate ·) ∧
      groups.flatten = pieces width text ∧
      (∀ g ∈ groups, g ≠ [] ∧ ([' '].intercalate g).length ≤ width) ∧
      groups.IsChain fun g next =>
        ∀ p ∈ next.head?, width < ([' '].intercalate g).length + 1 + p.length := by
  have hpieces : ∀ p ∈ pieces width text, 1 ≤ p.length ∧ p.length ≤ width :=
    fun p hp => (of_mem_pieces hw hp).1
  rw [wrap]
  cases hp : pieces width text with
  | nil => exact ⟨[], rfl, rfl, nofun, .nil⟩
  | cons piece rest =>
    rw [hp, List.forall_mem_cons] at hpieces
    obtain ⟨hpiece, hrest⟩ := hpieces
    have hne (p : List Char) (h : 1 ≤ p.length ∧ p.length ≤ width) : p ≠ [] :=
      List.ne_nil_of_length_pos h.1
    refine ⟨lineGroups width [piece] rest, ?_, flatten_lineGroups,
      of_mem_lineGroups (List.cons_ne_nil _ _) ?_ fun p hp => (hrest p hp).2,
      isChain_lineGroups (List.cons_ne_nil _ _)⟩
    · have hfirst : ∀ p ∈ [piece], p ≠ [] := List.forall_mem_singleton.mpr (hne piece hpiece)
      rw [fillLines, List.isEmpty_nil, if_pos rfl,
        ← fillLines_eq_map (List.cons_ne_nil _ _) hfirst fun p hp => hne p (hrest p hp),
        List.intercalate_singleton]
    · rw [List.intercalate_singleton]
      exact hpiece.2

/-- The pieces of a line are its words. -/
theorem words_of_group (hw : 1 ≤ width) (h : groups.flatten = pieces width text)
    (hg : group ∈ groups) : words ([' '].intercalate group) = group := by
  refine Text.words_intercalate fun p hp => ?_
  have hmem : p ∈ pieces width text := h ▸ List.mem_flatten.mpr ⟨group, hg, hp⟩
  obtain ⟨⟨hlength, -⟩, hblank⟩ := of_mem_pieces hw hmem
  exact ⟨List.ne_nil_of_length_pos hlength, hblank⟩

/-- The words of all lines are the pieces of the text. -/
theorem flatMap_words_wrap (hw : 1 ≤ width) (text : List Char) :
    (wrap width text).flatMap words = pieces width text := by
  obtain ⟨groups, hwrap, hflatten, -, -⟩ := exists_groups hw text
  have hwords : ∀ g ∈ groups, words ([' '].intercalate g) = g :=
    fun g hg => words_of_group hw hflatten hg
  rw [hwrap, List.flatMap_map, List.flatMap_congr hwords, ← hflatten, List.flatMap_id']

/-- The characters of the lines that are not blank are those of the text. -/
theorem filter_flatten_wrap (hw : 1 ≤ width) (text : List Char) :
    (wrap width text).flatten.filter (!isBlank ·) = text.filter (!isBlank ·) := by
  have hlines : (wrap width text).flatten.filter (!isBlank ·) =
      ((wrap width text).flatMap words).flatten := by
    rw [List.filter_flatten, List.flatMap, List.flatten_flatten, List.map_map]
    exact congrArg List.flatten (List.map_congr_left fun line _ => (Text.flatten_words line).symm)
  have hpieces : (pieces width text).flatten = (words text).flatten := by
    rw [pieces, List.flatMap, List.flatten_flatten, List.map_map]
    congr 1
    exact List.map_id'' (fun word => (cutInto_chunks hw word).flatten) _
  rw [hlines, flatMap_words_wrap hw, hpieces, Text.flatten_words]

/-- **Word wrap.** The words of the lines are the words of the text, where those that are longer than a
line are cut, and those that are not are whole. Every line has characters, fits, and is its words with
single spaces between them. The first word of a line did not fit on the line before. -/
theorem wrap_greedy (width : Nat) (text : List Char) (hw : 1 ≤ width) :
    (∃ ws cuts, WordsOf text ws ∧
      List.Forall₂ (fun w cut => CutInto width w cut ∧ (w.length ≤ width → cut = [w])) ws cuts ∧
      (wrap width text).flatMap words = cuts.flatten) ∧
    (∀ line ∈ wrap width text,
      (1 ≤ line.length ∧ line.length ≤ width) ∧ words line ≠ [] ∧
        line = [' '].intercalate (words line)) ∧
    ((wrap width text).IsChain fun line next =>
      ∀ p ∈ (words next).head?, width < line.length + 1 + p.length) ∧
    (wrap width text).flatten.filter (!isBlank ·) = text.filter (!isBlank ·) := by
  refine ⟨⟨words text, (words text).map (chunks width), Text.wordsOf_words text, ?_, ?_⟩, ?_, ?_,
    filter_flatten_wrap hw text⟩
  · rw [List.forall₂_map_right_iff, List.forall₂_same]
    intro w hmem
    have hcut := cutInto_chunks hw w
    exact ⟨hcut, hcut.eq_singleton ((Text.wordsOf_words text).of_mem hmem).1⟩
  · rw [flatMap_words_wrap hw]
    rfl
  · obtain ⟨groups, hwrap, hflatten, hgroups, -⟩ := exists_groups hw text
    rw [hwrap, List.forall_mem_map]
    intro g hg
    obtain ⟨hne, hfits⟩ := hgroups g hg
    have hwords := words_of_group hw hflatten hg
    have hpos : [' '].intercalate g ≠ [] := intercalate_ne_nil hne fun p hp => by
      exact ((Text.wordsOf_words _).of_mem (hwords.symm ▸ hp)).1
    exact ⟨⟨List.length_pos_of_ne_nil hpos, hfits⟩, by rwa [hwords], by rw [hwords]⟩
  · obtain ⟨groups, hwrap, hflatten, -, hchain⟩ := exists_groups hw text
    rw [hwrap, List.isChain_map]
    refine hchain.imp_of_mem_imp fun g next _ hnext h => ?_
    rwa [words_of_group hw hflatten hnext]

/-- Words of one, two and two and a half lines. -/
theorem wrap_greedy_longWords :
    1 ≤ 5 ∧
    wrap 5 "abcde fghijklmno  pq\trstuvwxyzABC D".toList =
      ["abcde", "fghij", "klmno", "pq", "rstuv", "wxyzA", "BC D"].map String.toList ∧
    (wrap 5 "abcde fghijklmno  pq\trstuvwxyzABC D".toList).IsChain (fun line next =>
      ∀ p ∈ (words next).head?, 5 < line.length + 1 + p.length) :=
  ⟨by decide, by decide +kernel, (wrap_greedy 5 _ (by decide)).2.2.1⟩

end PageGrid.Typeset
