import Mathlib.Data.List.DropRight
import Mathlib.Data.List.GetD
import Mathlib.Data.List.Lex
import PageGrid.Proofs.Decimal
import PageGrid.Proofs.Text.Blank
import PageGrid.Version

/-!
# The order of versions

A version is written as decimal components with points between them, and blanks around a component make
no difference; those around the whole are around its first component and its last one. Three components
count, and missing ones are zero. On what counts the check is the lexicographic order, so any two versions
can be compared, and versions that differ in zeros at the end are the same for it.

The check trims a requirement as a whole and each component of it once more. Which of the two takes a
blank away is of no importance: a version without the blanks around it is a version that has the same
components (`exists_trimmed`).

## Main definitions

* `Version.Component`, `Version.Written` — components and versions as they are written;
* `Version.Written.leading` — the three components that count;
* `Version.Meets` — an engine of one version meets the requirement of another one.

## Main results

* `Version.check_text` — what the check answers on versions;
* `Version.check_lexicographic` — the order of versions.
-/

namespace PageGrid.Version

open Text (Ahead isBlank trimChars)

/-! ### Components -/

/-- A component as it is written: the digits of a number of sixty-four bits, with blanks around them. -/
structure Component where
  before : List Char
  digits : List Char
  after : List Char
  isBlank_before : ∀ c ∈ before, isBlank c = true
  isBlank_after : ∀ c ∈ after, isBlank c = true
  digits_ne_nil : digits ≠ []
  isDigit_digits : ∀ c ∈ digits, c.isDigit = true
  value_lt : Nat.ofDigitChars 10 digits 0 < Nat.pow 2 64

namespace Component

/-- The text of a component. -/
def chars (p : Component) : List Char := p.before ++ (p.digits ++ p.after)

/-- The number that a component stands for. -/
def value (p : Component) : Nat := Nat.ofDigitChars 10 p.digits 0

theorem isBlank_digits (p : Component) : ∀ c ∈ p.digits, isBlank c = false :=
  fun c hc => Text.isBlank_of_isDigit (p.isDigit_digits c hc)

theorem ahead_digits (p : Component) : Ahead (isBlank · = false) p.digits :=
  fun c hc => p.isBlank_digits c (List.mem_of_mem_head? hc)

theorem ahead_reverse_digits (p : Component) : Ahead (isBlank · = false) p.digits.reverse :=
  fun c hc => p.isBlank_digits c (List.mem_reverse.mp (List.mem_of_mem_head? hc))

theorem trimChars_chars (p : Component) : trimChars p.chars = p.digits :=
  Text.trimChars_append p.isBlank_before p.isBlank_after p.digits_ne_nil p.ahead_digits
    p.ahead_reverse_digits

theorem readNat_digits (p : Component) : Decimal.readNat componentLimit p.digits = some p.value :=
  Decimal.readNat_of_isDigit p.digits_ne_nil p.isDigit_digits (Nat.le_sub_one_of_lt p.value_lt)

theorem point_not_mem_chars (p : Component) : '.' ∉ p.chars := by
  have hblank (cs : List Char) (h : ∀ c ∈ cs, isBlank c = true) : '.' ∉ cs :=
    fun hmem => absurd (h '.' hmem) (by decide)
  have hdigit : '.' ∉ p.digits := fun hmem => absurd (p.isDigit_digits '.' hmem) (by decide)
  rw [chars, List.mem_append, List.mem_append]
  exact not_or.mpr ⟨hblank _ p.isBlank_before, not_or.mpr ⟨hdigit, hblank _ p.isBlank_after⟩⟩

end Component

/-! ### Versions -/

/-- A version as it is written: one component, and others behind points. -/
structure Written where
  first : Component
  rest : List Component

namespace Written

variable (v : Written)

/-- The text of a version. -/
def chars : List Char := ['.'].intercalate ((v.first :: v.rest).map Component.chars)

/-- The text of a version. -/
def text : String := String.ofList v.chars

/-- The numbers that the components stand for. -/
def components : List Nat := (v.first :: v.rest).map Component.value

/-- The components that count: three, of which missing ones are zero. -/
def leading : List Nat :=
  [v.components.getD 0 0, v.components.getD 1 0, v.components.getD 2 0]

end Written

/-- An engine of a version meets a requirement. -/
def Meets (required engine : Written) : Prop := check required.text engine.text = .ok ()

variable {u v w : Written}

/-! ### Blanks around versions -/

theorem chars_mk_nil (p : Component) : Written.chars ⟨p, []⟩ = p.chars := by
  simp [Written.chars]

theorem chars_mk_cons (p q : Component) (rest : List Component) :
    Written.chars ⟨p, q :: rest⟩ = p.chars ++ ['.'] ++ Written.chars ⟨q, rest⟩ := by
  simp [Written.chars, List.intercalate_cons_cons]

/-- Without the blanks in front it is a version with the same components. -/
theorem exists_dropWhile (v : Written) :
    ∃ w : Written, w.chars = v.chars.dropWhile isBlank ∧ w.components = v.components := by
  obtain ⟨p, rest⟩ := v
  refine ⟨⟨{ p with before := [], isBlank_before := nofun }, rest⟩, ?_, rfl⟩
  have hdrop (behind : List Char) :
      (p.chars ++ behind).dropWhile isBlank = p.digits ++ (p.after ++ behind) := by
    have hstart : Ahead (isBlank · = false) (p.digits ++ (p.after ++ behind)) :=
      p.ahead_digits.append_left p.digits_ne_nil
    rw [Component.chars, List.append_assoc, List.append_assoc, Text.dropWhile_append_of_ahead hstart,
      List.dropWhile_eq_nil_iff.mpr p.isBlank_before, List.nil_append]
  cases rest with
  | nil =>
    rw [chars_mk_nil, chars_mk_nil, ← List.append_nil p.chars, hdrop, List.append_nil]
    rfl
  | cons q rest =>
    rw [chars_mk_cons, chars_mk_cons, List.append_assoc p.chars, hdrop, ← List.append_assoc p.digits,
      List.append_assoc]
    rfl

/-- Blanks are taken away only behind the last character that is none. -/
theorem rdropWhile_append {cs behind : List Char} (h : Ahead (isBlank · = false) cs.reverse) :
    (cs ++ behind).rdropWhile isBlank = cs ++ behind.rdropWhile isBlank := by
  rw [List.rdropWhile, List.reverse_append, Text.dropWhile_append_of_ahead h, List.reverse_append,
    List.reverse_reverse, List.rdropWhile]

/-- Without the blanks behind it is a version with the same components. By induction on the components,
of which only the last one changes. -/
theorem exists_rdropWhile (v : Written) :
    ∃ w : Written, w.chars = v.chars.rdropWhile isBlank ∧ w.components = v.components := by
  obtain ⟨p, rest⟩ := v
  induction rest generalizing p with
  | nil =>
    refine ⟨⟨{ p with after := [], isBlank_after := nofun }, []⟩, ?_, rfl⟩
    have hend : Ahead (isBlank · = false) (p.before ++ p.digits).reverse := by
      rw [List.reverse_append]
      exact p.ahead_reverse_digits.append_left (List.reverse_eq_nil_iff.not.mpr p.digits_ne_nil)
    rw [chars_mk_nil, chars_mk_nil, Component.chars.eq_1 p, ← List.append_assoc,
      rdropWhile_append hend, List.rdropWhile_eq_nil_iff.mpr p.isBlank_after, List.append_assoc]
    rfl
  | cons q rest ih =>
    obtain ⟨⟨q', rest'⟩, hchars, hcomponents⟩ := ih q
    refine ⟨⟨p, q' :: rest'⟩, ?_, ?_⟩
    · have hend : Ahead (isBlank · = false) (p.chars ++ ['.']).reverse := by
        rw [List.reverse_concat]
        exact Ahead.cons_iff.mpr rfl
      rw [chars_mk_cons, chars_mk_cons, hchars, rdropWhile_append hend]
    · exact congrArg (p.value :: ·) hcomponents

/-- **Blanks around a version**: without them it is a version with the same components. -/
theorem exists_trimmed (v : Written) :
    ∃ w : Written, w.chars = trimChars v.chars ∧ w.components = v.components := by
  obtain ⟨u, huchars, hucomponents⟩ := exists_dropWhile v
  obtain ⟨w, hwchars, hwcomponents⟩ := exists_rdropWhile u
  exact ⟨w, by rw [hwchars, huchars]; rfl, hwcomponents.trans hucomponents⟩

/-! ### What is read -/

theorem split_eq_splitOn (cs : List Char) : split cs = cs.splitOn '.' := by
  induction cs with
  | nil => rfl
  | cons c cs ih =>
    rw [split, ih, List.splitOn, List.splitOn, List.splitOnP_cons_eq_if_modifyHead]
    by_cases hc : c = '.'
    · simp [hc]
    · simp only [hc, if_false, beq_iff_eq]
      cases hsplit : cs.splitOnP (· == '.') with
      | nil => exact absurd hsplit (List.splitOnP_ne_nil _ cs)
      | cons part parts => rfl

theorem split_chars (v : Written) : split v.chars = (v.first :: v.rest).map Component.chars := by
  rw [split_eq_splitOn]
  refine List.splitOn_intercalate '.' ?_ (List.cons_ne_nil _ _)
  rw [List.forall_mem_map]
  exact fun p _ => p.point_not_mem_chars

/-- A component is read, and a missing one is zero. -/
theorem component_chars (v : Written) (index : Nat) :
    component (split v.chars) index = some (v.components.getD index 0) := by
  rw [split_chars, component, Written.components, List.getElem?_map, List.getD_eq_getElem?_getD,
    List.getElem?_map]
  cases (v.first :: v.rest)[index]? with
  | none => rfl
  | some p => simp [p.trimChars_chars, p.readNat_digits]

/-- The same of the trimmed text. -/
theorem component_trimChars (v : Written) (index : Nat) :
    component (split (trimChars v.chars)) index = some (v.components.getD index 0) := by
  obtain ⟨w, hchars, hcomponents⟩ := exists_trimmed v
  rw [← hchars, component_chars, hcomponents]

theorem trimChars_chars_ne_nil (v : Written) : trimChars v.chars ≠ [] := by
  intro h
  have hread := component_trimChars v 0
  rw [h] at hread
  cases hread

/-! ### The order -/

/-- The comparison of components is the lexicographic order. -/
theorem atMost_iff_le {ws hs : List Nat} (h : ws.length = hs.length) :
    atMost ws hs = true ↔ ws ≤ hs := by
  induction ws generalizing hs with
  | nil =>
    obtain rfl := List.length_eq_zero_iff.mp h.symm
    simp [atMost]
  | cons w ws ih =>
    cases hs with
    | nil => cases h
    | cons m hs =>
      rw [atMost]
      obtain hlt | rfl | hlt := Nat.lt_trichotomy w m
      · have hless : w :: ws < m :: hs := List.Lex.rel hlt
        simp [hlt, Nat.lt_asymm hlt, hless.le]
      · have hsame : w :: hs < w :: ws ↔ hs < ws := List.lex_cons_iff
        rw [← not_lt, hsame, not_lt, ← ih (Nat.succ.inj h)]
        simp
      · have hless : m :: hs < w :: ws := List.Lex.rel hlt
        simp [hlt, hless.not_ge]

/-- **What the check answers on versions.** -/
theorem check_text (required engine : Written) :
    check required.text engine.text =
      if required.leading ≤ engine.leading then .ok ()
      else .error ⟨Text.trim required.text, engine.text⟩ := by
  have hne : (trimChars required.chars).isEmpty = false := by
    simpa using trimChars_chars_ne_nil required
  have hle : atMost required.leading engine.leading = true ↔ required.leading ≤ engine.leading :=
    atMost_iff_le rfl
  simp only [check, Written.text, Text.trim, String.toList_ofList, component_trimChars, hne]
  change (if atMost required.leading engine.leading = true then _ else _) = _
  rw [if_congr hle rfl rfl]

theorem meets_iff_le : Meets u v ↔ u.leading ≤ v.leading := by
  rw [Meets, check_text]
  by_cases hle : u.leading ≤ v.leading
  · rw [if_pos hle]
    exact iff_of_true rfl hle
  · rw [if_neg hle]
    exact iff_of_false nofun hle

theorem components_getD_append_zeros {cs : List Nat} (zeros index : Nat) :
    (cs ++ List.replicate zeros 0).getD index 0 = cs.getD index 0 := by
  obtain hlt | hge := Nat.lt_or_ge index cs.length
  · rw [List.getD_append _ _ _ _ hlt]
  · rw [List.getD_append_right _ _ _ _ hge, List.getD_eq_default _ _ hge, List.getD_eq_getElem?_getD,
      List.getElem?_getD_replicate_default_eq]

/-- Zeros at the end make no difference. -/
theorem leading_eq_of_zeros {zeros : Nat}
    (h : v.components = u.components ++ List.replicate zeros 0) : v.leading = u.leading := by
  simp only [Written.leading, h, components_getD_append_zeros]

/-- **The order of versions.** An engine meets a requirement exactly if the first three components of the
requirement are lexicographically at most its own, and if not, the answer carries the trimmed requirement
and the version of the engine. So versions are preordered by it, any two can be compared, and zeros at the
end of either one make no difference. -/
theorem check_lexicographic :
    (∀ required engine : Written,
      (check required.text engine.text = .ok () ↔ required.leading ≤ engine.leading) ∧
      (¬ required.leading ≤ engine.leading →
        check required.text engine.text = .error ⟨Text.trim required.text, engine.text⟩)) ∧
    (∀ v, Meets v v) ∧ (∀ u v w, Meets u v → Meets v w → Meets u w) ∧ (∀ u v, Meets u v ∨ Meets v u) ∧
    (∀ u v zeros, v.components = u.components ++ List.replicate zeros 0 →
      ∀ w, (Meets u w ↔ Meets v w) ∧ (Meets w u ↔ Meets w v)) := by
  refine ⟨fun required engine => ⟨meets_iff_le, fun hnot => ?_⟩, fun v => ?_, fun u v w huv hvw => ?_,
    fun u v => ?_, fun u v zeros hzeros w => ?_⟩
  · rw [check_text, if_neg hnot]
  · exact meets_iff_le.mpr le_rfl
  · rw [meets_iff_le] at huv hvw ⊢
    exact huv.trans hvw
  · rw [meets_iff_le, meets_iff_le]
    exact le_total _ _
  · simp only [meets_iff_le, leading_eq_of_zeros hzeros, and_self]

/-- A component of one digit without blanks. -/
def digit (c : Char) (h : c.isDigit = true) (hvalue : Nat.ofDigitChars 10 [c] 0 < Nat.pow 2 64) : Component :=
  ⟨[], [c], [], nofun, nofun, List.cons_ne_nil _ _, List.forall_mem_singleton.mpr h, hvalue⟩

/-- One and two with blanks around them. -/
def spaced : Written :=
  ⟨⟨[' '], ['1'], ['\t'], Text.forall_mem_of_all rfl, Text.forall_mem_of_all rfl, List.cons_ne_nil _ _,
      Text.forall_mem_of_all rfl, by decide⟩,
    [⟨[], ['0', '2'], [' '], nofun, Text.forall_mem_of_all rfl, List.cons_ne_nil _ _,
      Text.forall_mem_of_all rfl, by decide⟩]⟩

/-- The same components, and a zero behind them. -/
def zeroBehind : Written :=
  ⟨digit '1' rfl (by decide), [digit '2' rfl (by decide), digit '0' rfl (by decide)]⟩

/-- A version before them. -/
def earlier : Written :=
  ⟨digit '1' rfl (by decide), [digit '1' rfl (by decide), digit '9' rfl (by decide)]⟩

theorem check_lexicographic_spaced :
    check "1.1.9" " 1\t.02 " = .ok () ∧ check " 1\t.02 " "1.1.9" = .error ⟨"1\t.02", "1.1.9"⟩ ∧
      check "1.1.9" "1.2.0" = .ok () ∧ check "1.2.0" " 1\t.02 " = .ok () := by
  obtain ⟨horder, hrefl, htrans, -, hzeros⟩ := check_lexicographic
  have hbefore : Meets earlier spaced := (horder earlier spaced).1.mpr (by decide)
  have hafter : ¬ spaced.leading ≤ earlier.leading := by decide
  have hcomponents : zeroBehind.components = spaced.components ++ List.replicate 1 0 := by decide
  have hsame := hzeros spaced zeroBehind 1 hcomponents spaced
  have hbehind : Meets spaced zeroBehind := hsame.2.mp (hrefl spaced)
  exact ⟨hbefore, (horder spaced earlier).2 hafter, htrans earlier spaced zeroBehind hbefore hbehind,
    hsame.1.mp (hrefl spaced)⟩

end PageGrid.Version
