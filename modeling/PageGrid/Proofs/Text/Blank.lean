import PageGrid.Proofs.Text.Scan

/-!
# Trimmed texts

Blanks around a text are taken away up to the first character and the last one that are no blanks. No
digit is a blank.

## Main results

* `trimChars_append` — a text with blanks around it is trimmed to that text;
* `contains_iff` — what a text contains.
-/

namespace PageGrid.Text

variable {c : Char} {before text after : List Char}

theorem toNat_of_isDigit (h : c.isDigit = true) : 48 ≤ c.toNat ∧ c.toNat ≤ 57 := by
  simp only [Char.isDigit, Bool.and_eq_true, decide_eq_true_eq] at h
  exact h

theorem isBlank_of_isDigit (h : c.isDigit = true) : isBlank c = false := by
  have hcode := toNat_of_isDigit h
  simp only [isBlank, Bool.or_eq_false_iff, Bool.and_eq_false_iff, decide_eq_false_iff_not, beq_eq_false_iff_ne]
  omega

/-- A text that neither begins nor ends with a blank, with blanks around it. -/
theorem trimChars_append (hbefore : ∀ c ∈ before, isBlank c = true)
    (hafter : ∀ c ∈ after, isBlank c = true) (hne : text ≠ []) (hfirst : Ahead (isBlank · = false) text)
    (hlast : Ahead (isBlank · = false) text.reverse) : trimChars (before ++ (text ++ after)) = text := by
  have hfront : (before ++ (text ++ after)).dropWhile isBlank = text ++ after := by
    rw [dropWhile_append_of_ahead (Ahead.append_left hne hfirst), List.dropWhile_eq_nil_iff.mpr hbefore,
      List.nil_append]
  have hback : (after.reverse ++ text.reverse).dropWhile isBlank = text.reverse := by
    have hafter' : ∀ c ∈ after.reverse, isBlank c = true := fun c hc => hafter c (List.mem_reverse.mp hc)
    rw [dropWhile_append_of_ahead hlast, List.dropWhile_eq_nil_iff.mpr hafter', List.nil_append]
  rw [trimChars, hfront, List.reverse_append, hback, List.reverse_reverse]

theorem contains_iff {haystack needle : List Char} :
    contains haystack needle = true ↔ needle <:+: haystack := by
  induction haystack with
  | nil => rw [contains, List.isEmpty_iff, List.infix_nil]
  | cons c cs ih =>
    rw [contains, Bool.or_eq_true, ih, List.isPrefixOf_iff_prefix, List.infix_cons_iff]

end PageGrid.Text
