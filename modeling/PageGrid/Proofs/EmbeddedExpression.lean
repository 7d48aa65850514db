import Mathlib
import PageGrid.Proofs.Expr.Quotation

/-!
# Braces in embedded expressions

In a template an expression ends at the brace that balances its first one. The reader counts braces, and
knows nothing of quotes. The grammar of expressions has no braces outside string literals, so the braces
that it counts are those of string literals, and it finds the end of the expression exactly if they are
balanced. If they are not, it stops inside a string literal, or goes on behind the expression, and in
neither case is there a template.

## Main results

* `embedded_read_iff` — an expression in a template is read as it is on its own iff its braces are balanced;
* `quoted_brace_ends_expression` — a closing brace in quotes ends an expression.
-/

namespace PageGrid.Template

open Text (Ahead)

variable {source before after : String} {e : Expr}

/-- A template of one expression with text around it. -/
def embedded (before source after : String) : String :=
  String.ofList (before.toList ++ '\x7b' :: (source.toList ++ '\x7d' :: after.toList))

/-- An expression does not begin with a brace. -/
theorem ahead_of_parse (hsource : Expr.parse source = .ok e) (rest : List Char) :
    Ahead (· ≠ '\x7b') (source.toList ++ '\x7d' :: rest) := by
  have hfirst := (delimited_of_parse hsource).ahead
  refine Ahead.append (hfirst.mono fun c hc => ?_) (by simp)
  exact fun hopen => hc (.inl hopen)

section Parse

variable (hsource : Expr.parse source = .ok e) (hbefore : ∀ c ∈ before.toList, ¬ IsBrace c)
variable (hafter : ∀ c ∈ after.toList, ¬ IsBrace c)

include hsource hbefore hafter

theorem parse_embedded (hbalanced : Balanced source.toList) :
    parse (embedded before source after) =
      .ok (.dynamic (joinLiteral before (.expression e :: literalParts after))) := by
  have hbehind : rawParts after.toList = pushedAll after.toList ([], true) := by
    have h := rawParts_braceless_append hafter []
    rwa [List.append_nil] at h
  rw [parse_eq_scan, embedded, scan_ofList]
  generalize String.ofList (before.toList ++ _) = input
  rw [rawParts_braceless_append hbefore, compile_pushedAll,
    rawParts_expression (ahead_of_parse hsource _) (untilClosed_eq_some_iff.mpr ⟨rfl, hbalanced⟩),
    compile_expression (by rw [String.ofList_toList]; exact hsource), hbehind, compile_pushedAll,
    String.ofList_toList, String.ofList_toList, ← ofParts_joinLiteral]
  rfl

/-- The reader stops inside a string literal of the expression, or it finds no end. -/
theorem parse_embedded_unbalanced (hunbalanced : ¬ Balanced source.toList) :
    ∃ fault, parse (embedded before source after) = .error fault := by
  rw [parse_eq_scan, embedded, scan_ofList]
  generalize String.ofList (before.toList ++ _) = input
  rw [rawParts_braceless_append hbefore, compile_pushedAll]
  cases hclosed : untilClosed 1 (source.toList ++ '\x7d' :: after.toList) with
  | none =>
    rw [rawParts_unclosed (ahead_of_parse hsource _) hclosed]
    exact ⟨_, rfl⟩
  | some found =>
    obtain ⟨inside, rest⟩ := found
    rw [rawParts_expression (ahead_of_parse hsource _) hclosed]
    obtain ⟨heq, hinside⟩ := untilClosed_eq_some_iff.mp hclosed
    obtain ⟨more, hsplit, hrest⟩ | ⟨more, hsplit, hrest⟩ := List.append_eq_append_iff.mp heq
    · -- The end is behind the expression, where there are no braces.
      exfalso
      cases more with
      | nil => exact hunbalanced (by rwa [← List.append_nil source.toList, ← hsplit])
      | cons c more =>
        rw [List.cons_append, List.cons.injEq] at hrest
        exact hafter '\x7d' (by simp [hrest.2]) (.inr rfl)
    · -- The end is in the expression, and what stands before it is none.
      cases more with
      | nil => exact absurd (by rwa [hsplit, List.append_nil]) hunbalanced
      | cons c more =>
        rw [List.cons_append, List.cons.injEq] at hrest
        obtain ⟨rfl, -⟩ := hrest
        have hnone : ¬ Delimited inside :=
          (delimited_of_parse hsource).of_append_brace (.inr rfl) hsplit
        cases hread : Expr.parse (String.ofList inside) with
        | error fault =>
          rw [compile_unreadable hread]
          exact ⟨fault, rfl⟩
        | ok found =>
          have hdelimited := delimited_of_parse hread
          rw [String.toList_ofList] at hdelimited
          exact absurd hdelimited hnone

/-- **Where an embedded expression ends.** With text without braces around it, an expression in a template
is read as it is on its own exactly if the braces in its string literals are balanced. If they are not,
the template is an error. -/
theorem embedded_read_iff :
    (parse (embedded before source after) =
        .ok (.dynamic (joinLiteral before (.expression e :: literalParts after))) ↔
      Balanced source.toList) ∧
    ((∃ fault, parse (embedded before source after) = .error fault) ↔ ¬ Balanced source.toList) := by
  by_cases hbalanced : Balanced source.toList
  · have hread := parse_embedded hsource hbefore hafter hbalanced
    simp [hread, hbalanced]
  · obtain ⟨fault, hfault⟩ := parse_embedded_unbalanced hsource hbefore hafter hbalanced
    simp [hfault, hbalanced]

end Parse

theorem embedded_read_iff_twoLiterals :
    Expr.parse "concat('\x7b', '\x7d')" = .ok (.call "concat" [.literal "\x7b", .literal "\x7d"]) ∧
    parse "a\x7bconcat('\x7b', '\x7d')\x7db" =
      .ok (.dynamic
        [.literal "a", .expression (.call "concat" [.literal "\x7b", .literal "\x7d"]), .literal "b"]) := by
  have trimmed : Text.trimChars "concat('\x7b', '\x7d')".toList = "concat('\x7b', '\x7d')".toList := by
    decide
  have length : "concat('\x7b', '\x7d')".toList.length = 16 := rfl
  have hsource :
      Expr.parse "concat('\x7b', '\x7d')" =
        .ok (.call "concat" [.literal "\x7b", .literal "\x7d"]) := by
    rw [Expr.parse_eq_ok_iff trimmed, length]
    cbv
  have hclosed : untilClosed 1 "concat('\x7b', '\x7d')\x7d".toList =
      some ("concat('\x7b', '\x7d')".toList, []) := by decide
  have hbefore : ∀ c ∈ "a".toList, ¬ IsBrace c :=
    List.forall_mem_singleton.mpr (by decide)
  have hafter : ∀ c ∈ "b".toList, ¬ IsBrace c :=
    List.forall_mem_singleton.mpr (by decide)
  refine ⟨hsource, ?_⟩
  exact (embedded_read_iff hsource hbefore hafter).1.mpr (untilClosed_eq_some_iff.mp hclosed).2

/-- A closing brace in quotes ends an expression. -/
theorem quoted_brace_ends_expression :
    Expr.parse "'\x7d'" = .ok (.literal "\x7d") ∧
    ∃ fault, parse "a\x7b'\x7d'\x7db" = .error fault := by
  have trimmed : Text.trimChars "'\x7d'".toList = "'\x7d'".toList := by decide
  have length : "'\x7d'".toList.length = 3 := rfl
  have hsource : Expr.parse "'\x7d'" = .ok (.literal "\x7d") := by
    rw [Expr.parse_eq_ok_iff trimmed, length]
    cbv
  have hbefore : ∀ c ∈ "a".toList, ¬ IsBrace c :=
    List.forall_mem_singleton.mpr (by decide)
  have hafter : ∀ c ∈ "b".toList, ¬ IsBrace c :=
    List.forall_mem_singleton.mpr (by decide)
  have hunbalanced : ¬ Balanced "'\x7d'".toList := fun h => absurd h.all (by decide)
  have htemplate : embedded "a" "'\x7d'" "b" = "a\x7b'\x7d'\x7db" := rfl
  rw [← htemplate]
  exact ⟨hsource, parse_embedded_unbalanced hsource hbefore hafter hunbalanced⟩

end PageGrid.Template
