import PageGrid.Proofs.Expr.Readable
import PageGrid.Template

/-!
# Templates and their parts

A template is written by doubling the braces of its literals and by putting its expressions into single
braces. Runs of braces come out of this in many ways: a literal can end with braces where an expression
begins, and begin with some where one has ended. Reading gives the parts back all the same. The reason is
that the braces of a literal come in pairs, so that the reader passes a literal without a look at what
follows (`rawParts_escape_append`), and that no expression begins with a brace.

What cannot be told from the text is where one literal ends and another one begins, and where there is an
empty one. So the parts come back with neighbouring literals joined and without empty ones (`merge`).

The reader takes a text without opening braces and without double closing ones as it is. To read such a text
from left to right comes to the same (`parse_eq_scan`), so everything else here is about that reading.

## Main definitions

* `Template.Piece`, `Template.written` — parts as they are written, and the text of a template;
* `Template.merge` — neighbouring literals joined, and no literal empty;
* `Template.Balanced` — each brace that is opened is closed.

## Main results

* `rawParts_escape_append` — a literal is read to its end;
* `untilClosed_eq_some_iff` — an expression ends at the brace that balances its first one;
* `parse_eq_scan` — the shortcut makes no difference;
* `parse_written` — reading inverts writing.
-/

namespace PageGrid.Template

open Text (Ahead)

variable {c : Char} {cs inside after rest : List Char} {fuel fuel' depth : Nat}

/-! ### Raw parts -/

theorem length_lt_of_untilClosed (h : untilClosed depth cs = some (inside, after)) :
    after.length < cs.length := by
  induction cs generalizing depth inside with
  | nil => cases h
  | cons c cs ih =>
    rw [untilClosed] at h
    split at h
    · cases h
      exact Nat.lt_succ_self _
    · obtain ⟨⟨inside', after'⟩, hrest, heq⟩ := Option.map_eq_some_iff.mp h
      cases heq
      exact Nat.lt_succ_of_lt (ih hrest)

/-- As much fuel as there are characters is enough. -/
theorem split_eq (h : cs.length ≤ fuel) (h' : cs.length ≤ fuel') : split fuel cs = split fuel' cs := by
  induction fuel generalizing fuel' cs with
  | zero =>
    obtain rfl := List.length_eq_zero_iff.mp (Nat.le_zero.mp h)
    cases fuel' <;> rfl
  | succ fuel ih =>
    cases fuel' with
    | zero =>
      obtain rfl := List.length_eq_zero_iff.mp (Nat.le_zero.mp h')
      rfl
    | succ fuel' =>
      have hshorter (rest : List Char) (hlt : rest.length < cs.length) :
          split fuel rest = split fuel' rest :=
        ih (by omega) (by omega)
      clear ih h h'
      cases cs with
      | nil => rfl
      | cons c cs =>
        rw [split.eq_def (fuel + 1), split.eq_def (fuel' + 1)]
        dsimp only
        split
        · split
          · rw [hshorter _ (by simp only [List.length_cons]; omega)]
          · split
            · rfl
            · next hclosed =>
              rw [hshorter _ (Nat.lt_succ_of_lt (length_lt_of_untilClosed hclosed))]
        · split
          · split
            · rw [hshorter _ (by simp only [List.length_cons]; omega)]
            · rw [hshorter _ (by simp)]
          · rw [hshorter _ (by simp)]

/-- The raw parts of a whole text, and whether every expression is closed. -/
def rawParts (cs : List Char) : List RawPart × Bool := split cs.length cs

/-- What has been read, with a character in front. -/
def pushed (c : Char) (read : List RawPart × Bool) : List RawPart × Bool :=
  (RawPart.push c read.1, read.2)

theorem scan_ofList (cs : List Char) :
    scan (String.ofList cs) =
      compile (String.ofList cs) (rawParts cs).2 (rawParts cs).1 := by
  rw [scan, String.toList_ofList]
  rfl

theorem rawParts_openBraces (rest : List Char) :
    rawParts ('\x7b' :: '\x7b' :: rest) = pushed '\x7b' (rawParts rest) := by
  change split ((rest.length + 1) + 1) _ = _
  rw [split.eq_def]
  dsimp only
  rw [if_pos rfl]
  change pushed '\x7b' (split (rest.length + 1) rest) = _
  rw [split_eq (Nat.le_succ _) (Nat.le_refl _), rawParts]

theorem rawParts_closeBraces (rest : List Char) :
    rawParts ('\x7d' :: '\x7d' :: rest) = pushed '\x7d' (rawParts rest) := by
  change split ((rest.length + 1) + 1) _ = _
  rw [split.eq_def]
  dsimp only
  rw [if_neg (by decide), if_pos rfl]
  change pushed '\x7d' (split (rest.length + 1) rest) = _
  rw [split_eq (Nat.le_succ _) (Nat.le_refl _), rawParts]

/-- A single closing brace stands for itself. -/
theorem rawParts_closeBrace (h : Ahead (· ≠ '\x7d') rest) :
    rawParts ('\x7d' :: rest) = pushed '\x7d' (rawParts rest) := by
  change split (rest.length + 1) _ = _
  rw [split.eq_def]
  dsimp only
  rw [if_neg (by decide), if_pos rfl]
  split
  · simp at h
  · rfl

theorem rawParts_plain (hopen : c ≠ '\x7b') (hclose : c ≠ '\x7d') (rest : List Char) :
    rawParts (c :: rest) = pushed c (rawParts rest) := by
  change split (rest.length + 1) _ = _
  rw [split.eq_def]
  dsimp only
  rw [if_neg hopen, if_neg hclose]
  rfl

theorem rawParts_expression (h : Ahead (· ≠ '\x7b') rest)
    (hclosed : untilClosed 1 rest = some (inside, after)) :
    rawParts ('\x7b' :: rest) =
      (.expression inside :: (rawParts after).1, (rawParts after).2) := by
  change split (rest.length + 1) _ = _
  rw [split.eq_def]
  dsimp only
  rw [if_pos rfl]
  split
  · simp at h
  · rw [hclosed]
    dsimp only
    rw [split_eq (Nat.le_of_lt (length_lt_of_untilClosed hclosed)) (Nat.le_refl _)]
    rfl

theorem rawParts_unclosed (h : Ahead (· ≠ '\x7b') rest) (hclosed : untilClosed 1 rest = none) :
    rawParts ('\x7b' :: rest) = ([], false) := by
  change split (rest.length + 1) _ = _
  rw [split.eq_def]
  dsimp only
  rw [if_pos rfl]
  split
  · simp at h
  · rw [hclosed]

/-! ### Literals -/

/-- A character that has a meaning in templates. -/
def IsBrace (c : Char) : Prop := c = '\x7b' ∨ c = '\x7d'

instance : DecidablePred IsBrace := fun _ => inferInstanceAs (Decidable (_ ∨ _))

/-- A literal with its braces doubled. -/
def escape (cs : List Char) : List Char :=
  cs.flatMap fun c => if IsBrace c then [c, c] else [c]

theorem escape_of_braceless (h : ∀ c ∈ cs, ¬ IsBrace c) : escape cs = cs := by
  induction cs with
  | nil => rfl
  | cons c cs ih =>
    rw [List.forall_mem_cons] at h
    rw [escape, List.flatMap_cons, if_neg h.1, ← escape, ih h.2]
    rfl

/-- Several characters in front of what has been read. -/
def pushedAll (cs : List Char) (read : List RawPart × Bool) : List RawPart × Bool :=
  cs.foldr pushed read

/-- **A literal is read to its end**, whatever follows. By induction on the literal; each of its braces is
read together with its double. -/
theorem rawParts_escape_append (cs rest : List Char) :
    rawParts (escape cs ++ rest) = pushedAll cs (rawParts rest) := by
  induction cs with
  | nil => rfl
  | cons c cs ih =>
    have hrest : escape (c :: cs) ++ rest =
        (if IsBrace c then [c, c] else [c]) ++ (escape cs ++ rest) := by
      rw [escape, List.flatMap_cons, List.append_assoc]
      rfl
    rw [hrest, pushedAll, List.foldr_cons, ← pushedAll, ← ih]
    by_cases hc : IsBrace c
    · rw [if_pos hc]
      obtain rfl | rfl := hc
      · exact rawParts_openBraces _
      · exact rawParts_closeBraces _
    · rw [if_neg hc]
      rw [IsBrace, not_or] at hc
      exact rawParts_plain hc.1 hc.2 _

/-- The same for a literal that is written as it is. -/
theorem rawParts_braceless_append (h : ∀ c ∈ cs, ¬ IsBrace c) (rest : List Char) :
    rawParts (cs ++ rest) = pushedAll cs (rawParts rest) := by
  rw [← rawParts_escape_append, escape_of_braceless h]

/-- Where no brace opens an expression and none is doubled, every character stands for itself. -/
theorem rawParts_static (hopen : '\x7b' ∉ cs) (hclose : ¬ ['\x7d', '\x7d'] <:+: cs) :
    rawParts cs = pushedAll cs ([], true) := by
  induction cs with
  | nil => rfl
  | cons c cs ih =>
    rw [List.mem_cons, not_or] at hopen
    rw [List.infix_cons_iff, not_or] at hclose
    rw [pushedAll, List.foldr_cons, ← pushedAll, ← ih hopen.2 hclose.2]
    by_cases hc : c = '\x7d'
    · subst hc
      refine rawParts_closeBrace fun d hd hbrace => hclose.1 ?_
      subst hbrace
      obtain ⟨rest, rfl⟩ := List.head?_eq_some_iff.mp hd
      exact ⟨rest, rfl⟩
    · exact rawParts_plain (Ne.symm hopen.1) hc cs

/-! ### The end of an expression -/

/-- Where `depth` braces are open, the text closes them all, and each brace that it opens itself. -/
structure Balances (depth : Nat) (cs : List Char) : Prop where
  closes : ∀ n, (cs.take n).count '\x7d' ≤ (cs.take n).count '\x7b' + depth
  all : cs.count '\x7d' = cs.count '\x7b' + depth

/-- Each brace that the text opens is closed behind it, and each one that it closes is open. -/
abbrev Balanced (cs : List Char) : Prop := Balances 0 cs

theorem balances_nil : Balances depth [] ↔ depth = 0 :=
  ⟨fun h => by simpa using h.all.symm, fun h => ⟨by simp, by simp [h]⟩⟩

/-- What a character does to the depth. -/
theorem balances_cons {deeper : Nat}
    (h : [c].count '\x7d' + deeper = [c].count '\x7b' + depth) :
    Balances depth (c :: cs) ↔ Balances deeper cs := by
  have hcount (a : Char) (l : List Char) : (c :: l).count a = [c].count a + l.count a := by
    rw [← List.count_append, List.singleton_append]
  have hcloses (n : Nat) : (((c :: cs).take (n + 1)).count '\x7d' ≤
      ((c :: cs).take (n + 1)).count '\x7b' + depth) ↔
        (cs.take n).count '\x7d' ≤ (cs.take n).count '\x7b' + deeper := by
    rw [List.take_succ_cons, hcount _ (cs.take n), hcount _ (cs.take n)]
    omega
  have hall : (c :: cs).count '\x7d' = (c :: cs).count '\x7b' + depth ↔
      cs.count '\x7d' = cs.count '\x7b' + deeper := by
    rw [hcount _ cs, hcount _ cs]
    omega
  refine ⟨fun hb => ⟨fun n => (hcloses n).mp (hb.closes (n + 1)), hall.mp hb.all⟩,
    fun hb => ⟨fun n => ?_, hall.mpr hb.all⟩⟩
  cases n with
  | zero => exact Nat.zero_le _
  | succ n => exact (hcloses n).mpr (hb.closes n)

theorem balances_open : Balances depth ('\x7b' :: cs) ↔ Balances (depth + 1) cs := by
  refine balances_cons ?_
  change 0 + (depth + 1) = 1 + depth
  omega

theorem balances_close :
    Balances depth ('\x7d' :: cs) ↔ ∃ outer, depth = outer + 1 ∧ Balances outer cs := by
  have hclose (outer : Nat) : Balances (outer + 1) ('\x7d' :: cs) ↔ Balances outer cs := by
    refine balances_cons ?_
    change 1 + outer = 0 + (outer + 1)
    omega
  constructor
  · intro h
    have hfirst : 1 ≤ 0 + depth := h.closes 1
    obtain ⟨outer, rfl⟩ := Nat.exists_eq_succ_of_ne_zero (n := depth) (by omega)
    exact ⟨outer, rfl, (hclose outer).mp h⟩
  · rintro ⟨outer, rfl, h⟩
    exact (hclose outer).mpr h

theorem balances_plain (hc : ¬ IsBrace c) : Balances depth (c :: cs) ↔ Balances depth cs := by
  rw [IsBrace, not_or] at hc
  refine balances_cons ?_
  rw [List.count_singleton, List.count_singleton, if_neg (by simpa using hc.2), if_neg (by simpa using hc.1)]

theorem balanced_of_braceless (h : ∀ c ∈ cs, ¬ IsBrace c) : Balanced cs := by
  induction cs with
  | nil => exact balances_nil.mpr rfl
  | cons c cs ih =>
    rw [List.forall_mem_cons] at h
    exact (balances_plain h.1).mpr (ih h.2)

/-- The depth behind a character, unless the character ends the expression. -/
theorem untilClosed_cons_eq_some {deeper : Nat} (hc : ¬ (c = '\x7d' ∧ depth ≤ 1))
    (hdeeper : deeper = if c = '\x7b' then depth + 1 else if c = '\x7d' then depth - 1 else depth) :
    untilClosed depth (c :: cs) = some (inside, after) ↔
      ∃ inside', untilClosed deeper cs = some (inside', after) ∧ inside = c :: inside' := by
  rw [untilClosed, if_neg hc, ← hdeeper, Option.map_eq_some_iff]
  constructor
  · rintro ⟨⟨inside', after'⟩, hrest, heq⟩
    cases heq
    exact ⟨inside', hrest, rfl⟩
  · rintro ⟨inside', hrest, rfl⟩
    exact ⟨(inside', after), hrest, rfl⟩

/-- Where only the first brace of an expression is open, a closing one ends it. -/
theorem untilClosed_close_eq_some : untilClosed 1 ('\x7d' :: cs) = some (inside, after) ↔
    '\x7d' :: cs = inside ++ '\x7d' :: after ∧ Balances 0 inside := by
  rw [untilClosed, if_pos ⟨rfl, Nat.le_refl _⟩]
  constructor
  · intro h
    cases h
    exact ⟨rfl, balances_nil.mpr rfl⟩
  · rintro ⟨heq, hinside⟩
    cases inside with
    | nil =>
      cases heq
      rfl
    | cons d inside =>
      cases heq
      obtain ⟨outer, houter, -⟩ := balances_close.mp hinside
      cases houter

/-- Any other character belongs to the expression. -/
theorem cons_eq_append_iff (hends : ¬ (c = '\x7d' ∧ depth = 0)) :
    (c :: cs = inside ++ '\x7d' :: after ∧ Balances depth inside) ↔
      ∃ inside', inside = c :: inside' ∧ cs = inside' ++ '\x7d' :: after ∧
        Balances depth (c :: inside') := by
  constructor
  · rintro ⟨heq, hinside⟩
    cases inside with
    | nil =>
      cases heq
      exact absurd ⟨rfl, balances_nil.mp hinside⟩ hends
    | cons d inside =>
      cases heq
      exact ⟨inside, rfl, rfl, hinside⟩
  · rintro ⟨inside', rfl, rfl, hinside⟩
    exact ⟨rfl, hinside⟩

/-- **An expression ends at the brace that closes its first one.** -/
theorem untilClosed_eq_some_iff : untilClosed (depth + 1) cs = some (inside, after) ↔
    cs = inside ++ '\x7d' :: after ∧ Balances depth inside := by
  induction cs generalizing depth inside with
  | nil => simp [untilClosed]
  | cons c cs ih =>
    by_cases hends : c = '\x7d' ∧ depth = 0
    · obtain ⟨rfl, rfl⟩ := hends
      exact untilClosed_close_eq_some
    · have hgoes : ¬ (c = '\x7d' ∧ depth + 1 ≤ 1) := fun h => hends ⟨h.1, by omega⟩
      rw [untilClosed_cons_eq_some hgoes rfl, cons_eq_append_iff hends]
      refine exists_congr fun inside' => ?_
      rw [and_comm, and_congr_right_iff]
      rintro rfl
      by_cases hopen : c = '\x7b'
      · subst hopen
        rw [if_pos rfl, ih, balances_open]
      · rw [if_neg hopen]
        by_cases hclose : c = '\x7d'
        · subst hclose
          have hdepth : depth ≠ 0 := fun hzero => hends ⟨rfl, hzero⟩
          obtain ⟨outer, rfl⟩ := Nat.exists_eq_succ_of_ne_zero hdepth
          rw [if_pos rfl, Nat.add_sub_cancel, ih, balances_close]
          simp
        · have hplain : ¬ IsBrace c := not_or.mpr ⟨hopen, hclose⟩
          rw [if_neg hclose, ih, balances_plain hplain]

/-! ### Parts -/

/-- Parts with a literal in front: it is joined with a literal that is first already. -/
def joinLiteral (text : String) : List TemplatePart → List TemplatePart
  | .literal next :: rest => .literal (text ++ next) :: rest
  | rest => if text = "" then rest else .literal text :: rest

/-- The parts with neighbouring literals joined and no literal empty. -/
def merge : List TemplatePart → List TemplatePart
  | [] => []
  | .literal text :: rest => joinLiteral text (merge rest)
  | .expression e :: rest => .expression e :: merge rest

/-- The parts of a template without expressions. -/
def literalParts (text : String) : List TemplatePart := joinLiteral text []

@[simp] theorem joinLiteral_empty (parts : List TemplatePart) : joinLiteral "" parts = parts := by
  unfold joinLiteral
  split <;> simp

theorem joinLiteral_append (a b : String) (parts : List TemplatePart) :
    joinLiteral (a ++ b) parts = joinLiteral a (joinLiteral b parts) := by
  by_cases hb : b = ""
  · simp [hb]
  · unfold joinLiteral
    split <;> simp_all [String.append_assoc]

theorem merge_literals (texts : List String) :
    merge (texts.map .literal) = literalParts (String.join texts) := by
  induction texts with
  | nil => rfl
  | cons text texts ih =>
    rw [List.map_cons, merge, ih, literalParts, literalParts, ← joinLiteral_append, String.join_cons]

/-- Parts with an expression are no text. -/
theorem ofParts_joinLiteral (text : String) (e : Expr) (rest : List TemplatePart) :
    ofParts (joinLiteral text (.expression e :: rest)) = .dynamic (joinLiteral text (.expression e :: rest)) := by
  by_cases h : text = ""
  · rw [h, joinLiteral_empty]
    rfl
  · simp only [joinLiteral, if_neg h]
    rfl

theorem ofParts_literalParts (text : String) : ofParts (literalParts text) = .static text := by
  by_cases h : text = ""
  · simp [literalParts, h, ofParts]
  · simp [literalParts, joinLiteral, h, ofParts]

theorem compile_literal (input : String) (closed : Bool) (cs : List Char) (raw : List RawPart) :
    compile input closed (.literal cs :: raw) =
      (compile input closed raw).map (.literal (String.ofList cs) :: ·) := by
  rw [compile]
  cases compile input closed raw <;> rfl

theorem compile_expression {e : Expr} (he : Expr.parse (String.ofList cs) = .ok e) (input : String)
    (closed : Bool) (raw : List RawPart) :
    compile input closed (.expression cs :: raw) =
      (compile input closed raw).map (.expression e :: ·) := by
  rw [compile, he]
  change compile input closed raw >>= _ = _
  cases compile input closed raw <;> rfl

theorem compile_unreadable {fault : ExprError} (hf : Expr.parse (String.ofList cs) = .error fault)
    (input : String) (closed : Bool) (raw : List RawPart) :
    compile input closed (.expression cs :: raw) = .error fault := by
  rw [compile, hf]
  rfl

/-- A character in front of the text becomes a literal in front of the parts. -/
theorem compile_push (input : String) (closed : Bool) (c : Char) (raw : List RawPart) :
    compile input closed (RawPart.push c raw) =
      (compile input closed raw).map (joinLiteral (String.ofList [c])) := by
  cases raw with
  | nil =>
    cases closed with
    | false => rfl
    | true =>
      change Except.ok [_] = Except.ok (joinLiteral (String.ofList [c]) [])
      simp [joinLiteral]
  | cons part raw =>
    cases part with
    | literal cs =>
      rw [RawPart.push, compile_literal, compile_literal]
      cases compile input closed raw with
      | error fault => rfl
      | ok parts =>
        change Except.ok _ = Except.ok (joinLiteral _ (_ :: parts))
        rw [joinLiteral, ← String.ofList_append]
        rfl
    | expression cs =>
      change compile input closed (.literal [c] :: _) = _
      rw [compile_literal]
      cases he : Expr.parse (String.ofList cs) with
      | error fault =>
        rw [compile_unreadable he]
        rfl
      | ok e =>
        rw [compile_expression he]
        cases compile input closed raw with
        | error fault => rfl
        | ok parts => simp [Except.map, joinLiteral]

/-- Characters in front of the text become a literal in front of the parts. -/
theorem compile_pushedAll (input : String) (cs : List Char) (read : List RawPart × Bool) :
    compile input (pushedAll cs read).2 (pushedAll cs read).1 =
      (compile input read.2 read.1).map (joinLiteral (String.ofList cs)) := by
  induction cs with
  | nil =>
    rw [String.ofList_nil]
    change compile input read.2 read.1 = _
    cases compile input read.2 read.1 with
    | error fault => rfl
    | ok parts => simp [Except.map]
  | cons c cs ih =>
    change compile input (pushedAll cs read).2 (RawPart.push c (pushedAll cs read).1) = _
    rw [compile_push, ih, ← List.singleton_append, String.ofList_append]
    cases compile input read.2 read.1 with
    | error fault => rfl
    | ok parts => simp [Except.map, joinLiteral_append]

/-! ### Writing -/

/-- The text of an expression, without braces. -/
structure Source where
  text : String
  tree : Expr
  reads : Expr.parse text = .ok tree
  braceless : ∀ c ∈ text.toList, ¬ IsBrace c

/-- A part as it is written. -/
inductive Piece where
  | literal (text : String)
  | expression (source : Source)

namespace Piece

/-- The text of a part: a literal with its braces doubled, or an expression in braces. -/
def written : Piece → List Char
  | .literal text => escape text.toList
  | .expression source => '\x7b' :: (source.text.toList ++ ['\x7d'])

/-- What the part is read as on its own. -/
def part : Piece → TemplatePart
  | .literal text => .literal text
  | .expression source => .expression source.tree

end Piece

/-- The text of a template with the given parts. -/
def written (pieces : List Piece) : String := String.ofList (pieces.flatMap Piece.written)

/-- What an expression is read as, whatever follows: it does not begin with a brace, so that a brace of
the literal before it is not taken for the double of its own. -/
theorem rawParts_source (source : Source) (rest : List Char) :
    rawParts ('\x7b' :: (source.text.toList ++ '\x7d' :: rest)) =
      (.expression source.text.toList :: (rawParts rest).1, (rawParts rest).2) := by
  refine rawParts_expression ?_ (untilClosed_eq_some_iff.mpr ⟨rfl, balanced_of_braceless source.braceless⟩)
  refine Ahead.append (fun c hc => ?_) (by simp)
  exact fun hopen => source.braceless c (List.mem_of_mem_head? hc) (.inl hopen)

/-- By induction on the parts, from the right; the text before a part does not matter to it. -/
theorem compile_pieces (input : String) (pieces : List Piece) :
    compile input (rawParts (pieces.flatMap Piece.written)).2
        (rawParts (pieces.flatMap Piece.written)).1 = .ok (merge (pieces.map Piece.part)) := by
  induction pieces with
  | nil => rfl
  | cons piece pieces ih =>
    rw [List.flatMap_cons]
    cases piece with
    | literal text =>
      rw [Piece.written, rawParts_escape_append, compile_pushedAll, ih, String.ofList_toList]
      rfl
    | expression source =>
      rw [Piece.written, List.cons_append, List.append_assoc, List.singleton_append, rawParts_source,
        compile_expression (by rw [String.ofList_toList]; exact source.reads), ih]
      rfl

/-! ### The shortcut -/

theorem hasMarkup_eq_false_iff :
    hasMarkup cs = false ↔ '\x7b' ∉ cs ∧ ¬ ['\x7d', '\x7d'] <:+: cs := by
  rw [hasMarkup, Bool.or_eq_false_iff, ← Bool.not_eq_true, ← Bool.not_eq_true, List.contains_iff_mem,
    Text.contains_iff]

theorem scan_of_hasMarkup {input : String} (h : hasMarkup input.toList = false) :
    scan input = .ok (literalParts input) := by
  obtain ⟨hopen, hclose⟩ := hasMarkup_eq_false_iff.mp h
  have hread := compile_pushedAll input input.toList ([], true)
  rw [← rawParts_static hopen hclose, String.ofList_toList] at hread
  exact hread

/-- **The shortcut makes no difference**: a text that is taken as it is would be read as such, too. -/
theorem parse_eq_scan (input : String) : parse input = (scan input).map ofParts := by
  rw [parse]
  split
  · rfl
  · next h =>
    rw [scan_of_hasMarkup (Bool.not_eq_true _ ▸ h), Except.map, ofParts_literalParts]

/-- **Reading inverts writing.** Literals and expressions without braces, written one after the other,
are read as these parts, with neighbouring literals joined and without empty ones; without expressions
this is a text. A text without opening braces and without double closing ones is taken as it is, and it is
read so from left to right. -/
theorem parse_written :
    (∀ pieces : List Piece, parse (written pieces) = .ok (ofParts (merge (pieces.map Piece.part)))) ∧
    (∀ texts : List String, parse (written (texts.map .literal)) = .ok (.static (String.join texts))) ∧
    ∀ input : String, '\x7b' ∉ input.toList → ¬ ['\x7d', '\x7d'] <:+: input.toList →
      parse input = .ok (.static input) ∧ (scan input).map ofParts = .ok (.static input) := by
  have hpieces (pieces : List Piece) :
      parse (written pieces) = .ok (ofParts (merge (pieces.map Piece.part))) := by
    rw [parse_eq_scan, written, scan_ofList, compile_pieces]
    rfl
  refine ⟨hpieces, fun texts => ?_, fun input hopen hclose => ?_⟩
  · rw [hpieces, List.map_map, ← ofParts_literalParts, ← merge_literals]
    rfl
  · have hplain := hasMarkup_eq_false_iff.mpr ⟨hopen, hclose⟩
    rw [← parse_eq_scan, and_self, parse, hplain]
    rfl

/-- An expression between literals that end and begin with braces. -/
theorem parse_written_besideBraces :
    Expr.parse "$n" = .ok (.variable "n") ∧
    parse "\x7b\x7b\x7b$n\x7d\x7d\x7d\x7b\x7b" =
      .ok (.dynamic [.literal "\x7b", .expression (.variable "n"), .literal "\x7d\x7b"]) := by
  have hreads : Expr.parse "$n" = .ok (.variable "n") := by
    have trimmed : Text.trimChars "$n".toList = "$n".toList := by decide
    have length : "$n".toList.length = 2 := rfl
    rw [Expr.parse_eq_ok_iff trimmed, length]
    rfl
  have hbraceless : ∀ c ∈ "$n".toList, ¬ IsBrace c := Text.forall_mem_of_all (by decide)
  let source : Source := ⟨"$n", .variable "n", hreads, hbraceless⟩
  let pieces : List Piece := [.literal "\x7b", .expression source, .literal "\x7d\x7b"]
  have htext : written pieces = "\x7b\x7b\x7b$n\x7d\x7d\x7d\x7b\x7b" := by
    simp [pieces, source, written, Piece.written, escape, IsBrace]
  rw [← htext]
  exact ⟨hreads, parse_written.1 pieces⟩

end PageGrid.Template
