import PageGrid.Proofs.Json.Codec
import PageGrid.Proofs.Json.Numeral

/-!
# Compact JSON is read back

The compact layout puts nothing between the tokens of a value, and the character behind a value is always
a comma or a closing bracket, neither of which goes on with a number. So every part of a value is read up
to the next one: strings because reading undoes escaping character by character, numbers whatever they are
read as, and arrays and objects item by item (`bracketed_cons`). What is read is the value that was
written, except that a number may be read as another one (`reread`).

A reader has to go as deep as arrays and objects are nested, which is less than the length of the text.

## Main definitions

* `Json.reread` — the value that is read from the text of a value.

## Main results

* `Json.quoted_quote` — any string is read back from its quotes;
* `Json.parseChars_compactChars` — every value is read, up to its numbers;
* `Json.codec_lawful` — the laws of a codec.
-/

namespace PageGrid.Json

open Text (Ahead Scan)

variable {s rest : List Char} {c : Char} {v : Json} {fuel : Nat}

/-! ### Strings -/

theorem hexValue_hexDigit : ∀ n < 16, Text.hexValue (hexDigit n) = some n := by decide

theorem unicodeEscape_control (h : c.toNat < 32) (s : List Char) :
    unicodeEscape ('0' :: '0' :: hexDigit (c.toNat / 16) :: hexDigit (c.toNat % 16) :: s) =
      some (c, s) := by
  have hzero : Text.hexValue '0' = some 0 := rfl
  have hvalue : 16 * (c.toNat / 16) + c.toNat % 16 = c.toNat := Nat.div_add_mod ..
  have hfour : hexFour ('0' :: '0' :: hexDigit (c.toNat / 16) :: hexDigit (c.toNat % 16) :: s) =
      some (c.toNat, s) := by
    simp [hexFour, hzero, hexValue_hexDigit _ (show c.toNat / 16 < 16 by omega),
      hexValue_hexDigit _ (show c.toNat % 16 < 16 by omega), Nat.mul_comm, hvalue]
  rw [unicodeEscape, Scan.bind_apply, hfour, Option.bind_some]
  dsimp only
  rw [if_neg (by omega), if_neg (by omega), Char.ofNat_toNat]
  rfl

/-- **Reading undoes escaping**, character by character. -/
theorem stringChar_escapeChar (c : Char) (s : List Char) :
    stringChar (escapeChar c ++ s) = some (c, s) := by
  unfold escapeChar
  split_ifs with hquote hbackslash hfeed hreturn htab hback hform hcontrol
  · rw [hquote]
    rfl
  · rw [hbackslash]
    rfl
  · exact hfeed ▸ rfl
  · exact hreturn ▸ rfl
  · exact htab ▸ rfl
  · rw [← Char.ofNat_toNat c, hback]
    rfl
  · rw [← Char.ofNat_toNat c, hform]
    rfl
  · exact unicodeEscape_control hcontrol s
  · simp [stringChar, hquote, hcontrol]

theorem escapeChar_ne_nil (c : Char) : escapeChar c ≠ [] := by
  unfold escapeChar
  split_ifs <;> simp

/-- **A string is read back from its quotes.** -/
theorem quoted_quote (text : String) (rest : List Char) :
    quoted (quote text ++ rest) = some (text, rest) := by
  have hruns : ∀ cs : List Char,
      Scan.Runs stringChar (cs.flatMap escapeChar ++ '"' :: rest) cs ('"' :: rest) := by
    intro cs
    induction cs with
    | nil => exact .stop (by simp [stringChar])
    | cons c cs ih =>
      rw [List.flatMap_cons, List.append_assoc]
      refine .next (stringChar_escapeChar c _) ?_ ih
      have := List.length_pos_iff.mpr (escapeChar_ne_nil c)
      simp only [List.length_append]
      omega
  have hquote : quote text ++ rest = '"' :: (text.toList.flatMap escapeChar ++ '"' :: rest) := by
    simp [quote]
  rw [hquote, quoted, Scan.bind_apply, Scan.char_cons, Option.bind_some, Scan.bind_apply,
    (hruns text.toList).many, Option.bind_some, Scan.bind_apply, Scan.char_cons, Option.bind_some,
    Scan.pure_apply, String.ofList_toList]

theorem quoted_eq_none (h : Ahead (· ≠ '"') s) : quoted s = none := by
  rw [quoted, Scan.bind_apply, Scan.char_eq_none h]
  rfl

/-! ### Items between brackets -/

section Bracketed

variable {α β : Type} {opening closing : Char} {item : Scan β} {chars : α → List Char} {f : α → β} {a : α}
  {as : List α}

theorem skip_of_ahead (h : Ahead (Text.isAsciiBlank · = false) s) : skip s = some ((), s) := by
  rw [skip, Scan.blanks, Text.dropWhile_of_ahead h]

theorem bracketed_eq_none (h : Ahead (· ≠ opening) s) : bracketed opening closing item s = none := by
  rw [bracketed, Scan.bind_apply, Scan.char_eq_none h]
  rfl

theorem bracketed_nil (hclosing : Text.isAsciiBlank closing = false)
    (hitem : item (closing :: rest) = none) :
    bracketed opening closing item (opening :: closing :: rest) = some ([], rest) := by
  have hskip : skip (closing :: rest) = some ((), closing :: rest) :=
    skip_of_ahead (Ahead.cons_iff.mpr hclosing)
  simp [bracketed, hskip, Scan.sepBy, Scan.sepBy1, hitem]

/-- Behind an item is a comma or the closing bracket. -/
theorem ahead_items (chars : α → List Char) (as : List α) (s : List Char) :
    Ahead (fun c => c = ',' ∨ c = closing) (as.flatMap (fun b => ',' :: chars b) ++ closing :: s) := by
  cases as with
  | nil => exact Ahead.cons_iff.mpr (.inr rfl)
  | cons b as => exact Ahead.cons_iff.mpr (.inl rfl)

/-- The items after the first one are read one after the other, up to the closing bracket. -/
theorem runs_items (hclosing : Text.isAsciiBlank closing = false ∧ closing ≠ ',')
    (hchars : ∀ b ∈ as, ∀ t, Ahead (Text.isAsciiBlank · = false) (chars b ++ t))
    (hitem : ∀ b ∈ as, ∀ t, Ahead (fun c => c = ',' ∨ c = closing) t →
      item (chars b ++ t) = some (f b, t)) :
    Scan.Runs ((skip *> Scan.char ',' *> skip) *> item)
      (as.flatMap (fun b => ',' :: chars b) ++ closing :: s) (as.map f) (closing :: s) := by
  induction as with
  | nil =>
    have hskip : skip (closing :: s) = some ((), closing :: s) :=
      skip_of_ahead (Ahead.cons_iff.mpr hclosing.1)
    have hcomma : Scan.char ',' (closing :: s) = none :=
      Scan.char_eq_none (Ahead.cons_iff.mpr hclosing.2)
    exact .stop (by simp [hskip, hcomma])
  | cons b as ih =>
    rw [List.forall_mem_cons] at hchars hitem
    have hcomma : ∀ t, skip (',' :: t) = some ((), ',' :: t) := fun t =>
      skip_of_ahead (Ahead.cons_iff.mpr rfl)
    have hnext := hitem.1 _ (ahead_items chars as s)
    rw [List.flatMap_cons, List.append_assoc, List.cons_append]
    refine .next (a := f b) (t := as.flatMap (fun b => ',' :: chars b) ++ closing :: s) ?_
      (Scan.length_lt_cons_append _ _ _) (ih hchars.2 hitem.2)
    simp only [Scan.seqRight_apply, hcomma, Option.bind_some, Scan.char_cons,
      skip_of_ahead (hchars.1 _), hnext]

/-- **Items are read from between their brackets**, if each is read up to a comma or the closing
bracket. -/
theorem bracketed_cons (hclosing : Text.isAsciiBlank closing = false ∧ closing ≠ ',')
    (hchars : ∀ b ∈ a :: as, ∀ t, Ahead (Text.isAsciiBlank · = false) (chars b ++ t))
    (hitem : ∀ b ∈ a :: as, ∀ t, Ahead (fun c => c = ',' ∨ c = closing) t →
      item (chars b ++ t) = some (f b, t)) :
    bracketed opening closing item
        (opening :: (chars a ++ (as.flatMap (fun b => ',' :: chars b) ++ closing :: s))) =
      some (f a :: as.map f, s) := by
  rw [List.forall_mem_cons] at hchars hitem
  have hskip : skip (closing :: s) = some ((), closing :: s) :=
    skip_of_ahead (Ahead.cons_iff.mpr hclosing.1)
  have hfirst := hitem.1 _ (ahead_items chars as s)
  have hmany := (runs_items (s := s) hclosing hchars.2 hitem.2).many
  simp [bracketed, skip_of_ahead (hchars.1 _), Scan.sepBy, Scan.sepBy1, hfirst, hmany, hskip]

end Bracketed

/-! ### Values -/

/-- Where no word is ahead, a value is a string, has brackets or is a number. -/
theorem value_of_ahead (h : Ahead (· ∉ ['n', 't', 'f']) s) :
    value (fuel + 1) s =
      ((quoted s).map fun x => (.string x.1, x.2)).or
        (((bracketed '[' ']' (value fuel) s).map fun x => (.array x.1, x.2)).or
          (((bracketed '\x7b' '\x7d' (memberWith (value fuel)) s).map fun x => (.object x.1, x.2)).or
            (numeral s))) := by
  have hnull : Scan.word "null" s = none :=
    Scan.chars_eq_none (c := 'n') (h.mono fun _ hc => by simp_all)
  have htrue : Scan.word "true" s = none :=
    Scan.chars_eq_none (c := 't') (h.mono fun _ hc => by simp_all)
  have hfalse : Scan.word "false" s = none :=
    Scan.chars_eq_none (c := 'f') (h.mono fun _ hc => by simp_all)
  simp only [value, Scan.orElse_apply, Scan.seqRight_apply, Scan.map_apply, hnull, htrue, hfalse,
    Option.bind_none, Option.none_or]

theorem value_null : value (fuel + 1) ("null".toList ++ s) = some (.null, s) := rfl

theorem value_bool (b : Bool) : value (fuel + 1) (scalarChars (.bool b) ++ s) = some (.bool b, s) := by
  cases b <;> rfl

theorem value_quote (text : String) : value (fuel + 1) (quote text ++ s) = some (.string text, s) := by
  have hahead : Ahead (· = '"') (quote text ++ s) := Ahead.cons_iff.mpr rfl
  rw [value_of_ahead (hahead.mono fun _ hc => by simp [hc]), quoted_quote]
  rfl

theorem value_bracket {vs : List Json} (h : bracketed '[' ']' (value fuel) ('[' :: s) = some (vs, rest)) :
    value (fuel + 1) ('[' :: s) = some (.array vs, rest) := by
  rw [value_of_ahead (Ahead.cons_iff.mpr (by decide)), quoted_eq_none (Ahead.cons_iff.mpr (by decide)), h]
  rfl

theorem value_brace {ms : List (String × Json)}
    (h : bracketed '\x7b' '\x7d' (memberWith (value fuel)) ('\x7b' :: s) = some (ms, rest)) :
    value (fuel + 1) ('\x7b' :: s) = some (.object ms, rest) := by
  rw [value_of_ahead (Ahead.cons_iff.mpr (by decide)), quoted_eq_none (Ahead.cons_iff.mpr (by decide)),
    bracketed_eq_none (Ahead.cons_iff.mpr (by decide)), h]
  rfl

theorem ne_of_digit_or_minus {d : Char} (hc : c.isDigit = true ∨ c = '-') (hd : d.isDigit = false)
    (hminus : d ≠ '-') : c ≠ d := by
  rintro rfl
  simp_all

theorem value_numeral (h : Ahead (fun c => c.isDigit = true ∨ c = '-') s) :
    value (fuel + 1) s = numeral s := by
  have hne : ∀ d : Char, d.isDigit = false → d ≠ '-' → Ahead (· ≠ d) s := fun d hd hminus =>
    h.mono fun c hc => ne_of_digit_or_minus hc hd hminus
  rw [value_of_ahead (h.mono fun c hc => ?_), quoted_eq_none (hne _ rfl (by decide)),
    bracketed_eq_none (hne _ rfl (by decide)), bracketed_eq_none (hne _ rfl (by decide))]
  · rfl
  · simp only [List.mem_cons, List.not_mem_nil, or_false, not_or]
    exact ⟨ne_of_digit_or_minus hc rfl (by decide), ne_of_digit_or_minus hc rfl (by decide),
      ne_of_digit_or_minus hc rfl (by decide)⟩

/-- No value begins with a closing bracket. -/
theorem value_closing (h : c = ']' ∨ c = '\x7d') : value fuel (c :: s) = none := by
  cases fuel with
  | zero => rfl
  | succ fuel =>
    have hne : ∀ d ∈ ['n', 't', 'f', '"', '[', '\x7b'], c ≠ d := by
      obtain rfl | rfl := h
      · exact Text.forall_mem_of_all (by decide)
      · exact Text.forall_mem_of_all (by decide)
    have hnumeral : numeral (c :: s) = none := by
      refine numeral_eq_none (Ahead.cons_iff.mpr ?_)
      obtain rfl | rfl := h
      · decide
      · decide
    rw [value_of_ahead (Ahead.cons_iff.mpr fun hc => hne c (by simp_all) rfl),
      quoted_eq_none (Ahead.cons_iff.mpr (hne _ (by decide))),
      bracketed_eq_none (Ahead.cons_iff.mpr (hne _ (by decide))),
      bracketed_eq_none (Ahead.cons_iff.mpr (hne _ (by decide))), hnumeral]
    rfl

/-! ### Nesting -/

theorem nesting_le_nestingOfItems {vs : List Json} (h : v ∈ vs) : nesting v ≤ nestingOfItems vs := by
  induction vs with
  | nil => cases h
  | cons w vs ih =>
    rw [nestingOfItems]
    obtain rfl | h := List.mem_cons.mp h
    · exact Nat.le_max_left ..
    · exact (ih h).trans (Nat.le_max_right ..)

theorem nesting_le_nestingOfMembers {ms : List (String × Json)} {m : String × Json} (h : m ∈ ms) :
    nesting m.2 ≤ nestingOfMembers ms := by
  induction ms with
  | nil => cases h
  | cons n ms ih =>
    rw [nestingOfMembers]
    obtain rfl | h := List.mem_cons.mp h
    · exact Nat.le_max_left ..
    · exact (ih h).trans (Nat.le_max_right ..)

mutual

/-- A value is written in at least as many characters as arrays and objects are nested in it. -/
theorem nesting_le_length : (v : Json) → nesting v ≤ (compactChars v).length
  | .null => Nat.zero_le _
  | .bool _ => Nat.zero_le _
  | .whole _ => Nat.zero_le _
  | .number _ => Nat.zero_le _
  | .string _ => Nat.zero_le _
  | .array [] => by simp [nesting, nestingOfItems, compactChars]
  | .array (v :: vs) => by
    have hv := nesting_le_length v
    have hvs := nestingOfItems_lt_length vs
    simp only [nesting, nestingOfItems, compactChars, List.length_cons, List.length_append, List.cons_append]
    omega
  | .object [] => by simp [nesting, nestingOfMembers, compactChars]
  | .object ((k, v) :: ms) => by
    have hv := nesting_le_length v
    have hms := nestingOfMembers_lt_length ms
    simp only [nesting, nestingOfMembers, compactChars, List.length_cons, List.length_append, List.cons_append]
    omega

theorem nestingOfItems_lt_length : (vs : List Json) → nestingOfItems vs < (compactItems vs).length
  | [] => by simp [nestingOfItems, compactItems]
  | v :: vs => by
    have hv := nesting_le_length v
    have hvs := nestingOfItems_lt_length vs
    simp only [nestingOfItems, compactItems, List.length_cons, List.length_append, List.cons_append]
    omega

theorem nestingOfMembers_lt_length :
    (ms : List (String × Json)) → nestingOfMembers ms < (compactMembers ms).length
  | [] => by simp [nestingOfMembers, compactMembers]
  | (k, v) :: ms => by
    have hv := nesting_le_length v
    have hms := nestingOfMembers_lt_length ms
    simp only [nestingOfMembers, compactMembers, List.length_cons, List.length_append, List.cons_append]
    omega

end

/-! ### What is read -/

mutual

/-- The value that is read from the text of a value, in which numbers may be others. -/
def reread : Json → Json
  | .whole n => (Numeral.ofInt n).value
  | .number x => (parse (Decimal.json x)).getD .null
  | .array vs => .array (rereadItems vs)
  | .object ms => .object (rereadMembers ms)
  | v => v

/-- What is read from the texts of items. -/
def rereadItems : List Json → List Json
  | [] => []
  | v :: vs => reread v :: rereadItems vs

/-- What is read from the texts of members. -/
def rereadMembers : List (String × Json) → List (String × Json)
  | [] => []
  | (k, v) :: ms => (k, reread v) :: rereadMembers ms

end

theorem rereadItems_eq (vs : List Json) : rereadItems vs = vs.map reread := by
  induction vs with
  | nil => rfl
  | cons v vs ih => rw [rereadItems, ih, List.map_cons]

theorem rereadMembers_eq (ms : List (String × Json)) :
    rereadMembers ms = ms.map fun m => (m.1, reread m.2) := by
  induction ms with
  | nil => rfl
  | cons m ms ih => rw [rereadMembers, ih, List.map_cons]

/-- A member as it is written. -/
def memberChars (m : String × Json) : List Char := quote m.1 ++ ':' :: compactChars m.2

theorem compactItems_eq (vs : List Json) :
    compactItems vs = vs.flatMap (fun v => ',' :: compactChars v) ++ [']'] := by
  induction vs with
  | nil => rfl
  | cons v vs ih => simp [compactItems, ih]

theorem compactMembers_eq (ms : List (String × Json)) :
    compactMembers ms = ms.flatMap (fun m => ',' :: memberChars m) ++ ['\x7d'] := by
  induction ms with
  | nil => rfl
  | cons m ms ih => simp [compactMembers, memberChars, ih]

theorem isAsciiBlank_of_digit_or_minus (h : c.isDigit = true ∨ c = '-') : Text.isAsciiBlank c = false := by
  have hne : ∀ d : Char, d.isDigit = false → d ≠ '-' → c ≠ d := fun _ => ne_of_digit_or_minus h
  simp only [Text.isAsciiBlank, Bool.or_eq_false_iff, beq_eq_false_iff_ne]
  exact ⟨⟨⟨hne _ rfl (by decide), hne _ rfl (by decide)⟩, hne _ rfl (by decide)⟩, hne _ rfl (by decide)⟩

theorem compactChars_whole (n : Int) : compactChars (.whole n) = (Numeral.ofInt n).chars :=
  (Numeral.chars_ofInt n).symm

theorem compactChars_number (x : Float) : compactChars (.number x) = (Decimal.json x).toList := rfl

/-- No value begins with a blank. -/
theorem ahead_compactChars (v : Json) (s : List Char) :
    Ahead (Text.isAsciiBlank · = false) (compactChars v ++ s) := by
  have hnumeral : ∀ t : Numeral, Ahead (Text.isAsciiBlank · = false) (t.chars ++ s) := fun t =>
    (t.ahead_chars s).mono fun _ => isAsciiBlank_of_digit_or_minus
  cases v with
  | null => exact Ahead.cons_iff.mpr rfl
  | bool b =>
    cases b with
    | false => exact Ahead.cons_iff.mpr rfl
    | true => exact Ahead.cons_iff.mpr rfl
  | whole n =>
    rw [compactChars_whole]
    exact hnumeral _
  | number x =>
    obtain ⟨t, ht, -⟩ := exists_numeral_json x
    rw [compactChars_number, ← ht]
    exact hnumeral t
  | string text => exact Ahead.cons_iff.mpr rfl
  | array vs =>
    cases vs with
    | nil => exact Ahead.cons_iff.mpr rfl
    | cons v vs => exact Ahead.cons_iff.mpr rfl
  | object ms =>
    cases ms with
    | nil => exact Ahead.cons_iff.mpr rfl
    | cons m ms => exact Ahead.cons_iff.mpr rfl

/-- A whole text is read as its value. -/
theorem all_padded_of_value {text : List Char} (hblank : Ahead (Text.isAsciiBlank · = false) text)
    (h : value fuel text = some (v, [])) : (Scan.padded (value fuel)).all text = .done v := by
  rw [Scan.all, Scan.padded_of_ahead hblank, h]
  rfl

theorem parse_numeral (t : Numeral) : parse (String.ofList t.chars) = some t.value := by
  have hahead := t.ahead_chars []
  rw [List.append_nil] at hahead
  have hread : value (t.chars.length + 1) t.chars = some (t.value, []) := by
    rw [value_numeral hahead, ← List.append_nil t.chars, numeral_append t Ahead.nil]
  rw [parse, String.toList_ofList, parseChars,
    all_padded_of_value (hahead.mono fun _ => isAsciiBlank_of_digit_or_minus) hread]

/-- A float is read as the number that its text stands for. -/
theorem reread_number {x : Float} {t : Numeral} (ht : t.chars = (Decimal.json x).toList) :
    reread (.number x) = t.value := by
  have hparse := parse_numeral t
  rw [ht, String.ofList_toList] at hparse
  rw [reread, hparse, Option.getD_some]

theorem memberWith_memberChars {scan : Scan Json} {m : String × Json} {w : Json}
    (h : scan (compactChars m.2 ++ rest) = some (w, rest)) :
    memberWith scan (memberChars m ++ rest) = some ((m.1, w), rest) := by
  have hcolon : skip (':' :: (compactChars m.2 ++ rest)) = some ((), ':' :: (compactChars m.2 ++ rest)) :=
    skip_of_ahead (Ahead.cons_iff.mpr rfl)
  rw [memberChars, List.append_assoc, List.cons_append]
  simp [memberWith, quoted_quote, hcolon, skip_of_ahead (ahead_compactChars m.2 rest), h]

mutual

/-- **A value is read**, up to a character that does not go on with a number. -/
theorem value_compactChars : (v : Json) → ∀ {fuel : Nat} {rest : List Char}, nesting v ≤ fuel →
    Ahead EndsNumeral rest → value (fuel + 1) (compactChars v ++ rest) = some (reread v, rest)
  | .null, _, _, _, _ => value_null
  | .bool b, _, _, _, _ => value_bool b
  | .whole n, _, _, _, hrest => by
    rw [compactChars_whole, value_numeral (Numeral.ahead_chars _ _), numeral_append _ hrest, reread]
  | .number x, _, rest, _, hrest => by
    obtain ⟨t, ht, -⟩ := exists_numeral_json x
    rw [compactChars_number, ← ht, value_numeral (t.ahead_chars rest), numeral_append t hrest,
      reread_number ht]
  | .string text, _, _, _, _ => value_quote text
  | .array [], _, _, _, _ => value_bracket (bracketed_nil rfl (value_closing (.inl rfl)))
  | .array (v :: vs), fuel, rest, hfuel, _ => by
    obtain ⟨fuel, rfl⟩ := Nat.exists_eq_add_of_le' (Nat.one_le_of_lt hfuel)
    rw [nesting, Nat.add_le_add_iff_right] at hfuel
    -- what is behind an item does not go on with a number
    have hitem : ∀ w ∈ v :: vs, ∀ s, Ahead (fun c => c = ',' ∨ c = ']') s →
        value (fuel + 1) (compactChars w ++ s) = some (reread w, s) := fun w hw s hs =>
      value_compactItems (v :: vs) w hw ((nesting_le_nestingOfItems hw).trans hfuel)
        (hs.mono (by rintro c (rfl | rfl) <;> decide))
    have hread := value_bracket (bracketed_cons (s := rest) ⟨rfl, by decide⟩
      (fun w _ s => ahead_compactChars w s) hitem)
    rw [compactChars, compactItems_eq, reread, rereadItems_eq]
    simpa using hread
  | .object [], fuel, rest, _, _ => by
    have hclosing : memberWith (value fuel) ('\x7d' :: rest) = none := by
      rw [memberWith, Scan.bind_apply, quoted_eq_none (Ahead.cons_iff.mpr (by decide)), Option.bind_none]
    exact value_brace (bracketed_nil rfl hclosing)
  | .object (m :: ms), fuel, rest, hfuel, _ => by
    obtain ⟨fuel, rfl⟩ := Nat.exists_eq_add_of_le' (Nat.one_le_of_lt hfuel)
    rw [nesting, Nat.add_le_add_iff_right] at hfuel
    have hitem : ∀ n ∈ m :: ms, ∀ s, Ahead (fun c => c = ',' ∨ c = '\x7d') s →
        memberWith (value (fuel + 1)) (memberChars n ++ s) = some ((n.1, reread n.2), s) :=
      fun n hn s hs => memberWith_memberChars
        (value_compactMembers (m :: ms) n hn ((nesting_le_nestingOfMembers hn).trans hfuel)
          (hs.mono (by rintro c (rfl | rfl) <;> decide)))
    have hchars : ∀ n ∈ m :: ms, ∀ s, Ahead (Text.isAsciiBlank · = false) (memberChars n ++ s) :=
      fun n _ s => (Ahead.cons_iff (P := (Text.isAsciiBlank · = false))).mpr rfl
    have hread := value_brace (bracketed_cons (s := rest) ⟨rfl, by decide⟩ hchars hitem)
    rw [compactChars, compactMembers_eq, reread, rereadMembers_eq]
    simpa [memberChars] using hread

theorem value_compactItems : (vs : List Json) → ∀ w ∈ vs, ∀ {fuel : Nat} {rest : List Char},
    nesting w ≤ fuel → Ahead EndsNumeral rest →
      value (fuel + 1) (compactChars w ++ rest) = some (reread w, rest)
  | [] => List.forall_mem_nil _
  | v :: vs => List.forall_mem_cons.mpr ⟨value_compactChars v, value_compactItems vs⟩

theorem value_compactMembers : (ms : List (String × Json)) → ∀ m ∈ ms,
    ∀ {fuel : Nat} {rest : List Char}, nesting m.2 ≤ fuel → Ahead EndsNumeral rest →
      value (fuel + 1) (compactChars m.2 ++ rest) = some (reread m.2, rest)
  | [] => List.forall_mem_nil _
  | (_, v) :: ms => List.forall_mem_cons.mpr ⟨value_compactChars v, value_compactMembers ms⟩

end

/-- **The compact layout is read**, up to the numbers in it. -/
theorem parseChars_compactChars (v : Json) : parseChars (compactChars v) = some (reread v) := by
  have hahead := ahead_compactChars v []
  rw [List.append_nil] at hahead
  have hread : value ((compactChars v).length + 1) (compactChars v) = some (reread v, []) := by
    rw [← List.append_nil (compactChars v), value_compactChars v ?_ Ahead.nil]
    rw [List.append_nil]
    exact nesting_le_length v
  rw [parseChars, all_padded_of_value hahead hread]

/-! ### One line -/

theorem ne_lineFeed_of_mem_escapeChar : ∀ d ∈ escapeChar c, d ≠ '\n' := by
  unfold escapeChar
  split_ifs with hquote hbackslash hfeed hreturn htab hback hform hcontrol
  -- seven characters have an escape of one letter
  iterate 7 exact Text.forall_mem_of_all (by decide)
  · have hhex : ∀ n < 32, hexDigit (n / 16) ≠ '\n' ∧ hexDigit (n % 16) ≠ '\n' := by decide
    simp [hhex _ hcontrol]
  · exact List.forall_mem_singleton.mpr hfeed

theorem ne_lineFeed_of_mem_quote {text : String} (h : c ∈ quote text) : c ≠ '\n' := by
  simp only [quote, List.cons_append, List.mem_cons, List.mem_append, List.mem_flatMap, List.not_mem_nil,
    or_false] at h
  obtain rfl | ⟨d, -, h⟩ | rfl := h
  · decide
  · exact ne_lineFeed_of_mem_escapeChar c h
  · decide

theorem Numeral.ne_lineFeed_of_mem {t : Numeral} (h : c ∈ t.chars) : c ≠ '\n' := by
  rintro rfl
  obtain h | h := t.mem_chars h
  · cases h
  · simp at h

/-- Values without parts have no line feed. -/
theorem ne_lineFeed_of_mem_scalar (h : v.IsScalar) : ∀ c ∈ compactChars v, c ≠ '\n' := by
  cases v with
  | null => exact Text.forall_mem_of_all (by decide)
  | bool b =>
    cases b with
    | false => exact Text.forall_mem_of_all (by decide)
    | true => exact Text.forall_mem_of_all (by decide)
  | whole n =>
    rw [compactChars_whole]
    exact fun c => Numeral.ne_lineFeed_of_mem
  | number x =>
    obtain ⟨t, ht, -⟩ := exists_numeral_json x
    rw [compactChars_number, ← ht]
    exact fun c => Numeral.ne_lineFeed_of_mem
  | string text => exact fun c => ne_lineFeed_of_mem_quote
  | array vs => exact h.elim
  | object ms => exact h.elim

/-! ### The laws -/

/-- A text and others with commas in front of them are the texts with commas between them. -/
theorem append_flatMap_comma (text : List Char) (texts : List (List Char)) :
    text ++ texts.flatMap (',' :: ·) = [','].intercalate (text :: texts) := by
  induction texts generalizing text with
  | nil => simp
  | cons next texts ih =>
    rw [List.flatMap_cons, List.intercalate_cons_cons, ← ih]
    simp

theorem compactChars_array (vs : List Json) :
    compactChars (.array vs) = '[' :: ([','].intercalate (vs.map compactChars) ++ [']']) := by
  cases vs with
  | nil => rfl
  | cons v vs =>
    rw [compactChars, compactItems_eq, List.map_cons, ← append_flatMap_comma]
    simp [List.flatMap_map]

theorem compactChars_object (ms : List (String × Json)) :
    compactChars (.object ms) =
      '\x7b' :: ([','].intercalate (ms.map fun m => compactChars (.string m.1) ++ ':' :: compactChars m.2) ++
        ['\x7d']) := by
  have hmember : (fun m : String × Json => compactChars (.string m.1) ++ ':' :: compactChars m.2) =
      memberChars := rfl
  cases ms with
  | nil => rfl
  | cons m ms =>
    rw [compactChars, compactMembers_eq, hmember, List.map_cons, ← append_flatMap_comma]
    simp [memberChars, List.flatMap_map]

theorem codec_read_write (limit : Option Nat) (v : Json) :
    codec.read limit (codec.write v) = (some (reread v)).filter (isWithin limit) :=
  congrArg (Option.filter (isWithin limit)) (parseChars_compactChars v)

theorem codec_read_none_write (v : Json) : codec.read none (codec.write v) = some (reread v) :=
  codec_read_write none v

/-- **The compact layout and its reader are lawful.** -/
theorem codec_lawful : codec.Lawful where
  lineFeed_scalar h hmem := ne_lineFeed_of_mem_scalar h _ hmem rfl
  write_array := compactChars_array
  write_object := compactChars_object
  read_null := codec_read_none_write .null
  read_string text := codec_read_none_write (.string text)
  read_whole hn := by rw [codec_read_none_write, reread, Numeral.value_ofInt hn]
  read_array h := by
    simp only [codec_read_none_write, Option.some.injEq] at h ⊢
    rw [reread, rereadItems_eq, List.map_congr_left h, List.map_id']
  read_object h := by
    simp only [codec_read_none_write, Option.some.injEq] at h ⊢
    rw [reread, rereadMembers_eq, List.map_congr_left fun m hm => by rw [h m hm], List.map_id']
  read_limit n h := by
    rw [codec_read_none_write, Option.some.injEq] at h
    rw [codec_read_write, h, Option.filter_some]
    simp only [isWithin, decide_eq_true_eq]

end PageGrid.Json
