import PageGrid.Length
import PageGrid.Proofs.Decimal
import PageGrid.Proofs.Text.Taken

/-!
# The grammar of lengths

A length as it is written is a number, perhaps with a sign, and perhaps the name of a unit directly behind
it. The structures below are the texts of this grammar, with what they stand for. A reader is compared with
them from both sides: it takes no other texts than these (`takes_measured`), and each of these is read up
to where a gap or the end is ahead (`measured_append`).

Lengths and extents differ only in what they make of a number and its unit, so they have one grammar, and
a fact about it holds of both (`readWhole_map_iff`). Margins are lengths in a row with gaps between them.
Every number of the grammar stands for a float (`Decimal.readFloat_numeral`), so none is refused after all.

## Main definitions

* `Number`, `UnitOfLength`, `Written` — numbers, units, and lengths as they are written;
* `Row`, `Sides` — lengths in a row, and the rows that are margins.

## Main results

* `readWhole_map_iff` — the texts that lengths and extents are read from;
* `lengths_exact` — lengths, extents and margins are read from the texts of the grammar and no others.
-/

namespace PageGrid.Length

open Text (Ahead Scan)
open Text.Scan (Takes)

/-! ### Numbers -/

/-- A number as it is written: a numeral, perhaps with a sign. -/
structure Number where
  sign : Option Char
  whole : List Char
  fraction : List Char
  sign_mem : ∀ c ∈ sign, c = '+' ∨ c = '-'
  isNumeral : Decimal.IsNumeral whole fraction

namespace Number

/-- The text of a number. -/
def chars (n : Number) : List Char := n.sign.toList ++ Decimal.numeral n.whole n.fraction

/-- The float that a number stands for. -/
def value (n : Number) : Float :=
  if n.sign = some '-' then -Decimal.numeralValue n.whole n.fraction
  else Decimal.numeralValue n.whole n.fraction

end Number

variable {s rest : List Char} {c : Char} {whole fraction : List Char}

theorem sign_append {sign : Option Char} (hsign : ∀ c ∈ sign, c = '+' ∨ c = '-')
    (h : Ahead (fun c => c ≠ '+' ∧ c ≠ '-') s) : Length.sign (sign.toList ++ s) = some (sign.toList, s) := by
  have hchoice : (Scan.char '+' <|> Scan.char '-') s = none := by
    rw [Scan.orElse_apply, Scan.char_eq_none (h.mono fun _ => And.left),
      Scan.char_eq_none (h.mono fun _ => And.right)]
    rfl
  cases sign with
  | none => simp [Length.sign, Scan.maybe_of_none hchoice]
  | some c =>
    obtain rfl | rfl := hsign c rfl
    · rfl
    · rfl

theorem takes_sign : Takes Length.sign fun cs sign =>
    ∃ o : Option Char, cs = o.toList ∧ sign = o.toList ∧ ∀ c ∈ o, c = '+' ∨ c = '-' := by
  have hchar : Takes (Scan.char '+' <|> Scan.char '-') fun cs c => cs = [c] ∧ (c = '+' ∨ c = '-') := by
    refine .orElse ((Scan.takes_char '+').mono ?_) ((Scan.takes_char '-').mono ?_)
    · rintro cs c ⟨rfl, rfl⟩
      exact ⟨rfl, .inl rfl⟩
    · rintro cs c ⟨rfl, rfl⟩
      exact ⟨rfl, .inr rfl⟩
  refine hchar.maybe.bind fun front o ho => Scan.takes_pure ⟨o, ?_, rfl, ?_⟩
  · obtain ⟨rfl, rfl⟩ | ⟨c, rfl, rfl, -⟩ := ho
    · rfl
    · rfl
  · obtain ⟨-, rfl⟩ | ⟨c, rfl, -, hc⟩ := ho
    · exact nofun
    · simpa using hc

/-- A character that does not go on with a number. -/
def EndsNumber (c : Char) : Prop := c.isDigit = false ∧ c ≠ '.'

theorem fraction_append {run : List Char} (hne : run ≠ []) (hrun : ∀ c ∈ run, c.isDigit = true)
    (h : Ahead (Char.isDigit · = false) s) :
    (Scan.char '.' *> Scan.takeWhile1 Char.isDigit) ('.' :: (run ++ s)) = some (run, s) := by
  rw [Scan.seqRight_apply, Scan.char_cons, Option.bind_some, Scan.takeWhile1_append hne hrun h]

theorem magnitude_append (h : Decimal.IsNumeral whole fraction) (hrest : Ahead EndsNumber rest) :
    magnitude (Decimal.numeral whole fraction ++ rest) = some (Decimal.numeral whole fraction, rest) := by
  have hdigit : Ahead (Char.isDigit · = false) rest := hrest.mono fun _ => And.left
  rw [magnitude, Scan.orElse_apply, Scan.bind_apply, Scan.bind_apply]
  by_cases hwhole : whole = []
  · -- only the second form has a point in front
    subst hwhole
    have hfraction : fraction ≠ [] := by simpa using h.ne_nil
    have hnumeral : Decimal.numeral [] fraction = '.' :: fraction := by simp [Decimal.numeral, hfraction]
    have hnone : Scan.takeWhile1 Char.isDigit ('.' :: (fraction ++ rest)) = none := rfl
    rw [hnumeral, List.cons_append, hnone, Scan.char_cons, Option.bind_some, Scan.bind_apply,
      Scan.takeWhile1_append hfraction h.fraction hdigit]
    rfl
  · by_cases hfraction : fraction = []
    · subst hfraction
      have hnumeral : Decimal.numeral whole [] = whole := by simp [Decimal.numeral]
      have hpoint : (Scan.char '.' *> Scan.takeWhile1 Char.isDigit) rest = none := by
        rw [Scan.seqRight_apply, Scan.char_eq_none (hrest.mono fun _ => And.right)]
        rfl
      rw [hnumeral, Scan.takeWhile1_append hwhole h.whole hdigit, Option.bind_some, Scan.bind_apply,
        Scan.maybe_of_none hpoint]
      simp
    · have hnumeral : Decimal.numeral whole fraction ++ rest = whole ++ '.' :: (fraction ++ rest) := by
        simp [Decimal.numeral, hfraction]
      have hpoint := Scan.maybe_of_some (fraction_append hfraction h.fraction hdigit)
      rw [hnumeral, Scan.takeWhile1_append hwhole h.whole (Ahead.cons_iff.mpr rfl), Option.bind_some,
        Scan.bind_apply, hpoint]
      simp [Decimal.numeral, hfraction]

theorem takes_magnitude : Takes magnitude fun cs m =>
    ∃ whole fraction, cs = m ∧ m = Decimal.numeral whole fraction ∧ Decimal.IsNumeral whole fraction := by
  refine .orElse ?_ ?_
  · refine (Scan.takes_takeWhile1 Char.isDigit).bind fun front whole hwhole => ?_
    obtain ⟨rfl, hne, hdigits⟩ := hwhole
    have hfraction : Takes (Scan.char '.' *> Scan.takeWhile1 Char.isDigit) fun cs fraction =>
        cs = '.' :: fraction ∧ fraction ≠ [] ∧ ∀ c ∈ fraction, c.isDigit = true := by
      refine (Scan.takes_char '.').seqRight fun point c hpoint => ?_
      obtain ⟨rfl, rfl⟩ := hpoint
      refine (Scan.takes_takeWhile1 Char.isDigit).mono fun cs fraction h => ?_
      obtain ⟨rfl, h⟩ := h
      exact ⟨rfl, h⟩
    refine hfraction.maybe.bind fun back o ho => Scan.takes_pure ?_
    obtain ⟨rfl, rfl⟩ | ⟨fraction, rfl, rfl, hne', hdigits'⟩ := ho
    · exact ⟨front, [], by simp, by simp [Decimal.numeral], .inl hne, hdigits, nofun⟩
    · exact ⟨front, fraction, by simp, by simp [Decimal.numeral, hne'], .inl hne, hdigits, hdigits'⟩
  · refine (Scan.takes_char '.').bind fun point c hpoint => ?_
    obtain ⟨rfl, rfl⟩ := hpoint
    refine (Scan.takes_takeWhile1 Char.isDigit).bind fun cs fraction h => Scan.takes_pure ?_
    obtain ⟨rfl, hne, hdigits⟩ := h
    exact ⟨[], cs, by simp, by simp [Decimal.numeral, hne], .inr hne, nofun, hdigits⟩

theorem number_append (n : Number) (hrest : Ahead EndsNumber rest) :
    number (n.chars ++ rest) = some (n.value, rest) := by
  have hsign := sign_append (s := Decimal.numeral n.whole n.fraction ++ rest) n.sign_mem (by
    obtain ⟨c, cs, hcons, hc⟩ := Decimal.exists_numeral_eq_cons n.isNumeral
    rw [hcons, List.cons_append, Ahead.cons_iff]
    constructor
    · rintro rfl
      simp at hc
    · rintro rfl
      simp at hc)
  rw [number, Number.chars, List.append_assoc, Scan.bind_apply, hsign, Option.bind_some, Scan.bind_apply,
    magnitude_append n.isNumeral hrest, Option.bind_some, Decimal.readFloat_numeral n.isNumeral n.sign_mem]
  rfl

theorem takes_number : Takes number fun cs x => ∃ n : Number, cs = n.chars ∧ x = n.value := by
  refine takes_sign.bind fun front sign hsign => takes_magnitude.bind fun back m hm => ?_
  obtain ⟨o, rfl, rfl, ho⟩ := hsign
  obtain ⟨whole, fraction, rfl, rfl, h⟩ := hm
  rw [Decimal.readFloat_numeral h ho]
  exact Scan.takes_pure ⟨⟨o, whole, fraction, ho, h⟩, by simp [Number.chars], rfl⟩

/-! ### Units -/

/-- The units of length. -/
inductive UnitOfLength where
  | point
  | pixel
  | inch
  | centimetre
  | millimetre
  | pica

namespace UnitOfLength

/-- The name of a unit, in small letters. -/
def name : UnitOfLength → String
  | point => "pt"
  | pixel => "px"
  | inch => "in"
  | centimetre => "cm"
  | millimetre => "mm"
  | pica => "pc"

/-- The length of a unit in points. -/
def points : UnitOfLength → Float
  | point => 1
  | pixel => 1
  | inch => 72
  | centimetre => 72 / 2.54
  | millimetre => 72 / 25.4
  | pica => 12

end UnitOfLength

/-- The name of a unit as it is written, in any letter case. -/
structure UnitWord where
  unit : UnitOfLength
  chars : List Char
  map_toLower : chars.map Char.toLower = unit.name.toList

theorem UnitWord.length_chars (u : UnitWord) : u.chars.length = 2 := by
  rw [← List.length_map Char.toLower, u.map_toLower]
  cases u.unit <;> rfl

/-- The name of a unit does not go on with a number. -/
theorem UnitWord.ahead (u : UnitWord) (rest : List Char) : Ahead EndsNumber (u.chars ++ rest) := by
  obtain ⟨c, cs, hchars⟩ := List.exists_cons_of_length_pos (Nat.lt_of_lt_of_eq Nat.two_pos u.length_chars.symm)
  have hlower := u.map_toLower
  rw [hchars, List.map_cons] at hlower
  have hfirst : c.toLower.isLower = true := by
    cases hunit : u.unit <;> rw [hunit] at hlower <;> rw [(List.cons.inj hlower).1] <;> rfl
  rw [hchars, List.cons_append, Ahead.cons_iff, EndsNumber, ← Bool.not_eq_true, ← not_or]
  exact fun hc => Decimal.toLower_ne_of_isLower hc hfirst rfl

theorem unit_append (u : UnitWord) (rest : List Char) :
    unit (u.chars ++ rest) = some (u.unit.points, rest) := by
  have htake : (u.chars ++ rest).take 2 = u.chars := List.take_left' u.length_chars
  have hdrop : (u.chars ++ rest).drop 2 = rest := List.drop_left' u.length_chars
  rw [unit, htake, hdrop, u.map_toLower]
  cases u.unit <;> rfl

/-- A blank or a tab. -/
def IsGap (c : Char) : Prop := c = ' ' ∨ c = '\t'

theorem unit_eq_none (h : Ahead IsGap s) : unit s = none := by
  cases s with
  | nil => rfl
  | cons c s =>
    obtain rfl | rfl := Ahead.cons_iff.mp h
    · rfl
    · rfl

theorem takes_unit : Takes unit fun cs x => ∃ u : UnitWord, cs = u.chars ∧ x = u.unit.points := by
  have hlisted : ∀ entry ∈ units, ∃ u : UnitOfLength, entry = (u.name, u.points) := by
    simp only [units, List.forall_mem_cons]
    exact ⟨⟨.point, rfl⟩, ⟨.pixel, rfl⟩, ⟨.inch, rfl⟩, ⟨.centimetre, rfl⟩, ⟨.millimetre, rfl⟩,
      ⟨.pica, rfl⟩, List.forall_mem_nil _⟩
  intro s x t e
  rw [unit] at e
  split at e
  · next name points hfound =>
    cases e
    obtain ⟨u, hu⟩ := hlisted _ (List.mem_of_find?_eq_some hfound)
    cases hu
    have hlower := List.find?_some hfound
    rw [beq_iff_eq] at hlower
    exact ⟨s.take 2, (List.take_append_drop 2 s).symm, ⟨u, s.take 2, hlower⟩, rfl, rfl⟩
  · cases e

/-! ### Lengths and extents -/

/-- A length as it is written: a number, and perhaps a unit directly behind it. -/
structure Written where
  number : Number
  unit : Option UnitWord

namespace Written

/-- The text of a length. -/
def chars (w : Written) : List Char := w.number.chars ++ ((w.unit.map UnitWord.chars).getD [])

/-- The length in points; a number without a unit counts points. -/
def points (w : Written) : Float := w.number.value * ((w.unit.map (·.unit.points)).getD 1)

/-- The extent: a length, or cells if there is no unit. -/
def extent (w : Written) : Extent Float :=
  if w.unit.isSome then .length w.points else .cells w.number.value

end Written

/-- What lengths and extents have in common: a number, and how many points its unit has. -/
def measured : Scan (Float × Option Float) := do
  let x ← number
  let points ← Scan.maybe unit
  return (x, points)

/-- What is read for a length as it is written. -/
def Written.reading (w : Written) : Float × Option Float :=
  (w.number.value, w.unit.map (·.unit.points))

/-- The length of a reading in points. -/
def inPoints (reading : Float × Option Float) : Float := reading.1 * reading.2.getD 1

/-- The extent of a reading. -/
def asExtent : Float × Option Float → Extent Float
  | (x, some points) => .length (x * points)
  | (x, none) => .cells x

theorem inPoints_reading (w : Written) : inPoints w.reading = w.points := rfl

theorem asExtent_reading (w : Written) : asExtent w.reading = w.extent := by
  obtain ⟨number, _ | u⟩ := w
  · rfl
  · rfl

theorem length_eq_map : length = inPoints <$> measured := by
  rw [length, measured, map_bind]
  simp only [map_bind, map_pure]
  rfl

theorem extent_eq_map : extent = asExtent <$> measured := by
  rw [extent, measured, map_bind]
  refine congrArg _ (funext fun x => ?_)
  rw [map_bind]
  refine congrArg _ (funext fun points => ?_)
  cases points with
  | none => rfl
  | some points => rfl

theorem measured_append (w : Written) (h : Ahead IsGap rest) :
    measured (w.chars ++ rest) = some (w.reading, rest) := by
  obtain ⟨number, u⟩ := w
  have hends : Ahead EndsNumber rest := h.mono fun c hc => by
    obtain rfl | rfl := hc
    · exact ⟨rfl, by decide⟩
    · exact ⟨rfl, by decide⟩
  rw [measured, Scan.bind_apply, Written.chars, List.append_assoc]
  cases u with
  | none =>
    have hnumber := number_append number hends
    dsimp only [Option.map_none, Option.getD_none, List.nil_append]
    rw [hnumber, Option.bind_some, Scan.bind_apply, Scan.maybe_of_none (unit_eq_none h)]
    rfl
  | some u =>
    have hnumber := number_append number (u.ahead rest)
    dsimp only [Option.map_some, Option.getD_some]
    rw [hnumber, Option.bind_some, Scan.bind_apply, Scan.maybe_of_some (unit_append u rest)]
    rfl

theorem takes_measured : Takes measured fun cs reading => ∃ w : Written, cs = w.chars ∧ w.reading = reading := by
  refine takes_number.bind fun front x hx => takes_unit.maybe.bind fun back o ho => Scan.takes_pure ?_
  obtain ⟨n, rfl, rfl⟩ := hx
  obtain ⟨rfl, rfl⟩ | ⟨points, rfl, u, rfl, rfl⟩ := ho
  · exact ⟨⟨n, none⟩, rfl, rfl⟩
  · exact ⟨⟨n, some u⟩, by rw [List.append_nil]; rfl, rfl⟩

section Readings

variable {α : Type} (f : Float × Option Float → α)

theorem map_measured_append (w : Written) (h : Ahead IsGap rest) :
    (f <$> measured) (w.chars ++ rest) = some (f w.reading, rest) := by
  rw [Scan.map_apply, measured_append w h]
  rfl

theorem takes_map_measured :
    Takes (f <$> measured) fun cs a => ∃ w : Written, cs = w.chars ∧ f w.reading = a := by
  refine Takes.map (takes_measured.mono fun cs reading h => ?_)
  obtain ⟨w, hcs, rfl⟩ := h
  exact ⟨w, hcs, rfl⟩

theorem readWhole_eq_ok_iff {p : Scan α} {input : String} {a : α} :
    readWhole p input = .ok a ↔ p.all (Text.trimChars input.toList) = .done a := by
  rw [readWhole]
  split
  · next h => simp [h]
  · next h => simp [h]
  · next h => simp [h]

/-- **Whole texts.** What is made of readings is read from the texts of the grammar, and from no other. -/
theorem readWhole_map_iff {input : String} {a : α} :
    readWhole (f <$> measured) input = .ok a ↔
      ∃ w : Written, Text.trimChars input.toList = w.chars ∧ f w.reading = a := by
  rw [readWhole_eq_ok_iff]
  constructor
  · exact (takes_map_measured f).of_all
  · rintro ⟨w, hw, rfl⟩
    have hread := map_measured_append f w Ahead.nil
    rw [List.append_nil] at hread
    rw [Scan.all_eq_done_iff, hw, hread]

end Readings

/-! ### Margins -/

/-- Blanks and tabs, at least one. -/
structure Gap where
  chars : List Char
  ne_nil : chars ≠ []
  isGap : ∀ c ∈ chars, IsGap c

/-- Lengths as they are written one after the other, with gaps between them. -/
structure Row where
  first : Written
  rest : List (Gap × Written)

/-- Lengths with gaps in front. -/
def behind (ws : List (Gap × Written)) : List Char := ws.flatMap fun w => w.1.chars ++ w.2.chars

namespace Row

/-- The text of lengths in a row. -/
def chars (r : Row) : List Char := r.first.chars ++ behind r.rest

/-- The lengths of a row in points. -/
def points (r : Row) : List Float := r.first.points :: r.rest.map (·.2.points)

end Row

theorem length_append (w : Written) (h : Ahead IsGap rest) :
    length (w.chars ++ rest) = some (w.points, rest) := by
  rw [length_eq_map, map_measured_append _ w h, inPoints_reading]

theorem takes_length : Takes length fun cs x => ∃ w : Written, cs = w.chars ∧ w.points = x := by
  rw [length_eq_map]
  exact takes_map_measured inPoints

/-- No number begins with a blank. -/
theorem Number.ahead (n : Number) (rest : List Char) :
    Ahead (fun c => (c == ' ' || c == '\t') = false) (n.chars ++ rest) := by
  obtain ⟨sign, whole, fraction, hsign, hnumeral⟩ := n
  cases sign with
  | none =>
    obtain ⟨c, cs, hcons, hc⟩ := Decimal.exists_numeral_eq_cons hnumeral
    change Ahead _ (Decimal.numeral whole fraction ++ rest)
    rw [hcons, List.cons_append, Ahead.cons_iff, Bool.or_eq_false_iff, beq_eq_false_iff_ne, beq_eq_false_iff_ne]
    constructor
    · rintro rfl
      simp at hc
    · rintro rfl
      simp at hc
  | some c =>
    obtain rfl | rfl := hsign c rfl
    · exact Ahead.cons_iff.mpr rfl
    · exact Ahead.cons_iff.mpr rfl

theorem gap_append (g : Gap) (w : Written) (rest : List Char) :
    gap (g.chars ++ (w.chars ++ rest)) = some (g.chars, w.chars ++ rest) := by
  have hgap : ∀ c ∈ g.chars, (c == ' ' || c == '\t') = true :=
    fun c hc => by simpa [IsGap] using g.isGap c hc
  refine Scan.takeWhile1_append g.ne_nil hgap ?_
  rw [Written.chars, List.append_assoc]
  exact w.number.ahead _

theorem takes_gap : Takes gap fun cs _ => ∃ g : Gap, cs = g.chars := by
  refine (Scan.takes_takeWhile1 fun c => c == ' ' || c == '\t').mono fun cs run h => ?_
  obtain ⟨rfl, hne, hrun⟩ := h
  exact ⟨⟨cs, hne, fun c hc => by simpa [IsGap] using hrun c hc⟩, rfl⟩

theorem behind_cons (w : Gap × Written) (ws : List (Gap × Written)) :
    behind (w :: ws) = w.1.chars ++ (w.2.chars ++ behind ws) := by
  rw [behind, List.flatMap_cons, List.append_assoc, behind]

theorem ahead_behind (ws : List (Gap × Written)) : Ahead IsGap (behind ws) := by
  cases ws with
  | nil => exact Ahead.nil
  | cons w ws =>
    have hfirst : Ahead IsGap w.1.chars := fun c hc => w.1.isGap c (List.mem_of_mem_head? hc)
    rw [behind_cons]
    exact hfirst.append_left w.1.ne_nil

/-- The lengths behind the first one are read one after the other, up to the end. -/
theorem runs_behind (ws : List (Gap × Written)) :
    Scan.Runs (gap *> length) (behind ws) (ws.map (·.2.points)) [] := by
  induction ws with
  | nil => exact .stop rfl
  | cons w ws ih =>
    have hread : (gap *> length) (behind (w :: ws)) = some (w.2.points, behind ws) := by
      rw [behind_cons, Scan.seqRight_apply, gap_append, Option.bind_some]
      exact length_append w.2 (ahead_behind ws)
    refine .next hread ?_ ih
    have hgap := List.length_pos_iff.mpr w.1.ne_nil
    rw [behind_cons, List.length_append, List.length_append]
    omega

/-- A row is read as a whole. -/
theorem sepBy1_chars (r : Row) : Scan.sepBy1 length gap r.chars = some (r.points, []) := by
  rw [Scan.sepBy1, Scan.bind_apply, Row.chars, length_append _ (ahead_behind _), Option.bind_some,
    Scan.bind_apply, (runs_behind r.rest).many]
  rfl

theorem exists_behind {fronts : List (List Char)} {xs : List Float}
    (h : List.Forall₂ (fun cs x => ∃ w : Gap × Written, cs = w.1.chars ++ w.2.chars ∧ w.2.points = x)
      fronts xs) :
    ∃ ws : List (Gap × Written), fronts.flatten = behind ws ∧ ws.map (·.2.points) = xs := by
  induction h with
  | nil => exact ⟨[], rfl, rfl⟩
  | cons hfirst _ ih =>
    obtain ⟨w, rfl, rfl⟩ := hfirst
    obtain ⟨ws, hws, rfl⟩ := ih
    exact ⟨w :: ws, by rw [List.flatten_cons, hws, behind_cons, List.append_assoc], rfl⟩

/-- Nothing but rows is read. -/
theorem takes_row : Takes (Scan.sepBy1 length gap) fun cs xs => ∃ r : Row, cs = r.chars ∧ r.points = xs := by
  have hnext : Takes (gap *> length) fun cs x =>
      ∃ w : Gap × Written, cs = w.1.chars ++ w.2.chars ∧ w.2.points = x := by
    refine takes_gap.seqRight fun front _ hfront => takes_length.mono fun back x hback => ?_
    obtain ⟨g, rfl⟩ := hfront
    obtain ⟨w, rfl, rfl⟩ := hback
    exact ⟨(g, w), rfl, rfl⟩
  refine takes_length.bind fun front x hfront => hnext.many.bind fun back xs hback => Scan.takes_pure ?_
  obtain ⟨w, rfl, rfl⟩ := hfront
  obtain ⟨fronts, rfl, hfronts⟩ := hback
  obtain ⟨ws, hws, rfl⟩ := exists_behind hfronts
  exact ⟨⟨w, ws⟩, by rw [List.append_nil, hws]; rfl, rfl⟩

/-- Rows are what is read as a list of lengths. -/
theorem all_sepBy1_iff {cs : List Char} {xs : List Float} :
    (Scan.sepBy1 length gap).all cs = .done xs ↔ ∃ r : Row, cs = r.chars ∧ r.points = xs := by
  constructor
  · exact takes_row.of_all
  · rintro ⟨r, rfl, rfl⟩
    exact Scan.all_eq_done_iff.mpr (sepBy1_chars r)

/-- The margins of one, two or four lengths: for all sides, for the vertical and the horizontal sides, or
for the top, the right, the bottom and the left. -/
inductive Sides : List Float → Margins Float → Prop
  | all (a : Float) : Sides [a] ⟨a, a, a, a⟩
  | two (v h : Float) : Sides [v, h] ⟨v, h, v, h⟩
  | four (t r b l : Float) : Sides [t, r, b, l] ⟨t, r, b, l⟩

end PageGrid.Length

namespace PageGrid

open Length

variable {input : String}

theorem readLength_eq_ok_iff {x : Float} :
    readLength input = .ok x ↔
      ∃ w : Written, Text.trimChars input.toList = w.chars ∧ w.points = x := by
  rw [readLength, length_eq_map, readWhole_map_iff]
  rfl

theorem readExtent_eq_ok_iff {e : Extent Float} :
    readExtent input = .ok e ↔
      ∃ w : Written, Text.trimChars input.toList = w.chars ∧ w.extent = e := by
  rw [readExtent, extent_eq_map, readWhole_map_iff]
  simp only [asExtent_reading]

theorem readMargins_eq_ok_iff {margins : Margins Float} :
    readMargins input = .ok margins ↔
      ∃ r : Row, Text.trimChars input.toList = r.chars ∧ Sides r.points margins := by
  constructor
  · intro h
    rw [readMargins] at h
    split at h
    · next a hall =>
      obtain ⟨r, hr, hpoints⟩ := all_sepBy1_iff.mp hall
      cases h
      exact ⟨r, hr, hpoints ▸ .all a⟩
    · next v h' hall =>
      obtain ⟨r, hr, hpoints⟩ := all_sepBy1_iff.mp hall
      cases h
      exact ⟨r, hr, hpoints ▸ .two v h'⟩
    · next t r' b l hall =>
      obtain ⟨r, hr, hpoints⟩ := all_sepBy1_iff.mp hall
      cases h
      exact ⟨r, hr, hpoints ▸ .four t r' b l⟩
    · cases h
    · cases h
  · rintro ⟨r, hr, hsides⟩
    rw [readMargins, all_sepBy1_iff.mpr ⟨r, hr, rfl⟩]
    generalize r.points = xs at hsides
    cases hsides with
    | all a => rfl
    | two v h => rfl
    | four t r b l => rfl

/-- **Which texts are lengths, extents and margins**, whatever blanks stand around them, and what is read
from them. A text is a length iff it is an extent; the lengths of margins stand in a row of one, two or
four. -/
theorem lengths_exact (input : String) :
    (∀ x, readLength input = .ok x ↔
      ∃ w : Written, Text.trimChars input.toList = w.chars ∧ w.points = x) ∧
    (∀ e, readExtent input = .ok e ↔
      ∃ w : Written, Text.trimChars input.toList = w.chars ∧ w.extent = e) ∧
    (∀ margins, readMargins input = .ok margins ↔
      ∃ r : Row, Text.trimChars input.toList = r.chars ∧ Sides r.points margins) :=
  ⟨fun _ => readLength_eq_ok_iff, fun _ => readExtent_eq_ok_iff, fun _ => readMargins_eq_ok_iff⟩

end PageGrid
