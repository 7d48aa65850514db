import Mathlib.Data.List.Basic
import PageGrid.Json.Codec

/-!
# What a codec for JSON is relied on for

A codec is relied on for its layout and for what it makes of values without parts: strings and whole
numbers are read as they are written, and so are arrays and objects if their parts are. A limit to the
nesting takes nothing away from the values within it. Nothing is asked of floats in general; of a given
one it can be asked that it is read as it is written (`Codec.FloatReadsBack`).

From this it follows by induction over a value that it is written on one line and that it is read back,
however deeply its arrays and objects are nested.

## Main definitions

* `Json.Codec.Lawful` — what a codec is relied on for;
* `Json.Codec.ReadsBack` — the numbers in a value are read as they are written.

## Main results

* `Json.Codec.Lawful.lineFeed_notMem` — a value is on one line;
* `Json.Codec.ReadsBack.read_write`, `Json.Codec.ReadsBack.read_write_limit` — values are read back.
-/

namespace PageGrid.Json

/-- A value without parts. -/
def IsScalar : Json → Prop
  | .array _ => False
  | .object _ => False
  | _ => True

/-- What a codec is relied on for. -/
structure Codec.Lawful (codec : Codec) : Prop where
  /-- A value without parts is written without line feed. -/
  lineFeed_scalar {v : Json} : v.IsScalar → '\n' ∉ codec.write v
  /-- Items are written one after the other with commas between them. -/
  write_array (vs : List Json) :
    codec.write (.array vs) = '[' :: ([','].intercalate (vs.map codec.write) ++ [']'])
  /-- Members are written one after the other with commas between them, each as its key, a colon and its
  value. -/
  write_object (ms : List (String × Json)) :
    codec.write (.object ms) =
      '\x7b' :: ([','].intercalate (ms.map fun m => codec.write (.string m.1) ++ ':' :: codec.write m.2) ++
        ['\x7d'])
  /-- The missing value is read as it is written. -/
  read_null : codec.read none (codec.write .null) = some .null
  /-- Strings are read as they are written. -/
  read_string (text : String) : codec.read none (codec.write (.string text)) = some (.string text)
  /-- Whole numbers of sixty-four bits are read as they are written. -/
  read_whole {n : Int} :
    isExact n = true → codec.read none (codec.write (.whole n)) = some (.whole n)
  /-- Items of an array are read as they are by themselves. -/
  read_array {vs : List Json} :
    (∀ v ∈ vs, codec.read none (codec.write v) = some v) →
      codec.read none (codec.write (.array vs)) = some (.array vs)
  /-- Members of an object are read as their values are by themselves. -/
  read_object {ms : List (String × Json)} :
    (∀ m ∈ ms, codec.read none (codec.write m.2) = some m.2) →
      codec.read none (codec.write (.object ms)) = some (.object ms)
  /-- With a limit, the values that are nested more deeply are refused, and no others. -/
  read_limit {v : Json} (n : Nat) :
    codec.read none (codec.write v) = some v →
      codec.read (some n) (codec.write v) = if v.nesting ≤ n then some v else none

namespace Codec

variable {codec : Codec}

/-! ### One line -/

theorem notMem_intercalate {c : Char} (separator : List Char) {texts : List (List Char)}
    (hseparator : c ∉ separator) (htexts : ∀ text ∈ texts, c ∉ text) :
    c ∉ separator.intercalate texts := by
  induction texts with
  | nil => simp
  | cons text texts ih =>
    rw [List.forall_mem_cons] at htexts
    cases texts with
    | nil => simpa using htexts.1
    | cons next texts =>
      rw [List.intercalate_cons_cons, List.mem_append, List.mem_append, not_or, not_or]
      exact ⟨⟨htexts.1, hseparator⟩, ih htexts.2⟩

mutual

/-- **A value is written on one line.** -/
theorem Lawful.lineFeed_notMem (hcodec : codec.Lawful) : (v : Json) → '\n' ∉ codec.write v
  | .null => hcodec.lineFeed_scalar trivial
  | .bool _ => hcodec.lineFeed_scalar trivial
  | .whole _ => hcodec.lineFeed_scalar trivial
  | .number _ => hcodec.lineFeed_scalar trivial
  | .string _ => hcodec.lineFeed_scalar trivial
  | .array vs => by
    have hitems := notMem_intercalate [','] (by decide)
      (List.forall_mem_map.mpr (hcodec.lineFeed_notMem_items vs))
    simpa [hcodec.write_array] using hitems
  | .object ms => by
    have hmembers : ∀ m ∈ ms, '\n' ∉ codec.write (.string m.1) ++ ':' :: codec.write m.2 := fun m hm => by
      simp [hcodec.lineFeed_scalar (v := .string m.1) trivial, hcodec.lineFeed_notMem_members ms m hm]
    have hitems := notMem_intercalate [','] (by decide) (List.forall_mem_map.mpr hmembers)
    simpa [hcodec.write_object] using hitems

theorem Lawful.lineFeed_notMem_items (hcodec : codec.Lawful) :
    (vs : List Json) → ∀ v ∈ vs, '\n' ∉ codec.write v
  | [] => List.forall_mem_nil _
  | v :: vs => List.forall_mem_cons.mpr ⟨hcodec.lineFeed_notMem v, hcodec.lineFeed_notMem_items vs⟩

theorem Lawful.lineFeed_notMem_members (hcodec : codec.Lawful) :
    (ms : List (String × Json)) → ∀ m ∈ ms, '\n' ∉ codec.write m.2
  | [] => List.forall_mem_nil _
  | (_, v) :: ms => List.forall_mem_cons.mpr ⟨hcodec.lineFeed_notMem v, hcodec.lineFeed_notMem_members ms⟩

end

/-! ### Reading back -/

/-- A float is read as it is written. Nothing is asked of one that is not finite, since it is not written. -/
def FloatReadsBack (codec : Codec) (x : Float) : Prop :=
  Decimal.isFinite x = true → codec.read none (codec.write (.number x)) = some (.number x)

/-- The numbers in a value are read as they are written. -/
inductive ReadsBack (codec : Codec) : Json → Prop
  | null : ReadsBack codec .null
  | whole {n : Int} : isExact n = true → ReadsBack codec (.whole n)
  | number {x : Float} :
      codec.read none (codec.write (.number x)) = some (.number x) → ReadsBack codec (.number x)
  | string (text : String) : ReadsBack codec (.string text)
  | array {vs : List Json} : (∀ v ∈ vs, ReadsBack codec v) → ReadsBack codec (.array vs)
  | object {ms : List (String × Json)} : (∀ m ∈ ms, ReadsBack codec m.2) → ReadsBack codec (.object ms)

theorem FloatReadsBack.ofFloat {x : Float} (h : codec.FloatReadsBack x) :
    codec.ReadsBack (ofFloat x) := by
  rw [Json.ofFloat]
  split
  · next hfinite => exact .number (h hfinite)
  · exact .null

theorem ReadsBack.ofNat {n : Nat} (h : n ≤ significandLimit) : codec.ReadsBack (ofNat n) := by
  refine .whole ?_
  simp only [isExact, Bool.and_eq_true, decide_eq_true_eq]
  omega

/-- **A value is read back**, however deeply it is nested. -/
theorem ReadsBack.read_write {v : Json} (h : codec.ReadsBack v) (hcodec : codec.Lawful) :
    codec.read none (codec.write v) = some v := by
  induction h with
  | null => exact hcodec.read_null
  | whole hn => exact hcodec.read_whole hn
  | number hx => exact hx
  | string text => exact hcodec.read_string text
  | array _ ih => exact hcodec.read_array ih
  | object _ ih => exact hcodec.read_object ih

/-- With a limit a value is read back if it is nested within the limit. -/
theorem ReadsBack.read_write_limit {v : Json} (h : codec.ReadsBack v) (hcodec : codec.Lawful) (n : Nat) :
    codec.read (some n) (codec.write v) = if v.nesting ≤ n then some v else none :=
  hcodec.read_limit n (h.read_write hcodec)

end Codec

end PageGrid.Json
