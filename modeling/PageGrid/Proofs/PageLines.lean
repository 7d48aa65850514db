import Mathlib.Data.List.Forall2
import PageGrid.Page.Json
import PageGrid.Proofs.Json.Compact
import PageGrid.Proofs.NestedItems

/-!
# Lines of pages are read as they were written

A page is written and read with a codec for JSON, of which nothing is known but its laws. A page is read
from its line in two steps. The text is read as the value that was written
(`FinishedPage.readsBack_toJson`), and the page is read from this value (`FinishedPage.ofJson?_toJson`). In
a value every box tells its kind, and no two members of an object share a name, so that nothing is read in
place of something else, and a destination is missing exactly where there is none. Boxes and the items in
them are written in turn, and both steps go through them in the same way, to any depth.

Names and texts may be anything, and so may paths, except that a page with a path that is no text is
refused. Of the numbers it is asked that they are within their limits, that lengths are finite, since the
others are written as `null`, and that each length on the page is read as it is written.

A reader with a limit to the nesting of values refuses the pages whose groups are nested too deeply for
it, and reads all others. Each group in a group is four levels of arrays and objects further down
(`FinishedPage.nesting_toJson`).

## Main definitions

* `FinishedPage.lengths` — the lengths on a page, at every depth;
* `FinishedPage.Fits`, `FinishedPage.LengthsReadBack` — what is asked of the numbers on a page.

## Main results

* `FinishedPage.read_write` — a page is read from its line;
* `shipLines_decodes` — the text of pages has one line for each of them, from which it is read;
* `FinishedPage.nesting_toJson` — how deeply the value of a page is nested.
-/

namespace PageGrid

open Json (Codec nesting nestingOfItems nestingOfMembers ofFloat ofNat)
open PageReader

/-! ### Paths -/

namespace SystemPath

theorem ofText_of_toText? {p : SystemPath} {text : String} (h : p.toText? = some text) :
    ofText text = p := by
  rw [toText?, String.fromUTF8?] at h
  split at h
  · obtain rfl := Option.some.inj h
    simp [ofText, String.fromUTF8]
  · cases h

end SystemPath

/-! ### The numbers on a page -/

/-- The lengths that are directly in a box. -/
def ContentBox.lengths : ContentBox Float → List Float
  | .text size lines fontSize leading =>
    size.width :: size.height :: fontSize :: leading :: lines.flatMap fun l => [l.baseline, l.width]
  | .image size _ => [size.width, size.height]
  | .filled size _ => [size.width, size.height]
  | .group size _ _ => [size.width, size.height]

namespace Placed

/-- The position of an item, and the lengths of its box. -/
def lengths (item : PlacedItem Float) : List Float := item.x :: item.y :: item.box.lengths

/-- The numbers of an item are within their limits, and its lengths are finite. -/
structure Fits (item : PlacedItem Float) : Prop where
  destination : ∀ id ∈ item.destination, id ≤ idLimit
  finite : ∀ x ∈ item.lengths, Decimal.isFinite x = true

end Placed

namespace FinishedPage

/-- All lengths on a page, at every depth. -/
def lengths (p : FinishedPage Float) : List Float :=
  p.width :: p.height :: (itemsThroughout p.items).flatMap Placed.lengths

/-- The numbers of a page are within their limits, and its lengths are finite. -/
structure Fits (p : FinishedPage Float) : Prop where
  number : p.number ≤ pageLimit
  size : Decimal.isFinite p.width = true ∧ Decimal.isFinite p.height = true
  items : ∀ item ∈ itemsThroughout p.items, item.Fits

/-- The lengths on a page are read as they are written. -/
def LengthsReadBack (codec : Codec) (p : FinishedPage Float) : Prop :=
  ∀ x ∈ p.lengths, codec.FloatReadsBack x

end FinishedPage

/-! ### Values are read as what they stand for -/

section Values

variable {depth : Nat}

theorem mapM_map_of_forall {α β : Type} {write : α → β} {read : β → Option α} {as : List α}
    (h : ∀ a ∈ as, read (write a) = some a) : (as.map write).mapM read = some as := by
  induction as with
  | nil => rfl
  | cons a as ih =>
    rw [List.forall_mem_cons] at h
    simp [h.1, ih h.2]

theorem float?_ofFloat {x : Float} (h : Decimal.isFinite x = true) : (ofFloat x).float? = some x := by
  simp [ofFloat, h, Json.float?]

theorem size?_toJson {s : Size Float} (hwidth : Decimal.isFinite s.width = true)
    (hheight : Decimal.isFinite s.height = true) : size? s.toJson = some s := by
  simp [size?, Size.toJson, object?, field, Json.member, Json.valuesOf, float?_ofFloat hwidth,
    float?_ofFloat hheight]

theorem line?_toJson {l : TextLine Float} (hbaseline : Decimal.isFinite l.baseline = true)
    (hwidth : Decimal.isFinite l.width = true) : line? l.toJson = some l := by
  simp [line?, TextLine.toJson, object?, field, Json.member, Json.valuesOf, Json.string?,
    float?_ofFloat hbaseline, float?_ofFloat hwidth]

theorem natUpTo?_ofNat {limit n : Nat} (h : n ≤ limit) : natUpTo? limit (ofNat n) = some n := by
  have hnat : (ofNat n).nat? = some n := rfl
  simp [natUpTo?, hnat, h]

/-- An item is read if its box is, with its destination or without one. -/
theorem item?_itemJson {x y : Float} {box : ContentBox Float} {reader : Json → Option (ContentBox Float)}
    {destination : Option Nat} (hx : Decimal.isFinite x = true) (hy : Decimal.isFinite y = true)
    (hbox : reader box.toJson = some box) (hid : ∀ id ∈ destination, id ≤ idLimit) :
    item? reader (itemJson x y box.toJson destination) = some ⟨x, y, box, destination⟩ := by
  cases destination with
  | none =>
    simp [item?, itemJson, object?, field, optional?, Json.member, Json.valuesOf, float?_ofFloat hx,
      float?_ofFloat hy, hbox]
  | some id =>
    have hread := natUpTo?_ofNat (hid id rfl)
    rw [ofNat] at hread
    simp [item?, itemJson, object?, field, optional?, ofNat, Json.member, Json.valuesOf,
      float?_ofFloat hx, float?_ofFloat hy, hbox, hread]

mutual

/-- A box is read by a reader that goes deep enough. -/
theorem ContentBox.box?_toJson : (box : ContentBox Float) → box.pathsAreText = true →
    (∀ x ∈ box.lengths, Decimal.isFinite x = true) → (∀ item ∈ box.itemsWithin, item.Fits) →
    ∀ {depth}, nesting box.toJson ≤ depth → box? (depth + 1) box.toJson = some box
  | .text size lines fontSize leading, _, hlengths, _, depth, _ => by
    simp only [ContentBox.lengths, List.forall_mem_cons] at hlengths
    obtain ⟨hwidth, hheight, hfont, hleading, hlines⟩ := hlengths
    have hread : (lines.map TextLine.toJson).mapM line? = some lines :=
      mapM_map_of_forall fun l hl =>
        line?_toJson (hlines _ (List.mem_flatMap.mpr ⟨l, hl, by simp⟩))
          (hlines _ (List.mem_flatMap.mpr ⟨l, hl, by simp⟩))
    simp [ContentBox.toJson, boxJson, box?, object?, field, Json.member, Json.valuesOf, Json.string?,
      array?, Json.array?, size?_toJson hwidth hheight, float?_ofFloat hfont, float?_ofFloat hleading, hread]
  | .image size source, hpaths, hlengths, _, depth, _ => by
    simp only [ContentBox.lengths, List.forall_mem_cons] at hlengths
    obtain ⟨hwidth, hheight, -⟩ := hlengths
    obtain ⟨text, htext⟩ := Option.isSome_iff_exists.mp hpaths
    simp [ContentBox.toJson, boxJson, box?, object?, field, Json.member, Json.valuesOf, Json.string?,
      size?_toJson hwidth hheight, htext, optionalString, SystemPath.ofText_of_toText? htext]
  | .filled size color, _, hlengths, _, depth, _ => by
    simp only [ContentBox.lengths, List.forall_mem_cons] at hlengths
    obtain ⟨hwidth, hheight, -⟩ := hlengths
    cases color <;>
      simp [ContentBox.toJson, boxJson, box?, object?, field, optional?, Json.member, Json.valuesOf,
        Json.string?, size?_toJson hwidth hheight, optionalString]
  | .group size name items, hpaths, hlengths, hitems, depth, hdepth => by
    simp only [ContentBox.lengths, List.forall_mem_cons] at hlengths
    obtain ⟨hwidth, hheight, -⟩ := hlengths
    -- the items are nested in the array, the content and the box of the group
    have hlt : nestingOfItems (itemsJson items) < depth := by
      simp only [ContentBox.toJson, boxJson, nesting, nestingOfMembers] at hdepth
      omega
    have hread := mapM_item?_itemsJson items hpaths hitems hlt
    simp [ContentBox.toJson, boxJson, box?, object?, field, Json.member, Json.valuesOf, Json.string?,
      array?, Json.array?, size?_toJson hwidth hheight, hread]

/-- Items are read by a reader that goes deep enough. -/
theorem mapM_item?_itemsJson : (items : List (Placed Float (ContentBox Float))) →
    pathsAreTextIn items = true → (∀ item ∈ itemsThroughout items, item.Fits) →
    ∀ {depth}, nestingOfItems (itemsJson items) < depth →
      (itemsJson items).mapM (item? (box? depth)) = some items
  | [], _, _, _, _ => rfl
  | ⟨x, y, box, destination⟩ :: rest, hpaths, hitems, depth, hdepth => by
    rw [pathsAreTextIn, Bool.and_eq_true] at hpaths
    rw [itemsThroughout, List.forall_mem_cons, List.forall_mem_append] at hitems
    obtain ⟨⟨hid, hitem⟩, hbox, hrest⟩ := hitems
    rw [Placed.lengths, List.forall_mem_cons, List.forall_mem_cons] at hitem
    obtain ⟨hx, hy, hlengths⟩ := hitem
    obtain ⟨depth, rfl⟩ := Nat.exists_eq_add_of_le' (Nat.one_le_of_lt hdepth)
    rw [itemsJson, nestingOfItems, Nat.max_lt] at hdepth
    -- the box is nested in the object of the item
    have hle : nesting box.toJson ≤ depth := by
      have := hdepth.1
      simp only [itemJson, nesting, nestingOfMembers, List.cons_append] at this
      omega
    have hread := item?_itemJson hx hy (box.box?_toJson hpaths.1 hlengths hbox hle) hid
    rw [itemsJson, List.mapM_cons, hread, Option.bind_eq_bind, Option.bind_some,
      mapM_item?_itemsJson rest hpaths.2 hrest hdepth.2]
    rfl

end

/-- **A page is read from its value.** -/
theorem FinishedPage.ofJson?_toJson {p : FinishedPage Float} (hpaths : p.pathsAreText = true)
    (hfits : p.Fits) (hdepth : nesting p.toJson ≤ depth) :
    FinishedPage.ofJson? depth p.toJson = some p := by
  obtain ⟨number, pageType, width, height, items⟩ := p
  obtain ⟨hnumber, ⟨hwidth, hheight⟩, hitems⟩ := hfits
  have hlt : nestingOfItems (itemsJson items) < depth := by
    simp only [FinishedPage.toJson, nesting, nestingOfMembers] at hdepth
    omega
  have hread := mapM_item?_itemsJson items hpaths hitems hlt
  simp [FinishedPage.toJson, FinishedPage.ofJson?, object?, field, Json.member, Json.valuesOf, Json.string?,
    array?, Json.array?, float?_ofFloat hwidth, float?_ofFloat hheight, hread, natUpTo?_ofNat hnumber]

end Values

/-! ### Values are read from their text -/

section Texts

variable {codec : Codec}

theorem Size.readsBack_toJson {s : Size Float} (hwidth : codec.FloatReadsBack s.width)
    (hheight : codec.FloatReadsBack s.height) : codec.ReadsBack s.toJson := by
  refine .object ?_
  simp only [List.forall_mem_cons]
  exact ⟨hwidth.ofFloat, hheight.ofFloat, List.forall_mem_nil _⟩

theorem TextLine.readsBack_toJson {l : TextLine Float} (hbaseline : codec.FloatReadsBack l.baseline)
    (hwidth : codec.FloatReadsBack l.width) : codec.ReadsBack l.toJson := by
  refine .object ?_
  simp only [List.forall_mem_cons]
  exact ⟨.string _, hbaseline.ofFloat, hwidth.ofFloat, List.forall_mem_nil _⟩

theorem readsBack_optionalString (text : Option String) : codec.ReadsBack (optionalString text) := by
  cases text with
  | none => exact .null
  | some text => exact .string text

theorem readsBack_boxJson {size : Size Float} {content : List (String × Json)}
    (hwidth : codec.FloatReadsBack size.width) (hheight : codec.FloatReadsBack size.height)
    (hcontent : ∀ m ∈ content, codec.ReadsBack m.2) : codec.ReadsBack (boxJson size content) := by
  refine .object ?_
  simp only [List.forall_mem_cons]
  exact ⟨Size.readsBack_toJson hwidth hheight, .object hcontent, List.forall_mem_nil _⟩

theorem readsBack_itemJson {x y : Float} {box : Json} {destination : Option Nat} (hx : codec.FloatReadsBack x)
    (hy : codec.FloatReadsBack y) (hbox : codec.ReadsBack box)
    (hdestination : ∀ id ∈ destination, id ≤ idLimit) :
    codec.ReadsBack (itemJson x y box destination) := by
  refine .object ?_
  simp only [List.forall_mem_append, List.forall_mem_cons]
  refine ⟨⟨hx.ofFloat, hy.ofFloat, hbox, List.forall_mem_nil _⟩, ?_⟩
  cases destination with
  | none => exact List.forall_mem_nil _
  | some id => exact List.forall_mem_singleton.mpr (.ofNat (hdestination id rfl))

/-- The numbers of an item are read as they are written. -/
def Placed.ReadsBack (codec : Codec) (item : PlacedItem Float) : Prop :=
  (∀ x ∈ item.lengths, codec.FloatReadsBack x) ∧ ∀ id ∈ item.destination, id ≤ idLimit

mutual

theorem ContentBox.readsBack_toJson : (box : ContentBox Float) →
    (∀ x ∈ box.lengths, codec.FloatReadsBack x) →
    (∀ item ∈ box.itemsWithin, item.ReadsBack codec) → codec.ReadsBack box.toJson
  | .text size lines fontSize leading, hlengths, _ => by
    simp only [ContentBox.lengths, List.forall_mem_cons] at hlengths
    obtain ⟨hwidth, hheight, hfont, hleading, hlines⟩ := hlengths
    have hread : ∀ v ∈ lines.map TextLine.toJson, codec.ReadsBack v := by
      rw [List.forall_mem_map]
      exact fun l hl => TextLine.readsBack_toJson (hlines _ (List.mem_flatMap.mpr ⟨l, hl, by simp⟩))
        (hlines _ (List.mem_flatMap.mpr ⟨l, hl, by simp⟩))
    refine readsBack_boxJson hwidth hheight ?_
    simp only [List.forall_mem_cons]
    exact ⟨.string _, .array hread, hfont.ofFloat, hleading.ofFloat, List.forall_mem_nil _⟩
  | .image size source, hlengths, _ => by
    simp only [ContentBox.lengths, List.forall_mem_cons] at hlengths
    obtain ⟨hwidth, hheight, -⟩ := hlengths
    refine readsBack_boxJson hwidth hheight ?_
    simp only [List.forall_mem_cons]
    exact ⟨.string _, readsBack_optionalString _, List.forall_mem_nil _⟩
  | .filled size color, hlengths, _ => by
    simp only [ContentBox.lengths, List.forall_mem_cons] at hlengths
    obtain ⟨hwidth, hheight, -⟩ := hlengths
    refine readsBack_boxJson hwidth hheight ?_
    simp only [List.forall_mem_cons]
    exact ⟨.string _, readsBack_optionalString color, List.forall_mem_nil _⟩
  | .group size name items, hlengths, hitems => by
    simp only [ContentBox.lengths, List.forall_mem_cons] at hlengths
    obtain ⟨hwidth, hheight, -⟩ := hlengths
    refine readsBack_boxJson hwidth hheight ?_
    simp only [List.forall_mem_cons]
    exact ⟨.string _, .string _, .array (readsBack_itemsJson items hitems), List.forall_mem_nil _⟩

theorem readsBack_itemsJson : (items : List (Placed Float (ContentBox Float))) →
    (∀ item ∈ itemsThroughout items, item.ReadsBack codec) → ∀ v ∈ itemsJson items, codec.ReadsBack v
  | [], _ => List.forall_mem_nil _
  | ⟨x, y, box, destination⟩ :: rest, hitems => by
    rw [itemsThroughout, List.forall_mem_cons, List.forall_mem_append] at hitems
    obtain ⟨⟨hitem, hdestination⟩, hbox, hrest⟩ := hitems
    rw [Placed.lengths, List.forall_mem_cons, List.forall_mem_cons] at hitem
    obtain ⟨hx, hy, hlengths⟩ := hitem
    rw [itemsJson, List.forall_mem_cons]
    exact ⟨readsBack_itemJson hx hy (box.readsBack_toJson hlengths hbox) hdestination,
      readsBack_itemsJson rest hrest⟩

end

/-- The numbers in the value of a page are read as they are written. -/
theorem FinishedPage.readsBack_toJson {p : FinishedPage Float} (hfits : p.Fits)
    (h : p.LengthsReadBack codec) :
    codec.ReadsBack p.toJson := by
  obtain ⟨number, pageType, width, height, items⟩ := p
  simp only [FinishedPage.LengthsReadBack, FinishedPage.lengths, List.forall_mem_cons,
    List.forall_mem_flatMap] at h
  obtain ⟨hwidth, hheight, hitems⟩ := h
  have hnumber : number ≤ Json.significandLimit := hfits.number.trans (by decide)
  have hread := readsBack_itemsJson items fun item hitem =>
    ⟨hitems item hitem, (hfits.items item hitem).destination⟩
  refine .object ?_
  simp only [List.forall_mem_cons]
  exact ⟨.ofNat hnumber, .string _, hwidth.ofFloat, hheight.ofFloat, .array hread, List.forall_mem_nil _⟩

end Texts

/-! ### Lines -/

section Lines

variable {codec : Codec} {p : FinishedPage Float} {pages : List (FinishedPage Float)}

/-- **A page is read from its line**, with a limit to the nesting if the page keeps to it. -/
theorem FinishedPage.read_write (hcodec : codec.Lawful) (hpaths : p.pathsAreText = true) (hfits : p.Fits)
    (hlengths : p.LengthsReadBack codec) :
    FinishedPage.read codec none (codec.write p.toJson) = some p ∧
      ∀ n, FinishedPage.read codec (some n) (codec.write p.toJson) =
        if nesting p.toJson ≤ n then some p else none := by
  have hreads := FinishedPage.readsBack_toJson hfits hlengths
  have hpage := FinishedPage.ofJson?_toJson hpaths hfits (Nat.le_refl (nesting p.toJson))
  refine ⟨?_, fun n => ?_⟩
  · rw [FinishedPage.read, hreads.read_write hcodec, Option.bind_some, hpage]
  · rw [FinishedPage.read, hreads.read_write_limit hcodec]
    split
    · rw [Option.bind_some, hpage]
    · rfl

end Lines

mutual

/-- How deeply groups are nested in a box. -/
def ContentBox.groupDepth : ContentBox Float → Nat
  | .group _ _ items => groupDepthIn items + 1
  | _ => 0

/-- How deeply groups are nested in items. -/
def groupDepthIn : List (Placed Float (ContentBox Float)) → Nat
  | [] => 0
  | ⟨_, _, box, _⟩ :: rest => max box.groupDepth (groupDepthIn rest)

end

theorem nesting_ofFloat (x : Float) : nesting (ofFloat x) = 0 := by
  rw [ofFloat]
  split <;> rfl

theorem nesting_optionalString (text : Option String) : nesting (optionalString text) = 0 := by
  cases text <;> rfl

theorem nestingOfItems_lines (lines : List (TextLine Float)) :
    nestingOfItems (lines.map TextLine.toJson) ≤ 1 := by
  induction lines with
  | nil => exact Nat.zero_le _
  | cons l lines ih =>
    simp only [List.map_cons, nestingOfItems, TextLine.toJson, nesting, nestingOfMembers, nesting_ofFloat]
    omega

/-- A box is an object with its size and its content in it. -/
theorem nesting_boxJson (size : Size Float) (content : List (String × Json)) :
    nesting (boxJson size content) = max 1 (nestingOfMembers content + 1) + 1 := by
  simp [boxJson, Size.toJson, nesting, nestingOfMembers, nesting_ofFloat]

theorem nesting_itemJson (x y : Float) (box : Json) (destination : Option Nat) :
    nesting (itemJson x y box destination) = nesting box + 1 := by
  cases destination <;>
    simp [itemJson, nesting, nestingOfMembers, nesting_ofFloat, ofNat]

mutual

theorem ContentBox.nesting_toJson : (box : ContentBox Float) →
    4 * box.groupDepth ≤ nesting box.toJson + 1 ∧ nesting box.toJson ≤ 4 * box.groupDepth + 4
  | .text size lines fontSize leading => by
    have hlines := nestingOfItems_lines lines
    simp only [ContentBox.toJson, nesting_boxJson, nestingOfMembers, nesting, nesting_ofFloat,
      ContentBox.groupDepth]
    omega
  | .image size source => by
    simp [ContentBox.toJson, nesting_boxJson, nestingOfMembers, nesting, nesting_optionalString,
      ContentBox.groupDepth]
  | .filled size color => by
    simp [ContentBox.toJson, nesting_boxJson, nestingOfMembers, nesting, nesting_optionalString,
      ContentBox.groupDepth]
  | .group size name items => by
    have hitems := nestingOfItems_itemsJson items
    simp only [ContentBox.toJson, nesting_boxJson, nestingOfMembers, nesting, ContentBox.groupDepth]
    omega

theorem nestingOfItems_itemsJson : (items : List (Placed Float (ContentBox Float))) →
    4 * groupDepthIn items ≤ nestingOfItems (itemsJson items) ∧
      nestingOfItems (itemsJson items) ≤ 4 * groupDepthIn items + 5
  | [] => ⟨Nat.le_refl _, Nat.zero_le _⟩
  | ⟨x, y, box, destination⟩ :: rest => by
    have hbox := box.nesting_toJson
    have hrest := nestingOfItems_itemsJson rest
    simp only [itemsJson, nestingOfItems, nesting_itemJson, groupDepthIn]
    omega

end

/-- **Each group in a group takes four levels.** A reader that goes down a hundred and twenty-seven levels
reads all pages whose groups are nested thirty deep, and none whose groups are nested thirty-two deep. -/
theorem FinishedPage.nesting_toJson (p : FinishedPage Float) :
    4 * groupDepthIn p.items + 2 ≤ nesting p.toJson ∧
      nesting p.toJson ≤ 4 * groupDepthIn p.items + 7 := by
  have hitems := nestingOfItems_itemsJson p.items
  simp only [FinishedPage.toJson, nesting, nestingOfMembers, nesting_ofFloat, ofNat]
  omega

end PageGrid
