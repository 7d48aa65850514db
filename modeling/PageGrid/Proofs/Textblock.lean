import PageGrid.Command.Boxes
import PageGrid.Proofs.Decimal.Binary
import PageGrid.Proofs.Effect
import PageGrid.Proofs.WordWrap

/-!
# Blocks of text

A block of text is made of the items of the rules below it. Some of these are paragraphs, and what comes
between two paragraphs is gathered to one. Every paragraph is then wrapped, and the lines are laid below
each other. Nothing of this loses text or moves it: gathering keeps the text of the items as it is, and
wrapping changes blanks at most.

The paragraphs are given without the loop that gathers them, in `Gathered`. A width that text can be set
into has room for a character, and wrapping is good from one character on; what is left is to read the
lines off the box.

## Main definitions

* `Items.Gathered` — the paragraphs that a list of items falls into;
* `ContentBox.Prints` — a box shows a text in lines at equal distances.

## Main results

* `Items.gathered_iff` — the paragraphs of a list of items;
* `prints_of_setText` — what a box of paragraphs shows;
* `textblock_eq_ok` — the box of a block of text has the paragraphs of the items below it;
* `textblock_prints` — all of this together.
-/

namespace PageGrid

open Text (isBlank)
open Xml (Document)

/-! ### Paragraphs -/

/-- Whether the item is a paragraph. -/
def Item.isParagraph : Item → Bool
  | .paragraph _ => true
  | _ => false

namespace Items

variable {d : Document} {items run : Items} {loose : String} {texts : List String}

/-- The paragraph that a text is, if there is any text. -/
def entry (text : String) : List String := if text = "" then [] else [text]

/-- The items fall into paragraphs and runs of other items. The texts are those of the paragraphs and
those of the runs, in order; a run without text is left out. -/
inductive Gathered (d : Document) : Items → List String → Prop
  | run {run : Items} : (∀ i ∈ run, i.isParagraph = false) → Gathered d run (entry (toText d run))
  | paragraph {run rest : Items} {texts : List String} (text : String) :
      (∀ i ∈ run, i.isParagraph = false) → Gathered d rest texts →
        Gathered d (run ++ .paragraph text :: rest) (entry (toText d run) ++ text :: texts)

@[simp] theorem toText_nil (d : Document) : toText d [] = "" := rfl

@[simp] theorem toText_cons (d : Document) (i : Item) (items : Items) :
    toText d (i :: items) = i.toText d ++ toText d items :=
  String.join_cons

@[simp] theorem toText_append (d : Document) (items items' : Items) :
    toText d (items ++ items') = toText d items ++ toText d items' := by
  rw [toText, List.map_append, String.join_append]
  rfl

@[simp] theorem join_entry (text : String) : String.join (entry text) = text := by
  rw [entry]
  split
  · next h => exact h.symm
  · simp

theorem paragraphsAfter_nil (d : Document) (loose : String) :
    paragraphsAfter d loose [] = entry loose := by
  simp [paragraphsAfter, paragraphsAfter.flush, entry]

theorem paragraphsAfter_paragraph (d : Document) (loose text : String) (rest : Items) :
    paragraphsAfter d loose (.paragraph text :: rest) =
      entry loose ++ text :: paragraphsAfter d "" rest := by
  simp [paragraphsAfter, paragraphsAfter.flush, entry]

/-- An item that is not a paragraph adds its text to the run, if it has any. -/
theorem paragraphsAfter_cons {i : Item} (hi : i.isParagraph = false) (rest : Items) :
    paragraphsAfter d loose (i :: rest) = paragraphsAfter d (loose ++ i.toText d) rest := by
  cases i with
  | paragraph => cases hi
  | box => rw [paragraphsAfter, Item.toText, String.append_empty]
  | number | string | boolean | node => rfl

theorem paragraphsAfter_append (hrun : ∀ i ∈ run, i.isParagraph = false) (rest : Items) :
    paragraphsAfter d loose (run ++ rest) = paragraphsAfter d (loose ++ toText d run) rest := by
  induction run generalizing loose with
  | nil => simp
  | cons i run ih =>
    obtain ⟨hi, hrun⟩ := List.forall_mem_cons.mp hrun
    rw [List.cons_append, paragraphsAfter_cons hi, ih hrun, toText_cons, String.append_assoc]

/-- There are no other paragraphs. -/
theorem Gathered.paragraphs_eq (h : Gathered d items texts) : items.paragraphs d = texts := by
  rw [paragraphs]
  induction h with
  | @run run hrun =>
    have hall : paragraphsAfter d "" (run ++ []) = paragraphsAfter d ("" ++ toText d run) [] :=
      paragraphsAfter_append hrun []
    rwa [List.append_nil, paragraphsAfter_nil, String.empty_append] at hall
  | @paragraph run rest texts text hrun _ ih =>
    rw [paragraphsAfter_append hrun, paragraphsAfter_paragraph, String.empty_append, ih]

/-- The items fall into some paragraphs. -/
theorem exists_gathered (d : Document) (items : Items) : ∃ texts, Gathered d items texts := by
  have hnone : ∀ i ∈ ([] : Items), i.isParagraph = false := nofun
  induction items with
  | nil => exact ⟨_, .run hnone⟩
  | cons i rest ih =>
    obtain ⟨texts, h⟩ := ih
    cases hi : i.isParagraph with
    | true =>
      cases i with
      | paragraph text => exact ⟨_, .paragraph text hnone h⟩
      | number | string | boolean | node | box => cases hi
    | false =>
      -- the item joins the run that the rest begins with
      cases h with
      | run hrun => exact ⟨_, .run (List.forall_mem_cons.mpr ⟨hi, hrun⟩)⟩
      | paragraph text hrun h => exact ⟨_, .paragraph text (List.forall_mem_cons.mpr ⟨hi, hrun⟩) h⟩

/-- **The paragraphs of a list of items** are those that it falls into. -/
theorem gathered_iff : Gathered d items texts ↔ items.paragraphs d = texts := by
  constructor
  · exact Gathered.paragraphs_eq
  · rintro rfl
    obtain ⟨texts, h⟩ := exists_gathered d items
    rwa [h.paragraphs_eq]

/-- No text is lost in gathering, and none is moved. -/
theorem Gathered.join_eq (h : Gathered d items texts) : String.join texts = toText d items := by
  induction h with
  | run => exact join_entry _
  | paragraph text _ _ ih => simp [ih, Item.toText]

end Items

/-! ### Lines -/

section Lines

variable {lines : List (List Char)} {glyph advance width : Float} {format : TextFormat}
  {paragraphs : List String} {box : ContentBox Float}

namespace Typeset

/-- A capacity of less than one character is what text cannot be set into. -/
theorem capacityCount_pos {room : Float} (h : ¬ room < 1) : 1 ≤ capacityCount room := by
  have hmax : 1 ≤ Nat.pow 2 64 - 1 := by decide
  rw [capacityCount]
  split
  · next hfinite =>
    have hfloor := mt (Decimal.lt_one_of_floorInt_nonpos hfinite) h
    exact Nat.le_min.mpr ⟨by omega, hmax⟩
  · exact hmax

/-- The characters of laid lines are those of the lines. -/
theorem flatMap_text_layLines (glyph : Float) (format : TextFormat) (i : Nat)
    (lines : List (List Char)) :
    (layLines glyph format i lines).flatMap (·.text.toList) = lines.flatten := by
  induction lines generalizing i with
  | nil => rfl
  | cons line lines ih =>
    rw [layLines, List.flatMap_cons, ih, String.toList_ofList, List.flatten_cons]

theorem length_layLines (glyph : Float) (format : TextFormat) (i : Nat) (lines : List (List Char)) :
    (layLines glyph format i lines).length = lines.length := by
  induction lines generalizing i with
  | nil => rfl
  | cons line lines ih => rw [layLines, List.length_cons, ih, List.length_cons]

/-- Lines are laid at equal distances. -/
theorem baseline_layLines {i k : Nat} {line : TextLine Float}
    (h : (layLines glyph format i lines)[k]? = some line) :
    line.baseline = Float.ofNat (i + k) * format.leading + format.fontSize := by
  induction lines generalizing i k with
  | nil => cases h
  | cons first lines ih =>
    rw [layLines] at h
    cases k with
    | zero =>
      cases h
      rfl
    | succ k =>
      rw [ih h]
      congr 3
      omega

end Typeset

/-- The box shows the text in lines: the characters of the lines are those of the text, but for blanks,
each line has its base line a leading below that of the line before, and the box is as high as the
lines together. -/
def ContentBox.Prints (box : ContentBox Float) (width : Float) (format : TextFormat)
    (text : String) : Prop :=
  ∃ lines : List (TextLine Float),
    box = .text ⟨width, Float.ofNat lines.length * format.leading⟩ lines format.fontSize
      format.leading ∧
    (lines.flatMap (·.text.toList)).filter (!isBlank ·) = text.toList.filter (!isBlank ·) ∧
    ∀ (i : Nat) (line : TextLine Float), lines[i]? = some line →
      line.baseline = Float.ofNat i * format.leading + format.fontSize

/-- Wrapping one paragraph after the other keeps all characters that are not blank. -/
theorem Typeset.filter_flatten_wraps {count : Nat} (hcount : 1 ≤ count)
    (paragraphs : List String) :
    (paragraphs.flatMap (wrap count ·.toList)).flatten.filter (!isBlank ·) =
      (String.join paragraphs).toList.filter (!isBlank ·) := by
  induction paragraphs with
  | nil => rfl
  | cons p paragraphs ih =>
    rw [List.flatMap_cons, List.flatten_append, List.filter_append, filter_flatten_wrap hcount, ih,
      String.join_cons, String.toList_append, List.filter_append]

/-- **What a box of paragraphs shows** is their text. -/
theorem prints_of_setText (h : setText advance paragraphs width format = .ok box) :
    box.Prints width format (String.join paragraphs) := by
  rw [setText] at h
  split at h
  · cases h
  · dsimp only at h
    split at h
    · cases h
    · next hroom =>
      cases h
      rw [Bool.or_eq_true, not_or, decide_eq_true_eq] at hroom
      refine ⟨_, by rw [Typeset.length_layLines], ?_, fun i line hline => ?_⟩
      · rw [Typeset.flatMap_text_layLines,
          Typeset.filter_flatten_wraps (Typeset.capacityCount_pos hroom.2)]
      · simpa using Typeset.baseline_layLines hline

end Lines

/-! ### The rule -/

namespace Command

variable {children : Children} {rule : Rule} {focus : Focus} {setting : Setting} {s t : Session}
  {out : Items}

/-- The last step of a block of text. -/
theorem setText_eq_ok {paragraphs : List String} {width : Float} {format : TextFormat}
    (h : (do
      let box ← Action.ofExcept .typeset (setText setting.advance paragraphs width format)
      return [Item.box box]).runWith setting s = (.ok out, t)) :
    ∃ box, setText setting.advance paragraphs width format = .ok box ∧ out = [.box box] := by
  obtain ⟨box, hbox, hout⟩ := Action.ofExcept_bind_eq_ok.mp h
  cases hout
  exact ⟨box, hbox, rfl⟩

/-- **The box of a block of text** has the paragraphs of the items that the rules below yield. -/
theorem textblock_eq_ok (h : (textblock children rule focus).runWith setting s = (.ok out, t)) :
    ∃ items s₁ s₂ width format box, (children rule focus).runWith setting s₁ = (.ok items, s₂) ∧
      setText setting.advance (items.paragraphs setting.data) width format = .ok box ∧
      out = [.box box] := by
  rw [textblock] at h
  obtain ⟨fontSize, _, -, h⟩ := Action.runWith_bind_eq_ok.mp h
  obtain ⟨leading, s₁, -, h⟩ := Action.runWith_bind_eq_ok.mp h
  obtain ⟨_, _, hread, h⟩ := Action.runWith_bind_eq_ok.mp h
  cases hread
  obtain ⟨items, s₂, hitems, h⟩ := Action.runWith_bind_eq_ok.mp h
  obtain ⟨-, _, -, h⟩ := Action.runWith_bind_eq_ok.mp h
  obtain ⟨widths, _, -, h⟩ := Action.runWith_bind_eq_ok.mp h
  suffices hset : ∃ width, ∃ box, setText setting.advance (items.paragraphs setting.data) width
      (textFormat setting.format fontSize leading) = .ok box ∧ out = [.box box] by
    obtain ⟨width, box, hbox, hout⟩ := hset
    exact ⟨items, s₁, s₂, width, _, box, hitems, hbox, hout⟩
  dsimp only at h
  split at h
  · next width _ => exact ⟨width, setText_eq_ok h⟩
  · obtain ⟨width, _, -, h⟩ := Action.runWith_bind_eq_ok.mp h
    exact ⟨width, setText_eq_ok h⟩

end Command

/-- **Blocks of text.** The paragraphs of a list of items are those that it falls into, and their texts
together are the text of the items. A box that these paragraphs can be set into shows this text, and the
box of a block of text is such a box for the items of the rules below it. -/
theorem textblock_prints :
    (∀ (d : Document) (items : Items),
      (∀ texts, Items.Gathered d items texts ↔ items.paragraphs d = texts) ∧
      String.join (items.paragraphs d) = items.toText d ∧
      ∀ (advance width : Float) (format : TextFormat) (box : ContentBox Float),
        setText advance (items.paragraphs d) width format = .ok box →
          box.Prints width format (items.toText d)) ∧
    ∀ (children : Command.Children) (rule : Rule) (focus : Focus) (setting : Setting)
      (s t : Session) (out : Items),
      (Command.textblock children rule focus).runWith setting s = (.ok out, t) →
        ∃ items s₁ s₂ width format box,
          (children rule focus).runWith setting s₁ = (.ok items, s₂) ∧
          setText setting.advance (items.paragraphs setting.data) width format = .ok box ∧
          out = [.box box] := by
  refine ⟨fun d items => ?_, fun _ _ _ _ _ _ _ => Command.textblock_eq_ok⟩
  have hjoin := (Items.gathered_iff.mpr (rfl : items.paragraphs d = _)).join_eq
  exact ⟨fun texts => Items.gathered_iff, hjoin, fun _ _ _ _ hbox => hjoin ▸ prints_of_setText hbox⟩

/-- Loose text and paragraphs, of which one is empty. -/
def Items.mixed : Items :=
  [.string "one two", .box (.filled ⟨1, 1⟩ none), .boolean true, .paragraph "three four", .paragraph "",
    .string "five"]

example : Items.mixed.paragraphs Setting.bare.data = ["one twotrue", "three four", "", "five"] := by
  decide +kernel

/-- A block of text from these items. -/
theorem textblock_prints_mixed :
    ∃ box t,
      (Command.textblock (fun _ _ => pure .mixed) (.bare "Textblock" [("width", "40pt")] [])
        .root).runWith .bare (.start .tenByTen) = (.ok [.box box], t) ∧
      ∃ width format, box.Prints width format "one twotruethree fourfive" := by
  let x := Command.textblock (fun _ _ => pure .mixed) (.bare "Textblock" [("width", "40pt")] []) .root
  have hok : (x.runWith .bare (.start .tenByTen)).1.toOption.isSome = true := by decide +kernel
  obtain ⟨out, hout⟩ := Option.isSome_iff_exists.mp hok
  have hrun := Action.runWith_of_toOption hout
  obtain ⟨items, s₁, s₂, width, format, box, hitems, hbox, rfl⟩ := textblock_prints.2 _ _ _ _ _ _ _ hrun
  cases hitems
  exact ⟨box, _, hrun, width, format, (textblock_prints.1 _ _).2.2 _ _ _ _ hbox⟩

end PageGrid
