import PageGrid.Text.Digit
import PageGrid.Xml.Codec

/-!
# What a codec for flat documents is relied on for

A codec is relied on for what its parts are documented to do, one by one. An escaped value has no
character that would end it, and resolving its references undoes the escaping. The writer makes markup
of the document with its values escaped; how it sets the elements apart is its own affair. The reader
takes any markup of a document for that document, with the values left as they are written.

That a value comes back as it was given is in none of these: it takes all of them, and that what the
writer makes of an escaped value is something that the reader takes.

## Main definitions

* `IsWord`, `IsText`, `IsQuotable` — names, values, and values as they are written;
* `Markup` — the texts that stand for a document;
* `Codec.Lawful` — what a codec is relied on for.
-/

namespace PageGrid.Xml

/-! ### Names and values -/

/-- A name made of letters. -/
def IsWord (name : List Char) : Prop := name ≠ [] ∧ ∀ c ∈ name, c.isAlpha = true

instance (name : List Char) : Decidable (IsWord name) :=
  decidable_of_iff (name ≠ [] ∧ name.all Char.isAlpha = true) (by simp [IsWord])

/-- A text made of the characters that documents may contain. -/
def IsText (value : List Char) : Prop := ∀ c ∈ value, isChar c = true

instance (value : List Char) : Decidable (IsText value) :=
  decidable_of_iff (value.all isChar = true) (by simp [IsText])

/-- A text that may stand between double quotes. -/
def IsQuotable (value : List Char) : Prop := ∀ c ∈ value, c ≠ '"' ∧ c ≠ '<'

variable {P Q : List Char → Prop} {f : List Char → List Char}

/-- The names are words, none of them is that of two attributes, and the values have a property. -/
structure FlatTag.Proper (P : List Char → Prop) (t : FlatTag) : Prop where
  name : IsWord t.name.toList
  names : ∀ a ∈ t.attributes, IsWord a.1.toList
  values : ∀ a ∈ t.attributes, P a.2
  nodup : (t.attributes.map (·.1)).Nodup

theorem FlatTag.Proper.mapValues {t : FlatTag} (h : t.Proper P) (hf : ∀ v, P v → Q (f v)) :
    (t.mapValues f).Proper Q where
  name := h.name
  names := by
    simp only [FlatTag.mapValues, List.forall_mem_map]
    exact h.names
  values := by
    simp only [FlatTag.mapValues, List.forall_mem_map]
    exact fun a ha => hf a.2 (h.values a ha)
  nodup := by
    have hnames : (t.mapValues f).attributes.map (·.1) = t.attributes.map (·.1) := by
      simp [FlatTag.mapValues]
    rw [hnames]
    exact h.nodup

/-- All tags of the document are proper. -/
structure FlatDocument.Proper (P : List Char → Prop) (d : FlatDocument) : Prop where
  root : d.root.Proper P
  leaves : ∀ t ∈ d.leaves, t.Proper P

theorem FlatDocument.Proper.mapValues {d : FlatDocument} (h : d.Proper P)
    (hf : ∀ v, P v → Q (f v)) : (d.mapValues f).Proper Q where
  root := h.root.mapValues hf
  leaves := by
    simp only [FlatDocument.mapValues, List.forall_mem_map]
    exact fun t ht => (h.leaves t ht).mapValues hf

/-! ### Markup -/

/-- Elements without content, with blanks in front of each and behind the last one. -/
inductive Leaves : List FlatTag → List Char → Prop where
  | nil {blanks : List Char} (hblanks : ∀ c ∈ blanks, Text.isAsciiBlank c = true) : Leaves [] blanks
  | cons {blanks text : List Char} {t : FlatTag} {ts : List FlatTag}
      (hblanks : ∀ c ∈ blanks, Text.isAsciiBlank c = true) (hrest : Leaves ts text) :
      Leaves (t :: ts) (blanks ++ '<' :: (t.text ++ '/' :: '>' :: text))

/-- The texts that stand for a document, given its values as they are written. -/
inductive Markup : FlatDocument → List Char → Prop where
  | empty {root : FlatTag} : Markup ⟨root, []⟩ ('<' :: (root.text ++ ['/', '>']))
  | content {root : FlatTag} {leaves : List FlatTag} {text : List Char} (hleaves : Leaves leaves text) :
      Markup ⟨root, leaves⟩
        ('<' :: (root.text ++ '>' :: (text ++ '<' :: '/' :: (root.name.toList ++ ['>']))))

/-- The element of a tag. -/
def FlatTag.node (t : FlatTag) (children : List LooseNode) : LooseNode :=
  .element t.name t.attributes.text children

/-- The root element of a document. -/
def FlatDocument.node (d : FlatDocument) : LooseNode := d.root.node (d.leaves.map (·.node []))

/-! ### Laws -/

/-- What a codec is relied on for. -/
structure Codec.Lawful (codec : Codec) : Prop where
  /-- An escaped value may stand between double quotes. -/
  isQuotable_escape {value : List Char} : IsText value → IsQuotable (codec.escape value)
  /-- Resolving references undoes escaping. -/
  unescape_escape {value : List Char} :
    IsText value → codec.unescape (codec.escape value) = some value
  /-- A document is written as markup, with its values escaped. -/
  write_markup {d : FlatDocument} :
    d.Proper IsText → ∃ text, codec.write d = some text ∧ Markup (d.mapValues codec.escape) text
  /-- Markup is read as the elements that it shows, also with a line break behind it. -/
  read_markup {d : FlatDocument} {text : List Char} :
    d.Proper IsQuotable → Markup d text → codec.read (text ++ ['\n']) = some d.node
  /-- Attributes are read in the order of the text. -/
  attributes_text {t : FlatTag} :
    t.Proper IsQuotable → codec.attributes t.attributes.text = some t.attributes

end PageGrid.Xml
