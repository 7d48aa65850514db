import PageGrid.Xml.Names

/-!
# Flat documents and their codecs

A program that keeps a few records in markup of its own needs little of it: a root element with
attributes, and in it elements that have attributes and no content. How such a document is written and
what a text is read as is up to a codec. The reader takes more than the writer makes; it leaves the
attributes of an element unread until they are asked for, so that those of an element nobody knows may
be anything.

## Main definitions

* `FlatTag`, `FlatDocument` — what is written;
* `LooseNode` — what is read;
* `Codec` — a writer and a reader.
-/

namespace PageGrid.Xml

/-- Attributes by name in the order of the text. -/
abbrev LooseAttributes := List (String × List Char)

/-- Attributes as text, given their values as they stand between the quotes. -/
def LooseAttributes.text (attributes : LooseAttributes) : List Char :=
  attributes.flatMap fun (name, value) => ' ' :: name.toList ++ '=' :: '"' :: value ++ ['"']

/-- The name of an element and its attributes. -/
structure FlatTag where
  name : String
  attributes : LooseAttributes

namespace FlatTag

/-- The tag with other values. -/
def mapValues (f : List Char → List Char) (t : FlatTag) : FlatTag :=
  { t with attributes := t.attributes.map fun (name, value) => (name, f value) }

/-- What is written behind the opening bracket. -/
def text (t : FlatTag) : List Char := t.name.toList ++ t.attributes.text

end FlatTag

/-- A root element with elements without content in it. -/
structure FlatDocument where
  root : FlatTag
  leaves : List FlatTag

/-- The document with other values. -/
def FlatDocument.mapValues (f : List Char → List Char) (d : FlatDocument) : FlatDocument :=
  ⟨d.root.mapValues f, d.leaves.map (FlatTag.mapValues f)⟩

/-- A node: an element, whose attributes are not read yet, or some text. -/
inductive LooseNode where
  | element (name : String) (attributes : List Char) (children : List LooseNode)
  | text

/-- A writer and a reader of markup. -/
structure Codec where
  /-- A value as it is written between double quotes. -/
  escape : List Char → List Char
  /-- A value that is written in some way, `none` if it has a reference to nothing. -/
  unescape : List Char → Option (List Char)
  /-- The text of a document, `none` if it cannot be written. -/
  write : FlatDocument → Option (List Char)
  /-- The root element of a text, `none` if the text is malformed. -/
  read : List Char → Option LooseNode
  /-- The attributes of an element with their values as they are written, `none` if they are
  malformed. -/
  attributes : List Char → Option LooseAttributes

end PageGrid.Xml
