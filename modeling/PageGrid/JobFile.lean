import PageGrid.Decimal.Notation
import PageGrid.Decimal.Reader
import PageGrid.Marker
import PageGrid.Xml.Loose

/-!
# The side file of a job

What a run leaves for the next one is kept in a small file of markup: one element with the number of
pages, and one element in it per marker.

```
<auxiliary lastpage="3">
  <mark name="fig1" page="3" id="7" pdftarget="true"/>
</auxiliary>
```

The writer has one form for every record; the reader takes more than that form: attributes and elements
it does not know, any name of the root, missing optional attributes. The marks must follow each other
without anything else between them. How a document becomes a text is left to a codec for flat documents.

## Main definitions

* `JobRecord.write`, `JobRecord.read` — the file of a record and the record of a file, with any codec;
* `JobRecord.render`, `JobRecord.parse` — the same with the codec for loose markup.
-/

namespace PageGrid

open Xml (Codec FlatDocument FlatTag LooseAttributes LooseNode)

namespace JobFile

/-! ### Writing -/

/-- A truth value as text. -/
def flag (b : Bool) : List Char := (if b then "true" else "false").toList

/-- The element of a marker. -/
def markTag (m : Marker) : FlatTag where
  name := "mark"
  attributes :=
    [("name", m.name.toList), ("page", Decimal.digits m.page), ("id", Decimal.digits m.id),
      ("pdftarget", flag m.isTarget)] ++
    (m.shift.map fun x => ("shift", (Decimal.plain x).toList)).toList

/-- The root element, which has the number of pages. -/
def rootTag (r : JobRecord) : FlatTag := ⟨"auxiliary", [("lastpage", Decimal.digits r.lastPage)]⟩

/-- The document of a record. -/
def document (r : JobRecord) : FlatDocument := ⟨rootTag r, r.markers.map markTag⟩

/-! ### Reading -/

section Reading

variable (codec : Codec)

/-- The value of an attribute, read by `read`; `none` if it cannot be read. Without the attribute it is
`absent`. -/
def field {α : Type} (attributes : LooseAttributes) (name : String) (absent : Option α)
    (read : List Char → Option α) : Option α :=
  match attributes.find? fun (n, _) => n = name with
  | some (_, raw) => (codec.unescape raw).bind read
  | none => absent

/-- The truth value that a text stands for. -/
def readFlag (cs : List Char) : Option Bool :=
  if cs = "true".toList ∨ cs = ['1'] then some true
  else if cs = "false".toList ∨ cs = ['0'] then some false
  else none

/-- The number that a text stands for, if there is a text. -/
def readShift (cs : List Char) : Option (Option Float) :=
  if cs.isEmpty then some none else (Decimal.readFloat cs).map some

/-- The marker of an element. -/
def readMark (attributes : List Char) : Option Marker := do
  let fields ← codec.attributes attributes
  let name ← field codec fields "name" none some
  let page ← field codec fields "page" none (Decimal.readNat pageLimit)
  let id ← field codec fields "id" none (Decimal.readNat idLimit)
  let isTarget ← field codec fields "pdftarget" (some false) readFlag
  let shift ← field codec fields "shift" (some none) readShift
  return { name := String.ofList name, page, id, isTarget, shift }

/-- Whether a node is the element of a marker. -/
def isMark : LooseNode → Bool
  | .element name .. => name == "mark"
  | .text => false

/-- The markers of nodes that are all elements of markers. -/
def readMarks : List LooseNode → Option (List Marker)
  | [] => some []
  | .element _ attributes _ :: rest => do
    let m ← readMark codec attributes
    let ms ← readMarks rest
    return m :: ms
  | .text :: _ => none

/-- The record of a root element. -/
def readRoot : LooseNode → Option JobRecord
  | .text => none
  | .element _ attributes children => do
    let fields ← codec.attributes attributes
    let lastPage ← field codec fields "lastpage" (some 0) (Decimal.readNat pageLimit)
    let fromFirst := children.dropWhile (!isMark ·)
    if (fromFirst.dropWhile isMark).any isMark then none
    else
      let markers ← readMarks codec (fromFirst.takeWhile isMark)
      return { lastPage, markers }

end Reading

end JobFile

namespace JobRecord

/-- The file of a record, `none` if it cannot be written. -/
def write (codec : Codec) (r : JobRecord) : Option String :=
  (codec.write (JobFile.document r)).map fun text => String.ofList (text ++ ['\n'])

/-- The record of a file, `none` if the file is malformed. -/
def read (codec : Codec) (text : String) : Option JobRecord :=
  (codec.read text.toList).bind (JobFile.readRoot codec)

/-- The file of a record in loose markup. -/
def render (r : JobRecord) : String :=
  String.ofList (Xml.Loose.print (JobFile.document r) ++ ['\n'])

/-- The record of a file in loose markup, `none` if the file is malformed. -/
def parse (text : String) : Option JobRecord := read Xml.Loose.codec text

end JobRecord

end PageGrid
