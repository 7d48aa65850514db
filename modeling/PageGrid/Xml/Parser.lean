import PageGrid.Text.Digit
import PageGrid.Xml.Basic
import PageGrid.Xml.Names

/-!
# Reading documents

Documents are XML 1.0 with namespaces and without document type: the five predefined entities and
character references are the only references. Texts and values are normalized as they are read, in
`Piece.lineEnds` and `Piece.spaces`.

## Recursion

The content of an element contains elements. The scanners below take the scanner of nested content as
a parameter, and `content` ties the knot once for every level of nesting, of which there are fewer
than characters.

## Main definitions

* `Piece` — a character of a text as it is written, literally or as a reference;
* `Scope` — the namespaces that are declared at a place;
* `Document.parse` — the document of a whole text, `none` if the text is not well-formed.
-/

namespace PageGrid.Xml

open Text (Scan)

/-! ### Characters and references -/

/-- A character as written in a text or a value. -/
inductive Piece where
  | literal (c : Char)
  | reference (c : Char)
  deriving DecidableEq, Repr

namespace Piece

/-- The character with a code. A code without character stands for the replacement character. -/
def ofCode? (code : Nat) : Option Char :=
  let c := if code < 0xD800 ∨ (0xDFFF < code ∧ code ≤ 0x10FFFF) then Char.ofNat code else '\uFFFD'
  if code < Nat.pow 2 32 ∧ isChar c then some c else none

/-- A character reference after its number sign. -/
def numericReference : Scan Char := do
  let hexadecimal ← Scan.maybe (Scan.char 'x')
  let code ←
    if hexadecimal.isSome then
      Text.readCode 16 <$> Scan.takeWhile1 fun c => (Text.hexValue c).isSome
    else Text.readCode 10 <$> Scan.takeWhile1 Char.isDigit
  match code.bind ofCode? with
  | some c => return c
  | none => failure

/-- The predefined entities. -/
def entities : List (String × Char) :=
  [("quot", '"'), ("amp", '&'), ("apos", '\''), ("lt", '<'), ("gt", '>')]

/-- A reference to a predefined entity. -/
def entityReference : Scan Char := do
  let name ← plainName
  match entities.find? fun (n, _) => n.toList = name with
  | some (_, c) => return c
  | none => failure

/-- A reference. -/
def referenceTo : Scan Char := do
  let _ ← Scan.char '&'
  let c ← (Scan.char '#' *> numericReference) <|> entityReference
  let _ ← Scan.char ';'
  return c

/-- One character as written. -/
def scan : Scan Piece :=
  (.reference <$> referenceTo) <|> (.literal <$> Scan.satisfy fun c => c != '&' && isChar c)

/-- A text as a list of its characters as written. -/
def ofChars? (cs : List Char) : Option (List Piece) :=
  match (Scan.many scan).all cs with
  | .done pieces => some pieces
  | _ => none

/-- The characters of a text. A carriage return becomes a line feed and takes the line feed after it
along. It stays as it is before a reference, and at the end of the text after one. -/
def lineEnds (afterReference : Bool) : List Piece → List Char
  | [] => []
  | .reference c :: rest => c :: lineEnds true rest
  | .literal '\r' :: .literal '\n' :: rest => '\n' :: lineEnds false rest
  | .literal '\r' :: .reference c :: rest => '\r' :: lineEnds false (.reference c :: rest)
  | [.literal '\r'] => if afterReference then ['\r'] else ['\n']
  | .literal '\r' :: rest => '\n' :: lineEnds false rest
  | .literal c :: rest => c :: lineEnds false rest

/-- The characters of an attribute value. A blank character becomes a space, a carriage return with
the line feed after it becomes one space; references keep what they stand for. -/
def spaces : List Piece → List Char
  | [] => []
  | .reference c :: rest => c :: spaces rest
  | .literal '\r' :: .literal '\n' :: rest => ' ' :: spaces rest
  | .literal c :: rest => (if Text.isAsciiBlank c then ' ' else c) :: spaces rest

end Piece

/-! ### Namespaces -/

/-- The declared namespaces with their prefixes, the innermost first; the empty prefix stands for the
names without prefix. -/
abbrev Scope := List (String × String)

/-- The namespace of the prefix `xml`, which needs no declaration. -/
def xmlSpace : String := "http://www.w3.org/XML/1998/namespace"

/-- The namespace of the prefix `xmlns`, which must not be declared. -/
def xmlnsSpace : String := "http://www.w3.org/2000/xmlns/"

namespace Scope

/-- The namespace of a prefix: `none` if the prefix is not declared, unless it is empty, in which case
the name has no namespace. -/
def resolve? (scope : Scope) (space : String) : Option (Option String) :=
  if space = "xml" then some (some xmlSpace)
  else
    match scope.find? fun (p, _) => p = space with
    | some (_, uri) => some (some uri)
    | none => if space.isEmpty then some none else none

end Scope

/-- An attribute as written: its name and its normalized value. -/
structure RawAttribute where
  name : QName
  value : String
  deriving Repr

namespace RawAttribute

/-- The declared prefix, if the attribute is a namespace declaration; empty for the default. -/
def declares? (a : RawAttribute) : Option String :=
  if a.name.space = "xmlns" then some a.name.name
  else if a.name.name = "xmlns" then some ""
  else none

/-- Whether a declaration leaves the two reserved namespaces alone. -/
def isAllowed (declared uri : String) : Bool :=
  uri != xmlnsSpace && (declared == "xml") == (uri == xmlSpace)

/-- The declarations of an element, in the order of the text; `none` if one is not allowed or declares
a prefix again. -/
def declarations? (attributes : List RawAttribute) : Option Scope :=
  let declared : Scope := attributes.filterMap fun a => a.declares?.map (·, a.value)
  let named := (declared.map (·.1)).filter fun p => p != "" && p != "xml"
  if declared.all (fun (p, uri) => isAllowed p uri) && named.eraseDups.length == named.length then
    some (declared.filter fun (p, _) => p ≠ "xml")
  else none

/-- The attributes of an element; `none` if a prefix is not declared or a name occurs twice. -/
def resolve? (scope : Scope) : List RawAttribute → Option (List Attribute)
  | [] => some []
  | a :: as =>
    match resolve? scope as with
    | none => none
    | some rest =>
      if a.declares?.isSome then some rest
      else
        let uri? := if a.name.space.isEmpty then some none else scope.resolve? a.name.space
        match uri? with
        | none => none
        | some uri =>
          if rest.any fun b => b.name = a.name.name ∧ b.uri = uri then none
          else some (⟨a.name.name, uri, a.value⟩ :: rest)

end RawAttribute

/-! ### The grammar -/

namespace Grammar

/-- At least one blank. -/
def gap : Scan (List Char) := Scan.takeWhile1 Text.isAsciiBlank

/-- The characters up to the first place where the given text begins, and that text. -/
def upTo (word : List Char) : Scan (List Char) := fun s =>
  let rec go (read : List Char) : List Char → Option (List Char × List Char)
    | [] => none
    | c :: rest =>
      if word.isPrefixOf (c :: rest) then some (read.reverse, (c :: rest).drop word.length)
      else if isChar c then go (c :: read) rest
      else none
  go [] s

/-- A comment. -/
def comment : Scan Unit := do
  Scan.word "<!--"
  let text ← upTo "-->".toList
  if Text.contains text "--".toList || text.getLast? == some '-' then failure

/-- A processing instruction, which must not look like a declaration. -/
def instruction : Scan Unit := do
  Scan.word "<?"
  let target ← plainName
  Scan.notNext fun c => target == "xml".toList && c == ' '
  let _ ← upTo "?>".toList

/-- The text of a section in which markup has no meaning. -/
def verbatim : Scan (List Char) := do
  Scan.word "<![CDATA["
  let text ← upTo "]]>".toList
  return Piece.lineEnds false (text.map .literal)

/-- A run of text between markup. -/
def characters : Scan (List Char) := do
  let raw ← Scan.takeWhile1 (· != '<')
  if Text.contains raw "]]>".toList then failure
  match Piece.ofChars? raw with
  | some pieces => return Piece.lineEnds false pieces
  | none => failure

/-- A value in quotes, as written. -/
def rawValue : Scan (List Char) := do
  let quote ← Scan.char '"' <|> Scan.char '\''
  let raw ← Scan.takeWhile fun c => c != quote && c != '<' && isChar c
  let _ ← Scan.char quote
  return raw

/-- A name, an equals sign and a value. -/
def rawAttribute : Scan (QName × List Char) := do
  let name ← qname
  let _ ← Scan.padded (Scan.char '=')
  let value ← rawValue
  return (name, value)

/-- An attribute with its normalized value. -/
def normalAttribute : Scan RawAttribute := do
  let (name, raw) ← rawAttribute
  match Piece.ofChars? raw with
  | some pieces => return ⟨name, String.ofList (Piece.spaces pieces)⟩
  | none => failure

/-- An attribute of the declaration, whose name begins with the given word. -/
def pseudoAttribute (word : String) : Scan Unit := fun s =>
  if word.toList.isPrefixOf s then (rawAttribute *> pure ()) s else none

/-- The blanks after an attribute of the declaration, which may be missing before its end. -/
def declarationGap : Scan Unit := fun s =>
  if s.isEmpty || "?>".toList.isPrefixOf s then some ((), s) else (gap *> pure ()) s

/-- The declaration at the beginning of a document, if there is one. -/
def declaration : Scan Unit := fun s =>
  if "<?xml ".toList.isPrefixOf s then
    (do
      Scan.word "<?xml"
      declarationGap
      pseudoAttribute "version"
      declarationGap
      let _ ← Scan.maybe (pseudoAttribute "encoding" *> declarationGap)
      let _ ← Scan.maybe (pseudoAttribute "standalone")
      Scan.blanks
      Scan.word "?>" : Scan Unit) s
  else some ((), s)

/-- Comments, instructions and blanks around the root element. -/
def miscellany : Scan Unit := do
  let _ ← Scan.many (Scan.blanks *> (comment <|> instruction))
  Scan.blanks

/-- What the content of an element is made of. -/
inductive Part where
  | node (n : Node)
  | text (cs : List Char)
  /-- A comment or an instruction, which keeps the texts around it apart. -/
  | gap

/-- Joins neighbouring texts. -/
def Part.join : List Part → List Node
  | [] => []
  | .node n :: rest => n :: join rest
  | .gap :: rest => join rest
  | .text cs :: .text ds :: rest => join (.text (cs ++ ds) :: rest)
  | .text cs :: rest => .text (String.ofList cs) :: join rest
termination_by parts => parts.length

/-- The number of line feeds of a text. -/
def lineFeeds (s : List Char) : Nat := s.countP (· == '\n')

/-- The line on which the rest of a document begins, if the whole document has `total` line feeds. -/
def lineHere (total : Nat) : Scan Nat := fun s => some (total + 1 - lineFeeds s, s)

variable (total : Nat) (content : Scope → Scan (List Node))

/-- The end tag of an element, which repeats its name. -/
def endTag (name : QName) : Scan Unit := do
  Scan.word "</"
  let closing ← qname
  Scan.blanks
  let _ ← Scan.char '>'
  if closing ≠ name then failure

/-- An element. -/
def element (scope : Scope) : Scan Element := do
  let line ← lineHere total
  let _ ← Scan.char '<'
  let name ← qname
  let attributes ← Scan.many (gap *> normalAttribute)
  Scan.blanks
  if name.space = "xmlns" then failure
  match RawAttribute.declarations? attributes with
  | none => failure
  | some declared =>
    let inner := declared ++ scope
    match RawAttribute.resolve? inner attributes, inner.resolve? name.space with
    | some resolved, some uri =>
      let children ← (Scan.word "/>" *> pure []) <|>
        (do
          let _ ← Scan.char '>'
          let nodes ← content inner
          endTag name
          return nodes)
      return ⟨⟨name.name, uri, resolved, line⟩, children⟩
    | _, _ => failure

/-- A part of the content of an element. -/
def part (scope : Scope) : Scan Part :=
  (.text <$> characters) <|> (comment *> pure .gap) <|> (instruction *> pure .gap) <|>
    (.text <$> verbatim) <|> ((.node ∘ Element.toNode) <$> element total content scope)

end Grammar

/-- The nodes below an element, with fewer than `fuel` levels of elements. -/
def Grammar.content (total : Nat) : Nat → Scope → Scan (List Node)
  | 0, _ => failure
  | fuel + 1, scope => Part.join <$> Scan.many (part total (content total fuel) scope)

/-- A whole document. -/
def Grammar.document (total fuel : Nat) : Scan Document := do
  declaration
  miscellany
  let root ← element total (content total fuel) []
  miscellany
  return ⟨root⟩

/-- The document that a text stands for, `none` if it is not well-formed. A byte order mark at the
beginning is ignored. -/
def Document.parse (text : String) : Option Document :=
  let cs := match text.toList with
    | '\uFEFF' :: rest => rest
    | cs => cs
  match (Grammar.document (Grammar.lineFeeds cs) (cs.length + 1)).all cs with
  | .done d => some d
  | _ => none

end PageGrid.Xml
