import PageGrid.Text.Digit
import PageGrid.Text.Scan
import PageGrid.Xml.Codec

/-!
# Loose markup

A codec for markup that a program has written for itself. The reader checks that tags are nested and
that the references in texts can be resolved. Names are compared without prefix, values are not
normalized, and what follows the root element is not looked at. The writer puts every element of a
document on a line of its own.

## Main definitions

* `Loose.parse` — the root element of a text;
* `Loose.attributes` — the attributes of an element;
* `Loose.layout` — the text of a document;
* `Loose.codec` — the reader and the writer.
-/

namespace PageGrid.Xml

open Text (Scan)

namespace Loose

/-- A name without its prefix. -/
def localName (name : List Char) : String :=
  match name.dropWhile (· != ':') with
  | [] => String.ofList name
  | _ :: rest => String.ofList rest

/-! ### References -/

/-- The character that the text between an ampersand and a semicolon stands for. -/
def entity? : List Char → Option Char
  | '#' :: 'x' :: digits => code? 16 digits
  | '#' :: digits => code? 10 digits
  | name =>
    ([("lt", '<'), ("gt", '>'), ("amp", '&'), ("apos", '\''), ("quot", '"')].find?
      fun (n, _) => n.toList = name).map (·.2)
where
  /-- The character with a code, other than zero. -/
  code? (base : Nat) (digits : List Char) : Option Char :=
    (Text.readCode base digits).bind fun n =>
      if h : n.isValidChar ∧ n ≠ 0 then some (Char.ofNatAux n h.1) else none

/-- One character of a text, which may be written as a reference. -/
def textChar : Scan Char :=
  (do
    let _ ← Scan.char '&'
    let name ← Scan.takeWhile (· != ';')
    let _ ← Scan.char ';'
    match entity? name with
    | some c => return c
    | none => failure) <|>
  Scan.satisfy (· != '&')

/-- A text with its references resolved. -/
def unescape (cs : List Char) : Option (List Char) :=
  match (Scan.many textChar).all cs with
  | .done text => some text
  | _ => none

/-! ### Tags -/

/-- What is before the first closing bracket outside quotes, and what is after it. -/
def tagText (quote : Option Char) : List Char → Option (List Char × List Char)
  | [] => none
  | c :: rest =>
    match quote with
    | none =>
      if c = '>' then some ([], rest)
      else (tagText (if c = '"' ∨ c = '\'' then some c else none) rest).map fun (t, r) => (c :: t, r)
    | some q => (tagText (if c = q then none else some q) rest).map fun (t, r) => (c :: t, r)

/-- The text up to a word, which is read too. -/
def skipTo (word : List Char) : List Char → Option (List Char)
  | [] => none
  | c :: rest =>
    if word.isPrefixOf (c :: rest) then some ((c :: rest).drop word.length) else skipTo word rest

/-- Markup without content: comments, instructions and document types. -/
def passive : Scan Unit := fun s =>
  match s with
  | '<' :: '!' :: '-' :: '-' :: rest => (skipTo "-->".toList rest).map ((), ·)
  | '<' :: '?' :: rest => (skipTo "?>".toList rest).map ((), ·)
  | '<' :: '!' :: 'D' :: rest => (tagText none rest).map fun (_, rest) => ((), rest)
  | _ => none

/-- A run of text between tags, `none` if it is blank. -/
def characters : Scan (Option LooseNode) := do
  let raw ← Scan.takeWhile1 (· != '<')
  match unescape raw with
  | some _ => return if raw.all Text.isAsciiBlank then none else some .text
  | none => failure

/-- A section in which markup has no meaning. -/
def verbatim : Scan (Option LooseNode) := fun s =>
  if "<![CDATA[".toList.isPrefixOf s then (skipTo "]]>".toList (s.drop 9)).map (some .text, ·) else none

/-- The end tag of an element. -/
def endTag (name : List Char) : Scan Unit := fun s =>
  match s with
  | '<' :: '/' :: rest =>
    let inside := rest.takeWhile (· != '>')
    if (inside.reverse.dropWhile Text.isAsciiBlank).reverse = name then
      (rest.dropWhile (· != '>')).tail?.map ((), ·)
    else none
  | _ => none

/-- An element, given the scanner of its content. -/
def element (content : Scan (List LooseNode)) : Scan LooseNode := do
  let _ ← Scan.char '<'
  Scan.notNext fun c => c == '/' || c == '!' || c == '?'
  let inside ← (tagText none : Scan (List Char))
  let closed := inside.getLast? == some '/'
  let inside := if closed then inside.dropLast else inside
  let name := inside.takeWhile (!Text.isAsciiBlank ·)
  let children ← if closed then pure [] else content <* endTag name
  return .element (localName name) (inside.drop name.length) children

/-- The content of an element with fewer than `fuel` levels of elements. -/
def content : Nat → Scan (List LooseNode)
  | 0 => failure
  | fuel + 1 => do
    let nodes ← Scan.many ((passive *> pure none) <|> characters <|> verbatim <|>
      (some <$> element (content fuel)))
    return nodes.reduceOption

/-- The root element of a text. -/
def root (fuel : Nat) : Scan LooseNode := do
  let _ ← Scan.many (Scan.blanks *> passive)
  Scan.blanks
  element (content fuel)

/-- The root element of a text, `none` if the text does not begin with one. -/
def parse (text : List Char) : Option LooseNode :=
  let cs := match text with
    | '\uFEFF' :: rest => rest
    | cs => cs
  (root (cs.length + 1) cs).map (·.1)

/-! ### Attributes -/

/-- An attribute: its name without prefix and its value. -/
def attribute? : Scan (List Char × List Char) := do
  Scan.blanks
  let name ← Scan.takeWhile1 fun c => c != '=' && !Text.isAsciiBlank c
  let _ ← Scan.padded (Scan.char '=')
  let quote ← Scan.char '"' <|> Scan.char '\''
  let value ← Scan.takeWhile (· != quote)
  let _ ← Scan.char quote
  return (name, value)

/-- The attributes of an element, as they are written; a name occurs once. -/
def attributes (text : List Char) : Option LooseAttributes :=
  match (Scan.many attribute? <* Scan.blanks).all text with
  | .done as =>
    let names := as.map (·.1)
    if names.eraseDups.length = names.length then
      some (as.map fun (name, value) => (localName name, value))
    else none
  | _ => none

/-! ### Writing -/

/-- A character between double quotes. -/
def escapeChar (c : Char) : List Char :=
  if c = '<' then "&lt;".toList
  else if c = '>' then "&gt;".toList
  else if c = '&' then "&amp;".toList
  else if c = '"' then "&quot;".toList
  else [c]

/-- A value between double quotes. -/
def escape (value : List Char) : List Char := value.flatMap escapeChar

/-- A document whose values are written as they are. -/
def layout (d : FlatDocument) : List Char :=
  if d.leaves.isEmpty then '<' :: (d.root.text ++ "/>".toList)
  else
    '<' :: (d.root.text ++ '>' :: (d.leaves.flatMap (fun t => "\n  <".toList ++ t.text ++ "/>".toList) ++
      "\n</".toList ++ d.root.name.toList ++ ">".toList))

/-- The text of a document. -/
def print (d : FlatDocument) : List Char := layout (d.mapValues escape)

/-- The writer, which writes any document, and the reader. -/
def codec : Codec where
  escape
  unescape
  write d := some (print d)
  read := parse
  attributes

end Loose

end PageGrid.Xml
