import PageGrid.Text.Scan

/-!
# Names in markup

Which characters documents may contain, and which of them names are made of. A qualified name is a
name with at most one colon; what is before the colon is its prefix.

## Main definitions

* `isChar`, `isNameStart`, `isNameChar` — the character classes of XML 1.0;
* `QName`, `qname` — qualified names.
-/

namespace PageGrid.Xml

open Text (Scan)

/-- The characters that documents may contain. -/
def isChar (c : Char) : Bool :=
  c == '\t' || c == '\n' || c == '\r' || (0x20 ≤ c.toNat && c.toNat != 0xFFFE && c.toNat != 0xFFFF)

/-- The code points outside ASCII with which names can begin. -/
def nameStartRanges : List (Nat × Nat) :=
  [(0xC0, 0xD6), (0xD8, 0xF6), (0xF8, 0x2FF), (0x370, 0x37D), (0x37F, 0x1FFF), (0x200C, 0x200D),
   (0x2070, 0x218F), (0x2C00, 0x2FEF), (0x3001, 0xD7FF), (0xF900, 0xFDCF), (0xFDF0, 0xFFFD),
   (0x10000, 0xEFFFF)]

/-- The characters with which names can begin. -/
def isNameStart (c : Char) : Bool :=
  c.isAlpha || c == ':' || c == '_' ||
    nameStartRanges.any fun (low, high) => low ≤ c.toNat && c.toNat ≤ high

/-- The characters with which names can go on. -/
def isNameChar (c : Char) : Bool :=
  isNameStart c || c.isDigit || c == '-' || c == '.' || c.toNat == 0xB7 ||
    (0x300 ≤ c.toNat && c.toNat ≤ 0x36F) || (0x203F ≤ c.toNat && c.toNat ≤ 0x2040)

/-- A name, in which colons have no meaning. -/
def plainName : Scan (List Char) := do
  let first ← Scan.satisfy isNameStart
  let rest ← Scan.takeWhile isNameChar
  return first :: rest

/-- A qualified name. Without prefix, `space` is empty. -/
structure QName where
  space : String
  name : String
  deriving DecidableEq, Repr

/-- The parts of a name around its colon; without colon the first part is empty. -/
def QName.ofChars? (cs : List Char) : Option QName :=
  let before := cs.takeWhile (· != ':')
  match cs.dropWhile (· != ':') with
  | [] => part [] before
  | _ :: after => if after.contains ':' then none else part before after
where
  /-- A prefix, which may be empty, and a name, which may not. -/
  part (space name : List Char) : Option QName :=
    if name.head?.any isNameStart && (space.isEmpty || space.head?.any isNameStart) then
      some ⟨String.ofList space, String.ofList name⟩
    else none

/-- A qualified name. -/
def qname : Scan QName := do
  let cs ← Scan.takeWhile isNameChar
  match QName.ofChars? cs with
  | some q => return q
  | none => failure

end PageGrid.Xml
