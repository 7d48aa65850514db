import PageGrid.Version
import PageGrid.Xml.Parser

/-!
# Layout rules

Rules are the elements of a document in the layout namespace, below a root element of a fixed name.
Elements of other namespaces may stand between them and mean nothing.

## Main definitions

* `Rule.compile` — the rules of a text;
* `Rule.attribute?` — attributes, which are found by their local name;
* `Patterns` — the rules recorded for data elements, by name and mode.
-/

namespace PageGrid

/-- A layout rule. -/
abbrev Rule := Xml.Element

/-- Why a text is no layout rules. -/
inductive RuleFault where
  /-- The text is not well-formed. -/
  | malformed
  /-- The root element is in another namespace; an empty text stands for none. -/
  | wrongNamespace (found : String)
  /-- The root element has another name. -/
  | wrongRoot (name : String)
  deriving DecidableEq, Repr

namespace Rule

/-- The namespace of layout rules. -/
def layoutNamespace : String := "urn:gridpress:layout"

/-- The name of the root element. -/
def rootName : String := "Layout"

/-- Whether the element is in the layout namespace. -/
def isLayout (r : Rule) : Bool := r.tag.uri == some layoutNamespace

/-- The value of the first attribute with the local name. -/
def attribute? (r : Rule) (name : String) : Option String := r.tag.attribute? name

/-- The root of the layout rules that a text holds. -/
def compile (source : String) : Except RuleFault Rule :=
  match Xml.Document.parse source with
  | none => .error .malformed
  | some d =>
    if !isLayout d.root then .error (.wrongNamespace (d.root.tag.uri.getD ""))
    else if d.root.name ≠ rootName then .error (.wrongRoot d.root.name)
    else .ok d.root

end Rule

/-- A recorded rule with the element name and the mode that it is for. -/
structure Pattern where
  element : String
  mode : String
  rule : Rule

/-- The recorded rules, of which no two are for the same element name and mode. -/
structure Patterns where
  entries : List Pattern

namespace Patterns

/-- No rules. -/
def empty : Patterns := ⟨[]⟩

/-- Records a rule. One that is recorded for the same element name and mode is dropped. -/
def record (p : Patterns) (element mode : String) (rule : Rule) : Patterns :=
  ⟨⟨element, mode, rule⟩ :: p.entries.filter fun e => !(e.element == element && e.mode == mode)⟩

/-- The rule for an element name and a mode. -/
def lookup? (p : Patterns) (element mode : String) : Option Rule :=
  (p.entries.find? fun e => e.element == element && e.mode == mode).map (·.rule)

/-- The number of recorded rules. -/
def size (p : Patterns) : Nat := p.entries.length

end Patterns

end PageGrid
