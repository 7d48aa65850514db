/-!
# Documents

The tree that markup stands for: elements with attributes and children, and texts. Comments,
processing instructions and namespace declarations leave no trace in it, except that two texts with a
comment or an instruction between them are two texts. Data documents and layout rules are both read
into this tree.

Names are local names; the namespace of a name, if it has one, is kept beside it.
-/

namespace PageGrid.Xml

/-- An attribute: local name, namespace and value. -/
structure Attribute where
  name : String
  uri : Option String
  value : String
  deriving DecidableEq, Repr

/-- What the start of an element says: local name, namespace, attributes in the order of the text,
and the line it is on, from one. -/
structure Tag where
  name : String
  uri : Option String
  attributes : List Attribute
  line : Nat
  deriving DecidableEq, Repr

/-- The value of the first attribute with the local name, whatever its namespace. -/
def Tag.attribute? (t : Tag) (name : String) : Option String :=
  (t.attributes.find? (·.name = name)).map (·.value)

/-- A node below an element. -/
inductive Node where
  | element (tag : Tag) (children : List Node)
  | text (content : String)
  deriving Repr

/-- An element with what is below it. -/
structure Element where
  tag : Tag
  children : List Node
  deriving Repr

/-- A document, which has one element at its root. -/
structure Document where
  root : Element
  deriving Repr

namespace Node

/-- The node as an element. -/
def element? : Node → Option Element
  | .element tag children => some ⟨tag, children⟩
  | .text _ => none

/-- The node as a text. -/
def text? : Node → Option String
  | .element .. => none
  | .text s => some s

/-- Whether the node is a text. -/
def isText : Node → Bool
  | .element .. => false
  | .text _ => true

mutual

/-- The texts in and below the node, in document order, as one. -/
def stringValue : Node → String
  | .text s => s
  | .element _ children => stringValueOfAll children

/-- The texts in and below the nodes of a list, as one. -/
def stringValueOfAll : List Node → String
  | [] => ""
  | n :: ns => stringValue n ++ stringValueOfAll ns

end

end Node

namespace Element

/-- The local name. -/
def name (e : Element) : String := e.tag.name

/-- The line on which the element starts. -/
def line (e : Element) : Nat := e.tag.line

/-- The element as a node. -/
def toNode (e : Element) : Node := .element e.tag e.children

/-- The child elements. -/
def elements (e : Element) : List Element := e.children.filterMap Node.element?

/-- The first child element of a local name. -/
def child? (e : Element) (name : String) : Option Element :=
  e.elements.find? (·.name = name)

/-- The texts directly below the element, as one. -/
def text (e : Element) : String := String.join (e.children.filterMap Node.text?)

end Element

end PageGrid.Xml
