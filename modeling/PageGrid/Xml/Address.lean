import PageGrid.Xml.Basic

/-!
# Places in a document

A node of a document is named by its address: the steps that lead to it from the root of the
document. The root itself has the empty address and the root element is its only child, so the element
is the first child of the root. An attribute is one step away from its element.

## Document order

Document order is the lexicographic order of addresses, where attributes come before children. A node
therefore comes before everything below it, and an element before its attributes and those before its
children. The order needs no document.

## Main definitions

* `Step`, `Address` — addresses and their order, `Address.before`;
* `Place` — what is at an address;
* `Document.place?` — the way from an address to its place;
* `Document.children`, `attributes`, `descendants` — the addresses around an address.
-/

namespace PageGrid.Xml

/-- A step from a node to one of its attributes or children, counted from zero. -/
inductive Step where
  | attribute (index : Nat)
  | child (index : Nat)
  deriving DecidableEq, Repr

/-- Whether a step leads to an earlier place than another step from the same node. -/
def Step.before : Step → Step → Bool
  | .attribute i, .attribute j => decide (i < j)
  | .attribute _, .child _ => true
  | .child _, .attribute _ => false
  | .child i, .child j => decide (i < j)

/-- The steps from the root of a document to a node. -/
abbrev Address := List Step

namespace Address

/-- Document order, strictly. -/
def before : Address → Address → Bool
  | [], [] => false
  | [], _ :: _ => true
  | _ :: _, [] => false
  | s :: a, t :: b => s.before t || (decide (s = t) && before a b)

/-- The address of the node above. -/
def parent? (a : Address) : Option Address :=
  if a.isEmpty then none else some a.dropLast

end Address

/-- What is at an address. -/
inductive Place where
  | document (root : Element)
  | node (n : Node)
  | attribute (a : Attribute)

namespace Place

/-- The place that a step leads to. -/
def step? : Place → Step → Option Place
  | .document root, .child 0 => some (.node root.toNode)
  | .node (.element _ children), .child i => children[i]?.map .node
  | .node (.element tag _), .attribute i => tag.attributes[i]?.map .attribute
  | _, _ => none

/-- Whether an element is at the place. -/
def isElement : Place → Bool
  | .node (.element ..) => true
  | _ => false

/-- Whether a text is at the place. -/
def isText : Place → Bool
  | .node (.text _) => true
  | _ => false

/-- Whether an attribute is at the place. -/
def isAttribute : Place → Bool
  | .attribute _ => true
  | _ => false

/-- The local name of an element or attribute. -/
def name? : Place → Option String
  | .node (.element tag _) => some tag.name
  | .attribute a => some a.name
  | _ => none

/-- The text in and below the place, or the value of an attribute. -/
def stringValue : Place → String
  | .document root => root.toNode.stringValue
  | .node n => n.stringValue
  | .attribute a => a.value

/-- The value of an attribute of an element, which is found by its local name. -/
def attribute? (name : String) : Place → Option String
  | .node (.element tag _) => tag.attribute? name
  | _ => none

/-- The number of children. -/
def childCount : Place → Nat
  | .document _ => 1
  | .node (.element _ children) => children.length
  | _ => 0

/-- The number of attributes. -/
def attributeCount : Place → Nat
  | .node (.element tag _) => tag.attributes.length
  | _ => 0

end Place

mutual

/-- The addresses of a node at `here` and of all nodes below it, in document order. -/
def Node.addresses (here : Address) : Node → List Address
  | .text _ => [here]
  | .element _ children => here :: Node.addressesFrom here 0 children

/-- The same for the children of a node from a child number on. -/
def Node.addressesFrom (parent : Address) (index : Nat) : List Node → List Address
  | [] => []
  | n :: ns =>
    Node.addresses (parent ++ [.child index]) n ++ Node.addressesFrom parent (index + 1) ns

end

namespace Document

/-- The address of the root element. -/
def rootElement : Address := [.child 0]

/-- What is at an address. -/
def place? (d : Document) (a : Address) : Option Place :=
  a.foldlM Place.step? (.document d.root)

/-- The children of a node. -/
def children (d : Document) (a : Address) : List Address :=
  (List.range (((d.place? a).map Place.childCount).getD 0)).map fun i => a ++ [.child i]

/-- The attributes of a node. -/
def attributes (d : Document) (a : Address) : List Address :=
  (List.range (((d.place? a).map Place.attributeCount).getD 0)).map fun i => a ++ [.attribute i]

/-- The node itself and all elements and texts below it, in document order. -/
def descendants (d : Document) (a : Address) : List Address :=
  match d.place? a with
  | some (.document root) => a :: Node.addressesFrom a 0 [root.toNode]
  | some (.node n) => n.addresses a
  | some (.attribute _) => [a]
  | none => []

/-- The string value of a node. -/
def stringValue (d : Document) (a : Address) : String :=
  ((d.place? a).map Place.stringValue).getD ""

/-- The local name of a node. -/
def name? (d : Document) (a : Address) : Option String :=
  (d.place? a).bind Place.name?

end Document

end PageGrid.Xml
