import PageGrid.Content
import PageGrid.Expr.Value
import PageGrid.Log

/-!
# Items

Applying a rule yields a list of items: numbers, texts, truth values, nodes of the data document,
paragraphs and boxes. Lists of items and values of expressions convert to each other; a value survives
the way to items and back.

## Main definitions

* `Item` — the items, with `Item.toText`;
* `Items.ofValue`, `Items.toValue` — the conversions;
* `Items.boxes`, `Items.paragraphs` — what a list holds for the page and for a block of text.
-/

namespace PageGrid

open Xml (Address Document)

/-- A result of applying rules. -/
inductive Item where
  | number (x : Float)
  | string (s : String)
  | boolean (b : Bool)
  | node (a : Address)
  | paragraph (text : String)
  | box (b : ContentBox Float)

/-- The text of an item. Boxes have none. -/
def Item.toText (d : Document) : Item → String
  | .number x => formatNumber x
  | .string s => s
  | .boolean b => Value.boolText b
  | .node a => d.stringValue a
  | .paragraph text => text
  | .box _ => ""

/-- The node that an item is. -/
def Item.node? : Item → Option Address
  | .node a => some a
  | _ => none

/-- The box that an item is. -/
def Item.box? : Item → Option (ContentBox Float)
  | .box b => some b
  | _ => none

/-- The items that the application of a rule yields, in order. -/
abbrev Items := List Item

namespace Items

/-- The items of a value: its nodes, or one. -/
def ofValue : Value → Items
  | .nodes set => set.map .node
  | .string s => [.string s]
  | .number x => [.number x]
  | .boolean b => [.boolean b]

/-- The texts of the items as one. -/
def toText (d : Document) (items : Items) : String := String.join (items.map (Item.toText d))

/-- Items as one value: a node set if all of them are nodes, a single number or truth value as it is,
and else their text. -/
def toValue (d : Document) (items : Items) : Value :=
  if items.all fun i => i.node?.isSome then .nodes (items.filterMap Item.node?)
  else
    match items with
    | [.number x] => .number x
    | [.boolean b] => .boolean b
    | _ => .string (toText d items)

/-- The boxes among the items. -/
def boxes (items : Items) : List (ContentBox Float) := items.filterMap Item.box?

/-- The paragraphs of a block of text, where `loose` is text that awaits its end. A paragraph stays a
paragraph; between paragraphs, a run of other items with some text is one. -/
def paragraphsAfter (d : Document) (loose : String) : Items → List String
  | [] => flush
  | .paragraph text :: rest => flush ++ text :: paragraphsAfter d "" rest
  | .box _ :: rest => paragraphsAfter d loose rest
  | i :: rest => paragraphsAfter d (loose ++ i.toText d) rest
where
  /-- The loose text as a paragraph, if there is any. -/
  flush : List String := if loose.isEmpty then [] else [loose]

/-- The paragraphs of a block of text. -/
def paragraphs (d : Document) (items : Items) : List String := paragraphsAfter d "" items

/-- What is reported about a block of text: its boxes are left out. -/
def boxNotices (items : Items) : List LogEntry :=
  items.boxes.map fun _ => .warning "A box inside a text block is ignored"

end Items

end PageGrid
