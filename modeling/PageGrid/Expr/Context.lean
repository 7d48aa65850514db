import PageGrid.Expr.Error
import PageGrid.Expr.Value
import PageGrid.Noted

/-!
# Contexts of evaluation

What an expression sees: the document, the context node with its position and the number of nodes it is
one of, the values of variables, and functions beyond the built-in ones. Such a function sees the focus of
the call beside its arguments; one that is not known to `extension` is unknown.
-/

namespace PageGrid

open Xml (Address Document)

/-- The node that expressions are about, with its place in the list that is being processed. -/
structure Focus where
  node : Address
  position : Nat
  size : Nat
  deriving DecidableEq, Repr

/-- The focus on a single node. -/
def Focus.single (node : Address) : Focus := ⟨node, 1, 1⟩

/-- What an expression sees. -/
structure Context extends Focus where
  document : Document
  bindings : String → Option Value
  extension : Focus → String → List Value → Option (Noted CallFault Value)

namespace Context

/-- The context about a node of a document with some variables and no functions but the built-in ones.
Of several variables of a name the first counts. -/
def ofDocument (document : Document) (bound : List (String × Value)) (focus : Focus) : Context :=
  { focus with
    document
    bindings := fun name => (bound.find? fun (n, _) => n = name).map (·.2)
    extension := fun _ _ _ => none }

/-- The same context about another node. -/
def withFocus (c : Context) (focus : Focus) : Context := { c with toFocus := focus }

/-- The text of a value. -/
def text (c : Context) (v : Value) : String := v.toText c.document

/-- The number of a value. -/
def number (c : Context) (v : Value) : Float := v.toNumber c.document

/-- The string value of the context node. -/
def nodeText (c : Context) : String := c.document.stringValue c.node

end Context

end PageGrid
