/-!
# Expressions

The syntax of the expressions that select data, compute values and test conditions. A path begins
at the context node, at the root of the document, or at the value of an expression, and takes steps;
a step walks along an axis, keeps the nodes that pass a test, and then those that satisfy its
predicates.

## Main definitions

* `Expr`, `PathStart`, `PathStep` — expressions and the parts of paths;
* `BinaryOp`, `PathAxis`, `NodeTest` — their leaves.
-/

namespace PageGrid

/-- The operators between two expressions. -/
inductive BinaryOp where
  | or
  | and
  | equal
  | notEqual
  | less
  | lessOrEqual
  | greater
  | greaterOrEqual
  | plus
  | minus
  | times
  | divide
  | modulo
  | union
  deriving DecidableEq, Repr

/-- Where a step leads from a node. -/
inductive PathAxis where
  | child
  | attribute
  | self
  | parent
  | descendantOrSelf
  deriving DecidableEq, Repr

/-- Which nodes on an axis a step keeps. -/
inductive NodeTest where
  /-- Elements, or on the attribute axis attributes, of a name. A name prefix is not compared. -/
  | name (name : String)
  /-- All elements, or on the attribute axis all attributes. -/
  | any
  | text
  | node
  deriving DecidableEq, Repr

mutual

/-- An expression. -/
inductive Expr where
  | literal (text : String)
  | number (value : Float)
  | variable (name : String)
  | call (name : String) (args : List Expr)
  | binary (op : BinaryOp) (left right : Expr)
  | negate (operand : Expr)
  | path (start : PathStart) (steps : List PathStep)

/-- Where a path begins. -/
inductive PathStart where
  /-- At the context node. -/
  | context
  /-- At the root of the document. -/
  | root
  /-- At the nodes that an expression yields. -/
  | value (e : Expr)

/-- A step of a path. -/
inductive PathStep where
  | mk (axis : PathAxis) (test : NodeTest) (predicates : List Expr)

end

namespace PathStep

/-- The axis of the step. -/
def axis : PathStep → PathAxis
  | .mk axis _ _ => axis

/-- The node test of the step. -/
def test : PathStep → NodeTest
  | .mk _ test _ => test

/-- The predicates of the step. -/
def predicates : PathStep → List Expr
  | .mk _ _ predicates => predicates

/-- The step that a double slash abbreviates: to the node itself and all nodes below it. -/
def descend : PathStep := .mk .descendantOrSelf .node []

end PathStep

end PageGrid
