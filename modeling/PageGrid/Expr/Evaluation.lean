import PageGrid.Expr.Basic
import PageGrid.Expr.Function

/-!
# Evaluating expressions

Evaluation is a recursion on the expression. It can fail, and functions of the caller can leave remarks.
The steps of a path go from node set to node set; the predicates of a step are applied to the nodes that
the step finds from each single node, so that positions count from there.

## Main definitions

* `Expr.eval` — the value of an expression;
* `PathStep.eval` — the nodes a step leads to from a list of nodes;
* `applyBinary`, `axisNodes`, `NodeTest.accepts` — the parts without recursion.
-/

namespace PageGrid

open Xml (Address Document Place)

/-! ### Operators, axes and tests -/

/-- The value of an operator on two values. -/
def applyBinary (d : Document) (op : BinaryOp) (left right : Value) : Except ExprError Value :=
  let arithmetic (f : Float → Float → Float) : Except ExprError Value :=
    .ok (.number (f (left.toNumber d) (right.toNumber d)))
  let comparing (c : Value.Comparison) : Except ExprError Value :=
    .ok (.boolean (Value.compare d c left right))
  match op with
  | .or => .ok (.boolean (left.toBool || right.toBool))
  | .and => .ok (.boolean (left.toBool && right.toBool))
  | .equal => comparing .equal
  | .notEqual => comparing .notEqual
  | .less => comparing .less
  | .lessOrEqual => comparing .lessOrEqual
  | .greater => comparing .greater
  | .greaterOrEqual => comparing .greaterOrEqual
  | .plus => arithmetic (· + ·)
  | .minus => arithmetic (· - ·)
  | .times => arithmetic (· * ·)
  | .divide => arithmetic (· / ·)
  | .modulo => arithmetic Decimal.remainder
  | .union =>
    match left, right with
    | .nodes as, .nodes bs => .ok (.nodes (NodeSet.union as bs))
    | _, _ => .error .unionOfValues

/-- The value that the left operand alone decides. -/
def shortcut? (op : BinaryOp) (left : Value) : Option Value :=
  match op with
  | .and => if left.toBool then none else some (.boolean false)
  | .or => if left.toBool then some (.boolean true) else none
  | _ => none

/-- The nodes on an axis from a node. -/
def axisNodes (d : Document) (axis : PathAxis) (node : Address) : List Address :=
  match axis with
  | .child => d.children node
  | .attribute => d.attributes node
  | .self => [node]
  | .parent => node.parent?.toList
  | .descendantOrSelf => d.descendants node

/-- A name without its prefix. -/
def localPart (name : String) : String :=
  String.ofList (name.toList.reverse.takeWhile (· != ':')).reverse

/-- Whether what is at a place is of the kind that an axis is about. -/
def PathAxis.isPrincipal (axis : PathAxis) (place : Place) : Bool :=
  match axis with
  | .attribute => place.isAttribute
  | _ => place.isElement

/-- Whether a test keeps what is at a place. -/
def NodeTest.accepts (test : NodeTest) (axis : PathAxis) (place : Place) : Bool :=
  match test with
  | .node => true
  | .text => place.isText
  | .any => axis.isPrincipal place
  | .name n => axis.isPrincipal place && place.name? == some (localPart n)

/-- The nodes that axis and test of a step find from a node. -/
def stepNodes (d : Document) (axis : PathAxis) (test : NodeTest) (node : Address) : List Address :=
  (axisNodes d axis node).filter fun a => (d.place? a).any (test.accepts axis)

/-- Whether a predicate with the given value keeps the node at a position: a number must be the
position, anything else must count as true. -/
def keepsPosition (position : Nat) : Value → Bool
  | .number x => x == Float.ofNat position
  | v => v.toBool

/-- The nodes of a list that a test, which sees their positions, keeps. -/
def keepWhere (test : Focus → Noted ExprError Value) (size : Nat) :
    Nat → List Address → Noted ExprError (List Address)
  | _, [] => pure []
  | position, a :: rest => do
    let v ← test ⟨a, position, size⟩
    let kept ← keepWhere test size (position + 1) rest
    return if keepsPosition position v then a :: kept else kept

/-- The results of a search from every node of a list, one after the other. -/
def fromEach (search : Address → Noted ExprError (List Address)) :
    List Address → Noted ExprError (List Address)
  | [] => pure []
  | a :: rest => do
    let found ← search a
    let others ← fromEach search rest
    return found ++ others

/-- The value of a function by its name. -/
def callFunction (c : Context) (name : String) (args : List Value) : Noted ExprError Value :=
  match CoreFunction.ofName? name with
  | some f => (Noted.ofExcept (f.call c args)).mapError (.call name)
  | none =>
    match c.extension c.toFocus name args with
    | some result => result.mapError (.call name)
    | none => .fail (.unknownFunction name)

/-! ### Expressions -/

mutual

/-- The value of an expression. -/
def Expr.eval (c : Context) : Expr → Noted ExprError Value
  | .literal s => pure (.string s)
  | .number x => pure (.number x)
  | .variable name =>
    match c.bindings name with
    | some v => pure v
    | none => .fail (.unknownVariable name)
  | .call name args => do callFunction c name (← Expr.evalAll c args)
  | .binary op left right => do
    let l ← Expr.eval c left
    match shortcut? op l with
    | some v => return v
    | none => .ofExcept (applyBinary c.document op l (← Expr.eval c right))
  | .negate e => do return .number (-(← Expr.eval c e).toNumber c.document)
  | .path start steps => do return .nodes (← PathStep.evalAll c steps (← PathStart.eval c start))

/-- The values of expressions, from left to right. -/
def Expr.evalAll (c : Context) : List Expr → Noted ExprError (List Value)
  | [] => pure []
  | e :: es => do
    let v ← Expr.eval c e
    let vs ← Expr.evalAll c es
    return v :: vs

/-- The nodes that a path starts from. An expression whose value is no node set gives none. -/
def PathStart.eval (c : Context) : PathStart → Noted ExprError (List Address)
  | .context => pure [c.node]
  | .root => pure [[]]
  | .value e => do
    match ← Expr.eval c e with
    | .nodes set => return set
    | _ => return []

/-- The nodes that steps lead to from the nodes of a list. -/
def PathStep.evalAll (c : Context) : List PathStep → List Address → Noted ExprError (List Address)
  | [], nodes => pure nodes
  | s :: ss, nodes => do PathStep.evalAll c ss (← PathStep.eval c s nodes)

/-- The nodes that a step leads to from the nodes of a list. -/
def PathStep.eval (c : Context) : PathStep → List Address → Noted ExprError (List Address)
  | .mk axis test predicates, nodes => do
    let found ← fromEach (fun a => Expr.keepAll c predicates (stepNodes c.document axis test a)) nodes
    return NodeSet.ofList found

/-- The nodes of a list that all predicates keep; each predicate counts the nodes that the ones before
it have kept. -/
def Expr.keepAll (c : Context) : List Expr → List Address → Noted ExprError (List Address)
  | [], nodes => pure nodes
  | p :: ps, nodes => do
    let kept ← keepWhere (fun focus => Expr.eval (c.withFocus focus) p) nodes.length 1 nodes
    Expr.keepAll c ps kept

end

end PageGrid
