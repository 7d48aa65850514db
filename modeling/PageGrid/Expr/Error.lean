/-!
# Failures of expressions

Why an expression cannot be read or evaluated. The wording is in `ExprError.message`.
-/

namespace PageGrid

/-- Why a text is no expression. -/
inductive SyntaxFault where
  /-- The text does not begin with an expression. -/
  | noExpression
  /-- The text begins with an expression that ends before `rest`. -/
  | remainder (rest : String)
  /-- A brace that opens an embedded expression is not closed. -/
  | openBrace
  deriving DecidableEq, Repr

/-- The wording of a syntax fault. -/
def SyntaxFault.message : SyntaxFault → String
  | .noExpression => "Parsing Error"
  | .remainder rest => s!"Parser did not consume all input. Remainder: '{rest}'"
  | .openBrace => "unterminated '\x7b' in attribute value"

/-- Why a function refuses its arguments. -/
inductive CallFault where
  | argumentCount (least most given : Nat)
  | notNodes
  /-- A number was expected. -/
  | notFinite (text : String)
  | unknownArea (name : String)
  | unknownGroup (name : String)
  /-- The group is not measured yet. -/
  | openGroup (name : String)
  | unknownMarker (name : String)
  deriving DecidableEq, Repr

/-- The wording of a refusal. -/
def CallFault.message : CallFault → String
  | .argumentCount least most given => s!"expected {least}..={most} arguments, got {given}"
  | .notNodes => "argument must be a node set"
  | .notFinite text => s!"'{text}' is not a number"
  | .unknownArea name => s!"Unknown area '{name}'"
  | .unknownGroup name => s!"Group '{name}' is not defined"
  | .openGroup name => s!"group '{name}' has not been laid out"
  | .unknownMarker name => s!"marker '{name}' is not defined in this or the previous run"

/-- Why an expression has no value. -/
inductive ExprError where
  | syntaxFault (input : String) (fault : SyntaxFault)
  | unknownFunction (name : String)
  | call (function : String) (fault : CallFault)
  /-- The union of something else than node sets. -/
  | unionOfValues
  | unknownVariable (name : String)
  deriving DecidableEq, Repr

/-- The wording of a failure. -/
def ExprError.message : ExprError → String
  | .syntaxFault input fault => s!"XPath parse error in '{input}': {fault.message}"
  | .unknownFunction name => s!"Unknown function '{name}'"
  | .call function fault => s!"Function '{function}' error: {fault.message}"
  | .unionOfValues => "Type error: the '|' operator requires node sets on both sides"
  | .unknownVariable name => s!"Variable '{name}' not found"

end PageGrid
