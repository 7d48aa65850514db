import PageGrid.Decimal.Reader
import PageGrid.Expr.Basic
import PageGrid.Expr.Error
import PageGrid.Text.Letter
import PageGrid.Text.Scan

/-!
# Reading expressions

The grammar, from the loosest to the tightest operator:

```
or, and, = !=, <= >= < >, + -, * div mod, unary -, |, path
```

All binary operators are left-associative, and each level takes the operators it finds before it
gives up to the level above. A word operator ends where no name character follows, so `order` is a
name. Blanks may stand around operators, brackets and commas, but neither inside a path nor before
the first argument of a call.

## Recursion

Parentheses, arguments and predicates contain expressions of the loosest level. The grammar below is
written with that nested reader as a parameter, `nested`; `expression` ties the knot as often as there
are characters, which is enough because every nested expression stands behind a bracket.

## Main definitions

* `Expr.Grammar` — one scanner per rule of the grammar;
* `Expr.parse` — the expression of a whole text.
-/

namespace PageGrid

open Text (Scan)

namespace Expr.Grammar

/-! ### Names and literals -/

/-- Whether a name can begin with the character. -/
def isNameStart (c : Char) : Bool := Text.isLetter c || c == '_'

/-- Whether a name can go on with the character. -/
def isNameChar (c : Char) : Bool :=
  Text.isLetter c || Text.isNumeral c || c == '_' || c == '-' || c == '.'

/-- A name without prefix. -/
def localName : Scan (List Char) := do
  let first ← Scan.takeWhile1 isNameStart
  let rest ← Scan.takeWhile isNameChar
  return first ++ rest

/-- A name, perhaps with a prefix. -/
def name : Scan String := do
  let first ← localName
  let second ← Scan.maybe (Scan.char ':' *> localName)
  return String.ofList (first ++ (second.map (':' :: ·)).getD [])

/-- A run of digits. -/
def digits : Scan (List Char) := Scan.takeWhile1 Char.isDigit

/-- The digits of a number: a whole part with an optional point and fraction, or a fraction alone. -/
def numberText : Scan (List Char) :=
  (do
    let whole ← digits
    let fraction ← Scan.maybe (Scan.char '.' *> Scan.maybe digits)
    return whole ++ (fraction.map fun ds => '.' :: ds.getD []).getD []) <|>
  (do
    let _ ← Scan.char '.'
    let ds ← digits
    return '.' :: ds)

/-- A number. -/
def number : Scan Float := do
  let text ← numberText
  match Decimal.readFloat text with
  | some x => return x
  | none => failure

/-- A text between two quotes of a kind. -/
def quotedBy (quote : Char) : Scan String := do
  let _ ← Scan.char quote
  let cs ← Scan.takeWhile (· != quote)
  let _ ← Scan.char quote
  return String.ofList cs

/-- A text in single or double quotes. -/
def literal : Scan String := quotedBy '\'' <|> quotedBy '"'

/-- A reference to a variable. -/
def variableName : Scan String := Scan.char '$' *> name

/-! ### Operators -/

/-- A word operator, which no name character follows. -/
def keyword (word : String) (op : BinaryOp) : Scan BinaryOp := do
  Scan.word word
  Scan.notNext isNameChar
  return op

/-- An operator made of signs. -/
def sign (signs : String) (op : BinaryOp) : Scan BinaryOp := do
  Scan.word signs
  return op

/-- The operators of each binary level above the unary minus, the loosest first. -/
def levels : List (Scan BinaryOp) :=
  [ keyword "or" .or,
    keyword "and" .and,
    sign "!=" .notEqual <|> sign "=" .equal,
    sign "<=" .lessOrEqual <|> sign ">=" .greaterOrEqual <|> sign "<" .less <|> sign ">" .greater,
    sign "+" .plus <|> sign "-" .minus,
    sign "*" .times <|> keyword "div" .divide <|> keyword "mod" .modulo ]

/-- Operands with operators of one level between them, grouped to the left. -/
def chain (op : Scan BinaryOp) (operand : Scan Expr) : Scan Expr := do
  let first ← operand
  let rest ← Scan.many (do
    let o ← Scan.padded op
    let e ← operand
    return (o, e))
  return rest.foldl (fun left (o, right) => .binary o left right) first

/-! ### Paths -/

/-- The tests `text()` and `node()`. -/
def nodeType : Scan NodeTest := do
  let test ← (Scan.word "text" *> pure NodeTest.text) <|> (Scan.word "node" *> pure NodeTest.node)
  let _ ← Scan.padded (Scan.char '(')
  let _ ← Scan.char ')'
  return test

/-- A node test. -/
def nodeTest : Scan NodeTest :=
  (Scan.char '*' *> pure .any) <|> nodeType <|> (.name <$> name)

/-- Axis and node test of a step. -/
def stepHead : Scan (PathAxis × NodeTest) :=
  (Scan.word ".." *> pure (.parent, .node)) <|>
  (Scan.char '.' *> pure (.self, .node)) <|>
  (do
    let _ ← Scan.char '@'
    let test ← nodeTest
    return (.attribute, test)) <|>
  (do
    let test ← nodeTest
    return (.child, test))

variable (nested : Scan Expr)

/-- A predicate in brackets. -/
def predicate : Scan Expr := do
  let _ ← Scan.padded (Scan.char '[')
  let e ← nested
  let _ ← Scan.padded (Scan.char ']')
  return e

/-- A step with its predicates. -/
def step : Scan PathStep := do
  let (axis, test) ← stepHead
  let predicates ← Scan.many (predicate nested)
  return .mk axis test predicates

/-- A slash or a double slash and the step after it; a double slash is a step of its own. -/
def nextSteps : Scan (List PathStep) :=
  (do
    Scan.word "//"
    let s ← step nested
    return [.descend, s]) <|>
  (do
    let _ ← Scan.char '/'
    let s ← step nested
    return [s])

/-- The beginning of a path: a double slash and a step, a slash and perhaps a step, or a step. A
double slash without a step is not read as a slash. -/
def pathHead : Scan (PathStart × List PathStep) := fun s =>
  match s with
  | '/' :: '/' :: rest => ((fun t => (PathStart.root, [PathStep.descend, t])) <$> step nested) rest
  | '/' :: rest => ((fun t => (PathStart.root, t.toList)) <$> Scan.maybe (step nested)) rest
  | _ => ((fun t => (PathStart.context, [t])) <$> step nested) s

/-- A function call. The names of node types are no functions, and the first argument follows the
parenthesis at once. -/
def call : Scan Expr := do
  let f ← name
  if f = "text" ∨ f = "node" then failure
  Scan.blanks
  let _ ← Scan.char '('
  let args ← Scan.sepBy nested (Scan.padded (Scan.char ','))
  let _ ← Scan.padded (Scan.char ')')
  return .call f args

/-- An expression in parentheses. -/
def parenthesized : Scan Expr := do
  let _ ← Scan.padded (Scan.char '(')
  let e ← nested
  let _ ← Scan.padded (Scan.char ')')
  return e

/-- An expression that is no path by itself. -/
def primary : Scan Expr :=
  (.variable <$> variableName) <|> (.number <$> number) <|> (.literal <$> literal) <|>
    call nested <|> parenthesized nested

/-- Adds steps to an expression. The steps of a path grow; any other expression becomes the start of
a path. -/
def extend (e : Expr) : List PathStep → Expr
  | [] => e
  | s :: ss =>
    match e with
    | .path start steps => .path start (steps ++ s :: ss)
    | e => .path (.value e) (s :: ss)

/-- A primary expression or the beginning of a path, with the steps after it. -/
def path : Scan Expr := do
  let start ← primary nested <|> (do let (a, b) ← pathHead nested; return .path a b)
  let steps ← Scan.many (nextSteps nested)
  return extend start steps.flatten

/-- Paths with the union operator between them. -/
def union : Scan Expr := chain (sign "|" .union) (path nested)

/-- A union, perhaps negated. -/
def unary : Scan Expr := do
  let minus ← Scan.maybe (Scan.padded (Scan.char '-'))
  let e ← union nested
  return if minus.isSome then .negate e else e

/-- An expression of the loosest level. -/
def loosest : Scan Expr := levels.foldr chain (unary nested)

/-- An expression with fewer than `fuel` levels of brackets. -/
def expression : Nat → Scan Expr
  | 0 => failure
  | fuel + 1 => loosest (expression fuel)

end Expr.Grammar

namespace Expr

/-- The expression that a text stands for. Blanks around it, of any kind, are ignored. -/
def parse (input : String) : Except ExprError Expr :=
  let text := Text.trimChars input.toList
  match (Scan.padded (Grammar.expression (text.length + 1))).all text with
  | .done e => .ok e
  | .stopped rest => .error (.syntaxFault input (.remainder (String.ofList rest)))
  | .mismatch => .error (.syntaxFault input .noExpression)

end Expr

end PageGrid
