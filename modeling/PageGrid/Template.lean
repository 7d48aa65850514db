import PageGrid.Expr.Evaluation
import PageGrid.Expr.Parser

/-!
# Attribute templates

The value of an attribute may contain expressions in braces. Literal braces are doubled; a closing brace
outside an expression stands for itself even if it is single. Inside an expression braces nest, also
those in string literals, so an expression ends at the brace that balances its first one.

A text without opening braces and without double closing ones is its own template, and the reader takes
it as it is. Any other text is read from left to right.

## Main definitions

* `TemplatePart`, `Template` — the parts of a template, and what it is read as;
* `Template.scan`, `Template.parse` — the reading of a text, part by part and with its shortcut;
* `Template.eval` — the text of a template in a context.
-/

namespace PageGrid

/-- A part of a template. -/
inductive TemplatePart where
  | literal (text : String)
  | expression (e : Expr)

/-- What an attribute value is read as: a text, or parts that have to be evaluated. -/
inductive Template where
  | static (text : String)
  | dynamic (parts : List TemplatePart)

namespace Template

/-- The template of parts: a single literal, or nothing at all, is a text. -/
def ofParts : List TemplatePart → Template
  | [] => .static ""
  | [.literal text] => .static text
  | parts => .dynamic parts

/-- Splits a text at the closing brace that balances `depth` open ones. -/
def untilClosed (depth : Nat) : List Char → Option (List Char × List Char)
  | [] => none
  | c :: rest =>
    if c = '\x7d' ∧ depth ≤ 1 then some ([], rest)
    else
      let deeper :=
        if c = '\x7b' then depth + 1 else if c = '\x7d' then depth - 1 else depth
      (untilClosed deeper rest).map fun (inside, after) => (c :: inside, after)

/-- A part as written: literal text with its braces undone, or the text of an expression. -/
inductive RawPart where
  | literal (cs : List Char)
  | expression (cs : List Char)
  deriving DecidableEq, Repr

/-- Puts a character in front of raw parts, where neighbouring literals are one. -/
def RawPart.push (c : Char) : List RawPart → List RawPart
  | .literal cs :: rest => .literal (c :: cs) :: rest
  | rest => .literal [c] :: rest

/-- The raw parts of a text, from left to right as far as `fuel` goes; `none` if an expression is not
closed. -/
def split : Nat → List Char → List RawPart × Bool
  | 0, _ => ([], true)
  | _, [] => ([], true)
  | fuel + 1, c :: rest =>
    let literal (c : Char) (rest : List Char) :=
      let (parts, closed) := split fuel rest
      (RawPart.push c parts, closed)
    if c = '\x7b' then
      match rest with
      | '\x7b' :: rest => literal c rest
      | rest =>
        match untilClosed 1 rest with
        | none => ([], false)
        | some (inside, after) =>
          let (parts, closed) := split fuel after
          (.expression inside :: parts, closed)
    else if c = '\x7d' then
      match rest with
      | '\x7d' :: rest => literal c rest
      | rest => literal c rest
    else literal c rest

/-- The parts of raw parts. -/
def compile (input : String) (closed : Bool) : List RawPart → Except ExprError (List TemplatePart)
  | [] => if closed then .ok [] else .error (.syntaxFault input .openBrace)
  | .literal cs :: rest => do
    let parts ← compile input closed rest
    return .literal (String.ofList cs) :: parts
  | .expression cs :: rest => do
    let e ← Expr.parse (String.ofList cs)
    let parts ← compile input closed rest
    return .expression e :: parts

/-- The parts of a text. The first expression that cannot be read is reported, or that the last one is
not closed. -/
def scan (input : String) : Except ExprError (List TemplatePart) :=
  let cs := input.toList
  let (parts, closed) := split cs.length cs
  compile input closed parts

/-- Whether a brace of the text may have a meaning. -/
def hasMarkup (cs : List Char) : Bool := cs.contains '\x7b' || Text.contains cs ['\x7d', '\x7d']

/-- The template of a text. -/
def parse (input : String) : Except ExprError Template :=
  if hasMarkup input.toList then (scan input).map ofParts else .ok (.static input)

/-- The text of parts in a context. -/
def evalParts (c : Context) : List TemplatePart → Noted ExprError String
  | [] => pure ""
  | .literal s :: rest => do return s ++ (← evalParts c rest)
  | .expression e :: rest => do
    let v ← e.eval c
    let after ← evalParts c rest
    return c.text v ++ after

/-- The text of a template in a context. -/
def eval (c : Context) : Template → Noted ExprError String
  | .static text => pure text
  | .dynamic parts => evalParts c parts

end Template

end PageGrid
