import PageGrid.Command.Boxes
import PageGrid.Command.Groups
import PageGrid.Command.Iteration
import PageGrid.Command.Pages
import PageGrid.Command.Placement

/-!
# Applying rules

A rule is applied to a data node by the command of its name, and commands apply the rules below them.
What is not a rule, and a rule without a command, is skipped with a warning. The innermost rule that
fails logs the fault.

Recorded rules can apply themselves, so the application of rules need not end. It is given a depth, and
rules that are nested beyond it stop the run. No fault is caused by the depth otherwise, so an
application that ends within a depth ends alike within every greater one.

## Main definitions

* `CommandName` — the commands by name;
* `Interpreter.execute` — the application of a rule;
* `Interpreter.executeChildren` — the application of all rules below a rule.
-/

namespace PageGrid

/-- The commands. -/
inductive CommandName where
  | recordRule
  | processNode
  | pageType
  | value
  | copyOf
  | paragraph
  | textblock
  | image
  | box
  | message
  | placeObject
  | newPage
  | nextRow
  | setGrid
  | group
  | contents
  | mark
  | setVariable
  | forAll
  | loop
  | choose
  deriving DecidableEq, Repr

namespace CommandName

/-- The commands by the names of their rules. -/
def names : List (String × CommandName) :=
  [("Record", .recordRule), ("ProcessNode", .processNode), ("Pagetype", .pageType),
   ("Value", .value), ("Copy-of", .copyOf), ("Paragraph", .paragraph), ("Textblock", .textblock),
   ("Image", .image), ("Box", .box), ("Message", .message), ("PlaceObject", .placeObject),
   ("NewPage", .newPage), ("NextRow", .nextRow), ("SetGrid", .setGrid), ("Group", .group),
   ("Contents", .contents), ("Mark", .mark), ("SetVariable", .setVariable), ("ForAll", .forAll),
   ("Loop", .loop), ("Switch", .choose)]

/-- The command of a rule name. -/
def ofName? (name : String) : Option CommandName :=
  (names.find? fun (n, _) => n = name).map (·.2)

/-- The effect of a command, given the application of the rules below. -/
def run (children : Command.Children) : CommandName → Rule → Focus → Action Items
  | .recordRule => Command.recordRule children
  | .processNode => Command.processNode children
  | .pageType => Command.declarePageType children
  | .value => Command.value children
  | .copyOf => Command.copyOf children
  | .paragraph => Command.paragraph children
  | .textblock => Command.textblock children
  | .image => Command.image children
  | .box => Command.filledBox children
  | .message => Command.message children
  | .placeObject => Command.placeObject children
  | .newPage => Command.newPage children
  | .nextRow => Command.nextRow children
  | .setGrid => Command.setGrid children
  | .group => Command.group children
  | .contents => Command.contents children
  | .mark => Command.mark children
  | .setVariable => Command.setVariable children
  | .forAll => Command.forAll children
  | .loop => Command.loop children
  | .choose => Command.choose children

end CommandName

namespace Interpreter

/-- Applies rules one after the other. -/
def executeAll (apply : Rule → Focus → Action Items) (focus : Focus) : List Rule → Action Items
  | [] => return []
  | rule :: rest => do
    let items ← apply rule focus
    return items ++ (← executeAll apply focus rest)

/-- The place of a rule, as the log names it. -/
def placeOf (rule : Rule) : String := s!"<{rule.name}> (line {rule.line})"

/-- Applies a rule to a data node, with rules nested at most `depth` levels below it. -/
def execute : Nat → Rule → Focus → Action Items
  | 0, rule, _ => Action.reporting (placeOf rule) (Action.refuse rule .tooDeep)
  | depth + 1, rule, focus => do
    if !rule.isLayout then
      Action.warn
        s!"Element <{rule.name}> (line {rule.line}) is not in the layout namespace, skipped"
      return []
    match CommandName.ofName? rule.name with
    | none =>
      Action.warn s!"Unknown layout element <{rule.name}> (line {rule.line}), skipped"
      return []
    | some command =>
      let children (rule : Rule) (focus : Focus) : Action Items :=
        executeAll (execute depth) focus rule.elements
      Action.reporting (placeOf rule) (command.run children rule focus)

/-- The depth to which runs apply rules. -/
def depthLimit : Nat := 1000000

/-- Applies all rules below a rule to a data node, within a depth. -/
def executeChildren (depth : Nat) (rule : Rule) (focus : Focus) : Action Items :=
  executeAll (execute depth) focus rule.elements

end Interpreter

end PageGrid
