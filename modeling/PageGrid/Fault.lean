import PageGrid.Config
import PageGrid.Expr.Error
import PageGrid.Grid.Basic
import PageGrid.Length
import PageGrid.Rule
import PageGrid.Typeset
import PageGrid.Version

/-!
# What stops a run

A run stops at the first fault. A fault is a cause together with whether it has been logged already:
the innermost rule that fails logs it, and everything around passes it on.

## Main definitions

* `FaultCause` — the causes, with their wording in `FaultCause.message`;
* `Fault` — a cause and whether it is logged.
-/

namespace PageGrid

/-- What is wrong with the value of an attribute. -/
inductive AttributeFault where
  | notANumber
  | notPositiveWhole
  | notWhole
  | length (e : LengthError)
  | outOfRange
  | notBoolean
  /-- The expression yields something else than nodes. -/
  | notNodes (found : String)
  deriving DecidableEq, Repr

/-- The wording of a faulty value. -/
def AttributeFault.message : AttributeFault → String
  | .notANumber => "not a number"
  | .notPositiveWhole => "expected a positive whole number"
  | .notWhole => "expected a whole number"
  | .length e => e.message
  | .outOfRange => "size is out of range"
  | .notBoolean => "expected yes/no or true/false"
  | .notNodes found => s!"expected a node set, got {found}"

/-- What a rule cannot do. -/
inductive RuleIssue where
  | noTarget
  | emptyMarkerName (expression : String)
  | objectCount (count : Nat)
  | halfPosition
  | openGroup (name : String)
  | noContents (group : String)
  | noFrame (area : String)
  | loopCount (expression : String) (count : Float)
  | cellSize
  | wrongRoot
  /-- Rules are applied within rules without end. -/
  | tooDeep
  deriving Repr

/-- The wording of what a rule cannot do. -/
def RuleIssue.message : RuleIssue → String
  | .noTarget => "there is no page or group to lay out on"
  | .emptyMarkerName expression => s!"'{expression}' yields an empty marker name"
  | .objectCount count => s!"expected exactly one object to place, got {count}"
  | .halfPosition => "x and y must be given together"
  | .openGroup name => s!"group '{name}' has not been laid out"
  | .noContents group => s!"group '{group}' has no Contents"
  | .noFrame area => s!"area '{area}' has no PositioningFrame"
  | .loopCount expression count =>
    s!"loop count '{expression}' is not a finite number ({Decimal.plain count})"
  | .cellSize => "cell sizes must be positive"
  | .wrongRoot => "the root element must be <Layout>"
  | .tooDeep => "rules are nested too deeply"

/-- Why a run stops. -/
inductive FaultCause where
  | wrongNamespace (found : String)
  | version (mismatch : Version.Mismatch)
  /-- The layout rules are not well-formed. -/
  | ruleSyntax
  /-- The data document is not well-formed. -/
  | dataSyntax
  | missingAttribute (element name : String) (line : Nat)
  | invalidAttribute (element name value : String) (fault : AttributeFault)
  /-- The test of a page type yields something else than a truth value. -/
  | malformedTest (pageType found : String)
  | noPageType
  | nestedPageCreation
  | missingRootRule (element : String)
  | expression (text : String) (e : ExprError)
  | rule (element : String) (line : Nat) (issue : RuleIssue)
  | grid (e : GridError Float)
  /-- The side file is malformed. -/
  | sideFileSyntax
  /-- The side file cannot be read or written. -/
  | sideFileAccess
  | fileNotFound (name : String)
  /-- The file is no image. -/
  | image
  | typeset (e : TypesetError)
  | config (e : ConfigFault)
  /-- A source cannot be read or the output cannot be written. -/
  | fileAccess
  deriving Repr

/-- The wording of a cause. -/
def FaultCause.message : FaultCause → String
  | .wrongNamespace found =>
    s!"Layout rules must use the namespace '{Rule.layoutNamespace}', found '{found}'"
  | .version mismatch => mismatch.message
  | .ruleSyntax => "Layout rules are not well-formed XML"
  | .dataSyntax => "Data document is not well-formed XML"
  | .missingAttribute element name line =>
    s!"Element <{element}> (line {line}) requires the attribute '{name}'"
  | .invalidAttribute element name value fault =>
    s!"Invalid value '{value}' for attribute '{name}' of <{element}>: {fault.message}"
  | .malformedTest pageType found =>
    s!"Test of page type '{pageType}' must yield a single boolean, got {found}"
  | .noPageType => "No page type is eligible for the current data"
  | .nestedPageCreation => "Page creation requested while a page is being created"
  | .missingRootRule element => s!"No layout rule matches the root data element <{element}>"
  | .expression text e => s!"Expression '{text}' failed: {e.message}"
  | .rule element line issue => s!"Element <{element}> (line {line}): {issue.message}"
  | .grid e => e.message
  | .sideFileSyntax => "Malformed aux file"
  | .sideFileAccess => "I/O error"
  | .fileNotFound name => s!"File not found: {name}"
  | .image => "Could not read image"
  | .typeset e => e.message
  | .config e => e.message
  | .fileAccess => "I/O error"

/-- A cause, and whether it has been logged. -/
structure Fault where
  cause : FaultCause
  isReported : Bool
  deriving Repr

namespace Fault

/-- A fault that has not been logged. -/
def ofCause (cause : FaultCause) : Fault := ⟨cause, false⟩

/-- The wording of a fault. -/
def message (f : Fault) : String := f.cause.message

/-- The fault that refuses a text as layout rules. -/
def ofRuleFault : RuleFault → Fault
  | .malformed => ofCause .ruleSyntax
  | .wrongNamespace found => ofCause (.wrongNamespace found)
  | .wrongRoot name => ofCause (.rule name 1 .wrongRoot)

end Fault

end PageGrid
