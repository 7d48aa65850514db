import PageGrid.Expr.Evaluation
import PageGrid.Expr.Parser
import PageGrid.Fault
import PageGrid.Files
import PageGrid.Item
import PageGrid.Layout.Functions
import PageGrid.Scopes
import PageGrid.Template

/-!
# Sessions

Rules act on a session: the layout, the variables and the log. They see a setting that does not change:
the data document, the files, how text is set, and where finished pages go. An action can stop with a
fault; what it has done to the session until then stays.

## Main definitions

* `Setting`, `Session` — what actions see and change;
* `Action` — actions;
* `Action.evaluate`, `expand` — expressions and templates about a data node;
* `Action.finishPage` — hands out the open page;
* `Action.ensureTarget` — opens a page if there is nothing that content can go to;
* `Action.reporting` — logs the fault of an action unless it is logged already.
-/

namespace PageGrid

/-- What actions see. -/
structure Setting where
  data : Xml.Document
  files : FileTree
  /-- The directories in which images are looked up. -/
  searchPaths : List String
  /-- The width of a glyph as a fraction of the font size. -/
  advance : Float
  format : TextFormat
  /-- Where finished pages go. -/
  sink : PageSink := .memory

/-- What actions change. -/
structure Session where
  layout : Layout
  scopes : Scopes
  /-- The log, the latest entry first. -/
  log : List LogEntry

namespace Session

/-- A session at the start of a layout. -/
def start (layout : Layout) : Session := ⟨layout, .empty, []⟩

/-- The session with more entries in the log, given in their order. -/
def logging (s : Session) (entries : List LogEntry) : Session :=
  { s with log := entries.reverse ++ s.log }

/-- The log in its order. -/
def entries (s : Session) : List LogEntry := s.log.reverse

end Session

/-- An action on a session. -/
abbrev Action := ReaderT Setting (ExceptT Fault (StateM Session))

namespace Action

/-- Runs an action. -/
def runWith {α : Type} (x : Action α) (setting : Setting) (s : Session) : Except Fault α × Session :=
  x setting s

/-- Stops for a cause. -/
def stop {α : Type} (cause : FaultCause) : Action α := throw (.ofCause cause)

/-- Stops because a rule cannot do something. -/
def refuse {α : Type} (rule : Rule) (issue : RuleIssue) : Action α :=
  stop (.rule rule.name rule.line issue)

/-- The layout. -/
def layout : Action Layout := return (← get).layout

/-- Changes the layout. -/
def setLayout (l : Layout) : Action Unit := modify fun s => { s with layout := l }

/-- Changes the layout by a function. -/
def modifyLayout (f : Layout → Layout) : Action Unit := modify fun s => { s with layout := f s.layout }

/-- Changes the variables. -/
def modifyScopes (f : Scopes → Scopes) : Action Unit := modify fun s => { s with scopes := f s.scopes }

/-- Adds entries to the log. -/
def log (entries : List LogEntry) : Action Unit := modify (·.logging entries)

/-- Adds a warning to the log. -/
def warn (text : String) : Action Unit := log [.warning text]

/-- The value of an outcome; an error stops the action. -/
def ofExcept {ε α : Type} (cause : ε → FaultCause) : Except ε α → Action α
  | .ok a => return a
  | .error e => stop (cause e)

/-- An action that runs a second one after the first, whether or not the first stops. -/
def followedBy {α : Type} (x : Action α) (after : Action Unit) : Action α := fun setting s =>
  match x setting s with
  | (.ok a, s) =>
    match after setting s with
    | (.ok _, s) => (.ok a, s)
    | (.error e, s) => (.error e, s)
  | (.error e, s) => (.error e, (after setting s).2)

/-- An action whose fault is logged with the place where it arose, unless it is logged already. -/
def reporting {α : Type} (place : String) (x : Action α) : Action α := fun setting s =>
  match x setting s with
  | (.ok a, s) => (.ok a, s)
  | (.error e, s) =>
    if e.isReported then (.error e, s)
    else
      let text := if place.isEmpty then e.message else s!"{place}: {e.message}"
      (.error { e with isReported := true }, s.logging [.error text])

/-! ### Expressions -/

/-- What expressions about a data node see. -/
def context (focus : Focus) : Action Context := do
  let d := (← read).data
  let s ← get
  return { focus with
    document := d
    bindings := s.scopes.lookup?
    extension := fun _ => s.layout.extension d }

/-- Evaluates something that may leave remarks. -/
def noted {ε α : Type} (cause : ε → FaultCause) (x : Noted ε α) : Action α := do
  log x.notices
  ofExcept cause x.outcome

/-- The value of an expression. -/
def evaluate (text : String) (focus : Focus) : Action Value := do
  let e ← ofExcept (.expression text) (Expr.parse text)
  noted (.expression text) (e.eval (← context focus))

/-- The text of a value. -/
def textOf (v : Value) : Action String := return v.toText (← read).data

/-- The text of a template. -/
def expand (text : String) (focus : Focus) : Action String := do
  let template ← ofExcept (.expression text) (Template.parse text)
  noted (.expression text) (template.eval (← context focus))

/-! ### Pages and grids -/

/-- Whether the test of a page type holds for the data. -/
def isEligible (focus : Focus) (type : PageType Float) : Action Bool := do
  match ← evaluate type.test focus with
  | .boolean b => return b
  | v => stop (.malformedTest type.name v.describe)

/-- The latest page type whose test holds for the data. -/
def selectPageType (focus : Focus) : Action (PageType Float) := do
  match ← (← layout).pageTypes.select (isEligible focus) with
  | some type => return type
  | none => stop .noPageType

/-- Hands the open page, if there is one, to the sink, and stops if the page is refused. -/
def finishPage : Action Unit := do
  let (taken, l) := (← layout).shipPage (← read).sink
  setLayout l
  unless taken do stop .fileAccess

/-- Opens a page of a type, once the open one has been taken. -/
def installPage (type : PageType Float) : Action Unit := do
  finishPage
  let l ← ofExcept .grid ((← layout).openPage type)
  setLayout l
  log l.pageNotice

/-- Begins the creation of a page, which must not happen within the creation of a page. -/
def beginPage : Action Unit := do
  if (← layout).creating then stop .nestedPageCreation
  modifyLayout fun l => { l with creating := true }

/-- Ends the creation of a page. -/
def endPage : Action Unit := modifyLayout fun l => { l with creating := false }

/-- Opens a page of the type that the data selects, unless there is a page or a group already. -/
def ensureTarget (focus : Focus) : Action Unit := do
  unless (← layout).hasTarget do
    beginPage
    followedBy (do installPage (← selectPageType focus)) endPage

/-- The grid that content goes to. -/
def targetGrid (rule : Rule) : Action (Grid Float) := do
  match (← layout).targetGrid? with
  | some grid => return grid
  | none => refuse rule .noTarget

/-- Changes the grid that content goes to. -/
def setTargetGrid (grid : Grid Float) : Action Unit := modifyLayout (·.setTargetGrid grid)

end Action

end PageGrid
