import PageGrid.Interpreter
import PageGrid.JobFile
import PageGrid.Page.Json

/-!
# Jobs

A job applies layout rules to a data document: the rules below the root are applied to the root element
of the data, then the rule that they have recorded for that element. A job begins with what its previous
run has left in the side file and ends with leaving the same for the next run. Only a run that succeeds
writes the file.

## Main definitions

* `JobBuilder`, `Job` — a configuration with changes, and the checked result;
* `Job.run` — the run of a job;
* `RunOutcome` — what a run yields.
-/

namespace PageGrid

/-- A job that can run. -/
structure Job where
  config : Config
  /-- The width of a glyph as a fraction of the font size. -/
  advance : Float
  /-- The directories in which images are looked up. -/
  searchPaths : List String

/-- A configuration with changes to how text is set and where images are looked up. -/
structure JobBuilder where
  config : Config := {}
  advance : Option Float := none
  searchPaths : Option (List String) := none

/-- The job of a builder, if its configuration makes layout possible. -/
def JobBuilder.build (b : JobBuilder) : Except ConfigFault Job :=
  b.config.check.map fun _ =>
    { config := b.config
      advance := b.advance.getD b.config.glyphAdvance
      searchPaths := b.searchPaths.getD b.config.searchPaths }

/-- What a run that succeeds leaves behind. -/
structure RunSummary where
  markers : List Marker
  lastPage : Nat

/-- What a run yields. -/
structure RunOutcome where
  result : Except Fault RunSummary
  /-- The finished pages that have been taken, also those of a run that fails. -/
  pages : List (FinishedPage Float)
  log : List LogEntry
  files : FileTree
  /-- The number of the next marker. -/
  nextId : Nat

namespace RunOutcome

/-- The outcome of a run that stops for a fault, which is logged unless it has been. -/
def failed (fault : Fault) (pages : List (FinishedPage Float)) (log : List LogEntry)
    (files : FileTree) (nextId : Nat) : RunOutcome :=
  { result := .error { fault with isReported := true }
    pages, files, nextId
    log := if fault.isReported then log else log ++ [.error fault.message] }

/-- Pages and markers of a run as JSON text over several lines. -/
def json (pages : List (FinishedPage Float)) (summary : RunSummary) : String :=
  (Json.object
    [("pages", .array (pages.map FinishedPage.toJson)),
     ("markers", .array (summary.markers.map Marker.toJson)),
     ("last_page", Json.ofNat summary.lastPage)]).pretty

end RunOutcome

namespace Job

/-- What the previous run has left in the side file, `none` if there is no file. -/
def previousRecord (files : FileTree) (path : String) : Except Fault (Option JobRecord) :=
  match files.readText path with
  | .error .missing => .ok none
  | .error .unreadable => .error (.ofCause .sideFileAccess)
  | .ok text =>
    match JobRecord.parse text with
    | some record => .ok (some record)
    | none => .error (.ofCause .sideFileSyntax)

/-- What is reported about the previous run. -/
def previousNotice (path : String) (previous : Option JobRecord) : List LogEntry :=
  previous.toList.map fun record =>
    .info s!"Loaded {record.markers.length} marker(s) from previous run ({path})"

/-- The layout rules, which must not need a greater version of the engine, and the data document. -/
def sources (c : Config) (layout data : String) : Except Fault (Rule × Xml.Document) := do
  let rules ← (Rule.compile layout).mapError Fault.ofRuleFault
  match rules.attribute? "version" with
  | some required =>
    unless c.ignoreVersion do
      (Version.check required Version.engine).mapError fun m => Fault.ofCause (.version m)
  | none => pure ()
  match Xml.Document.parse data with
  | some d => return (rules, d)
  | none => throw (.ofCause .dataSyntax)

/-- Applies the rules below the root to the root element of the data, then the rule recorded for it, and
finishes the last page. -/
def program (depth : Nat) (rules : Rule) (rootName : String) : Action Unit := do
  let focus := Focus.single Xml.Document.rootElement
  let _ ← Interpreter.executeChildren depth rules focus
  match (← Action.layout).patterns.lookup? rootName "" with
  | none => Action.stop (.missingRootRule rootName)
  | some recorded =>
    let _ ← Interpreter.executeChildren depth recorded focus
    Action.finishPage

/-- The layout at the start of a run. -/
def startLayout (c : Config) (previous : Option JobRecord) (nextId : Nat) : Layout :=
  Layout.start c.pageSize.dimensions c.margins c.gridSettings (.start previous) c.strictReferences
    nextId

/-- The setting of a run. -/
def setting (job : Job) (files : FileTree) (data : Xml.Document) (sink : PageSink := .memory) : Setting :=
  { data, files, sink
    searchPaths := job.searchPaths
    advance := job.advance
    format := job.config.textFormat }

/-- What is reported about a run that succeeds. -/
def finishNotice (c : Config) (summary : RunSummary) : LogEntry :=
  .info (s!"Run '{c.jobName}' finished: {summary.lastPage} page(s), " ++
    s!"{summary.markers.length} marker(s)")

/-- The files after a run that has laid out everything, `none` if the side file cannot be written. -/
def save (c : Config) (files : FileTree) (l : Layout) : Option FileTree :=
  if c.writeAux then files.write c.auxFile (l.references.record l.pageCount).render else some files

/-- The run of a job with rules nested at most `depth` levels deep. Markers are numbered from
`nextId`. The pages are kept in memory unless they go to another sink. -/
def runWithin (depth : Nat) (job : Job) (files : FileTree) (nextId : Nat) (layout data : String)
    (sink : PageSink := .memory) : RunOutcome :=
  let c := job.config
  match previousRecord files c.auxFile with
  | .error fault => .failed fault [] [] files nextId
  | .ok previous =>
    let notices := previousNotice c.auxFile previous
    match sources c layout data with
    | .error fault => .failed fault [] notices files nextId
    | .ok (rules, data) =>
      let start := (Session.start (startLayout c previous nextId)).logging notices
      let (result, s) :=
        (program depth rules data.root.name).runWith (job.setting files data sink) start
      let l := s.layout
      match result with
      | .error fault => .failed fault l.finished s.entries files l.nextId
      | .ok _ =>
        match save c files l with
        | none => .failed (.ofCause .sideFileAccess) l.finished s.entries files l.nextId
        | some files =>
          let summary : RunSummary := ⟨l.references.current, l.pageCount⟩
          { result := .ok summary
            pages := l.finished
            log := s.entries ++ [finishNotice c summary]
            files
            nextId := l.nextId }

/-- The run of a job with its pages kept in memory. -/
def run (job : Job) (files : FileTree) (nextId : Nat) (layout data : String) : RunOutcome :=
  job.runWithin Interpreter.depthLimit files nextId layout data

end Job

end PageGrid
