import PageGrid.Job

/-!
# The command line

The options of the program, and what it does with them: one run of a job whose sources are files. The
run is a function from the files there are to the files, the output and the exit code.

## Main definitions

* `Options`, `CommandLine.parse` — the options and how they are read;
* `CommandLine.run` — the effect of the program.
-/

namespace PageGrid

/-- The options of the program. -/
structure Options where
  layout : String
  data : String
  jobName : Option String
  config : Option String
  output : Option String
  searchPaths : List String
  noAux : Bool
  lenient : Bool
  ignoreVersion : Bool
  verbose : Bool
  deriving DecidableEq, Repr

namespace CommandLine

/-- An option as written. -/
inductive Item where
  /-- An option with a value, by its long name. -/
  | valued (name value : String)
  /-- An option without a value, by its long name. -/
  | flag (name : String)
  deriving DecidableEq, Repr

/-- What stops the reading of arguments. -/
inductive Stop where
  /-- The arguments are wrong. -/
  | usage
  | help
  | version
  deriving DecidableEq, Repr

/-- The options with a path as their value, which must not be empty. -/
def pathOptions : List String := ["layout", "data", "config", "output", "search-path"]

/-- The options with a value. -/
def valuedOptions : List String := "jobname" :: pathOptions

/-- The options without a value. -/
def flagOptions : List String := ["no-aux", "lenient", "ignore-version", "verbose"]

/-- An option with a value, unless the value is empty and must not be. -/
def valuedItem (name value : String) : Except Stop Item :=
  if value.isEmpty ∧ name ∈ pathOptions then .error .usage else .ok (.valued name value)

/-- Whether an argument can be the value of the option before it. -/
def isValue (argument : String) : Bool :=
  argument.toList.head? != some '-' || argument == "-"

/-- Whether a name with its arguments so far may come once more. -/
def isRepeatable (name : String) : Bool := name == "search-path"

/-- Reads a cluster of short options, and a value after it if the last one needs it. -/
def shortItems : List Char → List String → Except Stop (List Item × List String)
  | [], rest => .ok ([], rest)
  | 'h' :: _, _ => .error .help
  | 'V' :: _, _ => .error .version
  | 'v' :: more, rest => do
    let (items, rest) ← shortItems more rest
    return (.flag "verbose" :: items, rest)
  | 'o' :: more, rest => do
    match more, rest with
    | '=' :: value, rest => return ([← valuedItem "output" (String.ofList value)], rest)
    | c :: value, rest => return ([← valuedItem "output" (String.ofList (c :: value))], rest)
    | [], value :: rest =>
      if isValue value then return ([← valuedItem "output" value], rest) else throw .usage
    | [], [] => throw .usage
  | _, _ => .error .usage

/-- Reads a long option, and a value after it if it needs one. -/
def longItem (body : List Char) (rest : List String) : Except Stop (Item × List String) :=
  let name := String.ofList (body.takeWhile (· != '='))
  match body.dropWhile (· != '=') with
  | _ :: value =>
    if name ∈ valuedOptions then (valuedItem name (String.ofList value)).map (·, rest)
    else .error .usage
  | [] =>
    if name = "help" then .error .help
    else if name = "version" then .error .version
    else if name ∈ flagOptions then .ok (.flag name, rest)
    else if name ∈ valuedOptions then
      match rest with
      | value :: rest =>
        if isValue value then (valuedItem name value).map (·, rest) else .error .usage
      | [] => .error .usage
    else .error .usage

/-- The options of at most `fuel` arguments. -/
def items : Nat → List String → Except Stop (List Item)
  | _, [] => .ok []
  | 0, _ => .error .usage
  | fuel + 1, argument :: rest =>
    match argument.toList with
    | '-' :: '-' :: c :: body => do
      let (item, rest) ← longItem (c :: body) rest
      return item :: (← items fuel rest)
    | '-' :: c :: body =>
      if c = '-' then .error .usage
      else do
        let (found, rest) ← shortItems (c :: body) rest
        return found ++ (← items fuel rest)
    | _ => .error .usage

/-- The name of an option. -/
def Item.name : Item → String
  | .valued name _ => name
  | .flag name => name

/-- The values of an option. -/
def values (found : List Item) (name : String) : List String :=
  found.filterMap fun
    | .valued n value => if n = name then some value else none
    | .flag _ => none

/-- The options that arguments stand for. An option comes at most once, except for search paths. -/
def parse (arguments : List String) : Except Stop Options := do
  let found ← items arguments.length arguments
  let single := (found.map Item.name).filter (!isRepeatable ·)
  if single.eraseDups.length ≠ single.length then throw .usage
  match (values found "layout").head?, (values found "data").head? with
  | some layout, some data =>
    return {
      layout, data
      jobName := (values found "jobname").head?
      config := (values found "config").head?
      output := (values found "output").head?
      searchPaths := values found "search-path"
      noAux := found.contains (.flag "no-aux")
      lenient := found.contains (.flag "lenient")
      ignoreVersion := found.contains (.flag "ignore-version")
      verbose := found.contains (.flag "verbose") }
  | _, _ => throw .usage

/-- What the program leaves behind. -/
structure Effect where
  exitCode : Nat
  output : String
  /-- The lines about a fault that the log does not tell. -/
  errors : List String
  log : List LogEntry
  files : FileTree

/-- The configuration with the changes of the options. -/
def configured (o : Options) (c : Config) : Config :=
  { c with
    jobName := o.jobName.getD c.jobName
    searchPaths := c.searchPaths ++ o.searchPaths
    writeAux := c.writeAux && !o.noAux
    strictReferences := c.strictReferences && !o.lenient
    ignoreVersion := c.ignoreVersion || o.ignoreVersion }

/-- The job that the options describe. -/
def job (files : FileTree) (o : Options) : Except ConfigFault Job := do
  let c ← match o.config with
    | some path => Config.ofFile files path
    | none => pure {}
  ({ config := configured o c } : JobBuilder).build

/-- The effect of a fault that is not logged. -/
def failure (message : String) (log : List LogEntry) (files : FileTree) : Effect :=
  { exitCode := 1, output := "", errors := [s!"Error: {message}"], log, files }

/-- The effect of a run that succeeds: its text goes to a file or is the output. -/
def delivered (o : Options) (outcome : RunOutcome) (summary : RunSummary) : Effect :=
  let text := RunOutcome.json outcome.pages summary
  match o.output with
  | none =>
    { exitCode := 0, output := text ++ "\n", errors := [], log := outcome.log, files := outcome.files }
  | some path =>
    match outcome.files.write path text with
    | none => failure FaultCause.fileAccess.message outcome.log outcome.files
    | some files =>
      { exitCode := 0, output := "", errors := [], files
        log := outcome.log ++ [.info s!"Wrote {summary.lastPage} page(s) to {path}"] }

/-- The effect of the program with the given options. -/
def runWith (files : FileTree) (o : Options) : Effect :=
  match job files o with
  | .error fault => failure fault.message [] files
  | .ok job =>
    match files.readText o.layout, files.readText o.data with
    | .ok layout, .ok data =>
      let outcome := job.run files 0 layout data
      match outcome.result with
      | .ok summary => delivered o outcome summary
      | .error _ =>
        { exitCode := 1, output := "", errors := [], log := outcome.log, files := outcome.files }
    | _, _ => failure FaultCause.fileAccess.message [] files

/-- How the program is called. -/
def usage : String :=
  "Usage: gridpress [OPTIONS] --layout <LAYOUT> --data <DATA>\n"

/-- The effect of the program with the given arguments. -/
def run (files : FileTree) (arguments : List String) : Effect :=
  let done (exitCode : Nat) (output : String) (errors : List String) : Effect :=
    { exitCode, output, errors, log := [], files }
  match parse arguments with
  | .ok o => runWith files o
  | .error .usage => done 2 "" [usage]
  | .error .help => done 0 usage []
  | .error .version => done 0 s!"gridpress {Version.engine}\n" []

end CommandLine

end PageGrid
