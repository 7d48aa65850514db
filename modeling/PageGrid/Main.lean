import PageGrid.CommandLine

/-!
# The program

The outer layer: it loads the files that a run may read, applies `CommandLine.run` to them, and carries
out the effect. Everything that is decided is decided there; what is loaded are bytes and what a run
writes is text, so the files to write are the texts in the tree that the run leaves.
-/

namespace PageGrid.Program

/-- How many directories deep files are looked for. -/
def searchDepth : Nat := 16

/-- The place of a path without dots. -/
def placeOf (path : String) : FilePlace := (FilePath.components path).filter (· ≠ "")

/-- The file at a path, or the directory with what is in it up to a depth. Nothing is loaded of what
cannot be read. -/
def load : Nat → String → IO (List (FilePlace × FileEntry))
  | 0, _ => return []
  | depth + 1, path =>
    try
      let real ← IO.FS.realPath path
      let place := placeOf real.toString
      if ← real.isDir then
        let below ← (← real.readDir).toList.mapM fun entry => load depth entry.path.toString
        return (place, .directory) :: below.flatten
      else
        let data ← IO.FS.readBinFile real
        return [(place, .file (.bytes data.toList))]
    catch _ => return []

/-- The paths that the arguments name. Those without a leading slash or dots are below the working
directory, which is loaded anyway. -/
def namedPaths (o : Options) : List String :=
  [o.layout, o.data] ++ o.config.toList ++ o.searchPaths

/-- The directories that the configuration names. -/
def configuredPaths (files : FileTree) (o : Options) : List String :=
  match CommandLine.job files o with
  | .ok job => job.config.auxDirectory :: job.searchPaths
  | .error _ => []

/-- The files that a run with the given arguments may read. -/
def loadFiles (arguments : List String) : IO FileTree := do
  let here ← IO.currentDir
  let tree (entries : List (FilePlace × FileEntry)) : FileTree := ⟨entries, placeOf here.toString⟩
  match CommandLine.parse arguments with
  | .error _ => return tree []
  | .ok o =>
    let named ← ("." :: namedPaths o).mapM (load searchDepth)
    let configured ← (configuredPaths (tree named.flatten) o).mapM (load searchDepth)
    return tree (named.flatten ++ configured.flatten)

/-- Writes the texts of a tree. -/
def saveTexts (files : FileTree) : IO Unit :=
  files.entries.forM fun
    | (place, .file (.text text)) => IO.FS.writeFile (FilePath.ofPlace place) text
    | _ => return ()

/-- The line of a log entry. -/
def logLine (entry : LogEntry) : String :=
  match entry.level with
  | .info => s!"[INFO] {entry.text}"
  | .warning => s!"[WARN] {entry.text}"
  | .error => s!"[ERROR] {entry.text}"

/-- Carries out the effect of a run. -/
def perform (effect : CommandLine.Effect) : IO UInt32 := do
  for entry in effect.log do
    IO.eprintln (logLine entry)
  for line in effect.errors do
    IO.eprintln line
  saveTexts effect.files
  IO.print effect.output
  return UInt32.ofNat effect.exitCode

end PageGrid.Program

/-- One run with the given arguments. -/
def main (arguments : List String) : IO UInt32 := do
  let files ← PageGrid.Program.loadFiles arguments
  PageGrid.Program.perform (PageGrid.CommandLine.run files arguments)
