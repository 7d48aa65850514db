/-!
# Files

A run reads its sources, images and side file from a file tree, and leaves the tree with its side file
written. A tree is a finite list of entries under absolute places; a directory exists if it is an entry
or something is below it.

Paths are texts with slashes between components. A path that begins with a slash starts at the root, any
other path at the working directory. A dot or an empty component stays in place, two dots lead up, and
each of them, like any component, needs a directory to start from.

## Main definitions

* `FileTree` — the entries and the working directory;
* `FileTree.resolve` — from a path to a place;
* `FileTree.readText`, `FileTree.write` — the operations on files;
* `FileTree.find?` — the search for a file along directories.
-/

namespace PageGrid

/-- What a file holds. -/
inductive FileContent where
  | text (s : String)
  | bytes (data : List UInt8)
  deriving DecidableEq, Repr

namespace FileContent

/-- The bytes of a file. -/
def toBytes : FileContent → List UInt8
  | .text s => s.toUTF8.toList
  | .bytes data => data

/-- The text of a file, if its bytes are one. -/
def toText? : FileContent → Option String
  | .text s => some s
  | .bytes data => String.fromUTF8? ⟨data.toArray⟩

end FileContent

/-- A file or a directory. -/
inductive FileEntry where
  | file (content : FileContent)
  | directory
  deriving DecidableEq, Repr

/-- A place in a tree: the components of the way from the root. -/
abbrev FilePlace := List String

/-- Files and directories with a working directory. -/
structure FileTree where
  entries : List (FilePlace × FileEntry)
  workingDirectory : FilePlace
  deriving DecidableEq, Repr

/-- Why a file cannot be read. -/
inductive ReadFault where
  /-- There is nothing at the path. -/
  | missing
  /-- There is something else than a text file at the path or on the way. -/
  | unreadable
  deriving DecidableEq, Repr

namespace FilePath

/-- The components of a path. -/
def components (path : String) : List String :=
  (split path.toList).map String.ofList
where
  /-- Cuts a text at every slash. -/
  split : List Char → List (List Char)
  | [] => [[]]
  | c :: cs =>
    if c = '/' then [] :: split cs
    else
      match split cs with
      | [] => [[c]]
      | part :: parts => (c :: part) :: parts

/-- Whether a path starts at the root. -/
def isAbsolute (path : String) : Bool := path.toList.head? == some '/'

/-- A path as seen from a directory; an absolute path stays as it is. -/
def join (directory path : String) : String :=
  if isAbsolute path || directory.isEmpty then path
  else if directory.toList.getLast? == some '/' then directory ++ path
  else directory ++ "/" ++ path

/-- The path of a place. -/
def ofPlace (place : FilePlace) : String := "/" ++ "/".intercalate place

/-- The extension of the last component in lower case: what follows its last dot, unless there is
nothing before the dot. -/
def extension? (path : String) : Option String :=
  match ((components path).filter fun c => c ≠ "" ∧ c ≠ ".").getLast? with
  | none => none
  | some name =>
    let reversed := name.toList.reverse
    match reversed.dropWhile (· != '.') with
    | _ :: _ :: _ =>
      some (String.ofList ((reversed.takeWhile (· != '.')).reverse.map Char.toLower))
    | _ => none

end FilePath

namespace FileTree

/-- The entry at a place. -/
def entry? (t : FileTree) (place : FilePlace) : Option FileEntry :=
  (t.entries.find? fun (p, _) => p = place).map (·.2)

/-- Whether a directory is at the place. -/
def isDirectory (t : FileTree) (place : FilePlace) : Bool :=
  place.isEmpty || t.entries.any fun (p, e) =>
    place.isPrefixOf p && (p.length != place.length || decide (e = .directory))

/-- Whether anything is at the place. -/
def exists? (t : FileTree) (place : FilePlace) : Bool :=
  t.isDirectory place || (t.entry? place).isSome

/-- The place one component further. -/
def enter (t : FileTree) (place : FilePlace) (component : String) : Except ReadFault FilePlace :=
  if !t.exists? place then .error .missing
  else if !t.isDirectory place then .error .unreadable
  else if component = "" ∨ component = "." then .ok place
  else if component = ".." then .ok place.dropLast
  else .ok (place ++ [component])

/-- The place that a path leads to, where there need not be anything. -/
def resolve (t : FileTree) (path : String) : Except ReadFault FilePlace :=
  if path.isEmpty then .error .missing
  else
    (FilePath.components path).foldlM t.enter
      (if FilePath.isAbsolute path then [] else t.workingDirectory)

/-- The file that a path leads to. -/
def content (t : FileTree) (path : String) : Except ReadFault FileContent :=
  match t.resolve path with
  | .error e => .error e
  | .ok place =>
    match t.entry? place with
    | some (.file content) => .ok content
    | _ => .error (if t.isDirectory place then .unreadable else .missing)

/-- The text of the file that a path leads to. -/
def readText (t : FileTree) (path : String) : Except ReadFault String :=
  match t.content path with
  | .error e => .error e
  | .ok c =>
    match c.toText? with
    | some s => .ok s
    | none => .error .unreadable

/-- Whether a path leads to a file. -/
def isFile (t : FileTree) (path : String) : Bool := (t.content path).isOk

/-- The tree with a text file at the path, `none` if there is no directory for it, or if there is a
directory at the path itself. -/
def write (t : FileTree) (path : String) (text : String) : Option FileTree :=
  match t.resolve path with
  | .error _ => none
  | .ok place =>
    if t.isDirectory place then none
    else
      some { t with entries := (place, .file (.text text)) :: t.entries.filter fun (p, _) => p ≠ place }

/-- A file below one of the directories, in their order. An absolute name is its own path; a relative
name must not lead upward, and its answer is the path of the place. -/
def find? (t : FileTree) (directories : List String) (name : String) : Option String :=
  if FilePath.isAbsolute name then (if t.isFile name then some name else none)
  else if (FilePath.components name).contains ".." then none
  else
    directories.findSome? fun directory =>
      let path := FilePath.join directory name
      match t.resolve path with
      | .ok place => if t.isFile path then some (FilePath.ofPlace place) else none
      | .error _ => none

end FileTree

end PageGrid
