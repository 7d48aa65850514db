import PageGrid.Files
import PageGrid.Grid.Basic
import PageGrid.Json.Parser
import PageGrid.Typeset

/-!
# Configurations

The settings of a job: its name, where its side file goes, the page with its grid, text, and how strict
the run is. A configuration is read from JSON, either as an object, where missing members keep their
defaults and unknown ones are ignored, or as an array with the settings in the order of the structure.

## Main definitions

* `Config` — the settings with their defaults;
* `Config.parse` — the configuration that a JSON text stands for;
* `Config.toJson` — the object with all settings;
* `Config.check` — what makes layout impossible;
* `ConfigFault` — why a configuration is refused.
-/

namespace PageGrid

/-- The size of pages. -/
inductive PageSize where
  | a4
  | letter
  | legal
  | custom (width height : Float)
  deriving Repr

namespace PageSize

/-- The size in points. -/
def dimensions : PageSize → Size Float
  | .a4 => ⟨595.276, 841.89⟩
  | .letter => ⟨612, 792⟩
  | .legal => ⟨612, 1008⟩
  | .custom width height => ⟨width, height⟩

/-- The sizes with a name. -/
def named : List (String × PageSize) := [("a4", .a4), ("letter", .letter), ("legal", .legal)]

/-- The named size of a text. -/
def ofName? (name : String) : Option PageSize := (named.find? fun (n, _) => n = name).map (·.2)

end PageSize

/-- One centimetre in points. -/
def centimetre : Float := 72 / 2.54

/-- The settings of a job. -/
structure Config where
  /-- The base name of the side file. -/
  jobName : String := "gridpress"
  /-- The directory of the side file. -/
  auxDirectory : String := "."
  writeAux : Bool := true
  pageSize : PageSize := .a4
  margins : Margins Float := .all centimetre
  cellWidth : Float := centimetre
  cellHeight : Float := centimetre
  gapX : Float := 0
  gapY : Float := 0
  fontSize : Float := 10
  leading : Float := 12
  /-- The width of a glyph as a fraction of the font size. -/
  glyphAdvance : Float := 0.5
  /-- The directories in which images are looked up. -/
  searchPaths : List String := ["."]
  /-- Whether a reference to an unknown marker stops the run. -/
  strictReferences : Bool := true
  ignoreVersion : Bool := false
  deriving Repr

/-- Why a configuration is refused. -/
inductive ConfigFault where
  /-- The text is no JSON, or a setting has a value of another type. -/
  | malformed
  | notPositive (setting : String) (value : Float)
  | negativeGap
  | emptyJobName
  /-- The file of the configuration cannot be read. -/
  | unreadable
  deriving Repr

/-- The wording of a refusal. -/
def ConfigFault.message : ConfigFault → String
  | .malformed => "JSON error"
  | .notPositive setting value =>
    s!"Invalid configuration: {setting} must be positive, got {Decimal.plain value}"
  | .negativeGap => "Invalid configuration: grid gaps must not be negative"
  | .emptyJobName => "Invalid configuration: jobname must not be empty"
  | .unreadable => "Invalid configuration: cannot read"

namespace Config

/-! ### Reading -/

/-- The values of required members, in the order of their keys; other members are ignored. -/
def requiredMembers (keys : List String) : Json → Option (List Json)
  | .object members => keys.mapM fun key => Json.member key members
  | .array items => if items.length = keys.length then some items else none
  | _ => none

/-- Four margins. -/
def readMargins (v : Json) : Option (Margins Float) := do
  match ← (← requiredMembers ["top", "right", "bottom", "left"] v).mapM Json.float? with
  | [top, right, bottom, left] => return ⟨top, right, bottom, left⟩
  | _ => none

/-- A page size: a name, or an object whose only member tells the kind of size. -/
def readPageSize : Json → Option PageSize
  | .string name => PageSize.ofName? name
  | .object [("custom", v)] => do
    match ← (← requiredMembers ["width", "height"] v).mapM Json.float? with
    | [width, height] => return .custom width height
    | _ => none
  | .object [(name, .null)] => PageSize.ofName? name
  | _ => none

/-- A list of texts. -/
def readTexts (v : Json) : Option (List String) := v.array?.bind (·.mapM Json.string?)

/-- The settings in their order, each with its name and the change that a value makes. -/
def settings : List (String × (Json → Config → Option Config)) :=
  [ ("jobname", fun v c => v.string?.map fun x => { c with jobName := x }),
    ("aux_dir", fun v c => v.string?.map fun x => { c with auxDirectory := x }),
    ("write_aux", fun v c => v.bool?.map fun x => { c with writeAux := x }),
    ("page_size", fun v c => (readPageSize v).map fun x => { c with pageSize := x }),
    ("margins", fun v c => (readMargins v).map fun x => { c with margins := x }),
    ("cell_width", fun v c => v.float?.map fun x => { c with cellWidth := x }),
    ("cell_height", fun v c => v.float?.map fun x => { c with cellHeight := x }),
    ("gap_x", fun v c => v.float?.map fun x => { c with gapX := x }),
    ("gap_y", fun v c => v.float?.map fun x => { c with gapY := x }),
    ("font_size", fun v c => v.float?.map fun x => { c with fontSize := x }),
    ("leading", fun v c => v.float?.map fun x => { c with leading := x }),
    ("glyph_advance", fun v c => v.float?.map fun x => { c with glyphAdvance := x }),
    ("search_paths", fun v c => (readTexts v).map fun x => { c with searchPaths := x }),
    ("strict_references", fun v c => v.bool?.map fun x => { c with strictReferences := x }),
    ("ignore_version", fun v c => v.bool?.map fun x => { c with ignoreVersion := x }) ]

/-- The configuration with the settings of an object. A setting must not occur twice. -/
def applyMembers (members : List (String × Json)) (c : Config) : Option Config :=
  settings.foldlM (fun c (name, change) =>
    match Json.valuesOf name members with
    | [] => some c
    | [v] => change v c
    | _ => none) c

/-- The configuration with the settings of an array. -/
def applyItems (items : List Json) (c : Config) : Option Config :=
  if settings.length < items.length then none
  else (settings.zip items).foldlM (fun c ((_, change), v) => change v c) c

/-- The configuration that a JSON value stands for. -/
def ofJson? : Json → Option Config
  | .object members => applyMembers members {}
  | .array items => applyItems items {}
  | _ => none

/-! ### Writing -/

/-- A page size as a value. -/
def pageSizeJson : PageSize → Json
  | .a4 => .string "a4"
  | .letter => .string "letter"
  | .legal => .string "legal"
  | .custom width height =>
    .object [("custom", .object [("width", .ofFloat width), ("height", .ofFloat height)])]

/-- Margins as a value. -/
def marginsJson (m : Margins Float) : Json :=
  .object
    [("top", .ofFloat m.top), ("right", .ofFloat m.right), ("bottom", .ofFloat m.bottom),
     ("left", .ofFloat m.left)]

/-- The configuration as an object with all settings. -/
def toJson (c : Config) : Json :=
  .object
    [("jobname", .string c.jobName), ("aux_dir", .string c.auxDirectory),
     ("write_aux", .bool c.writeAux), ("page_size", pageSizeJson c.pageSize),
     ("margins", marginsJson c.margins), ("cell_width", .ofFloat c.cellWidth),
     ("cell_height", .ofFloat c.cellHeight), ("gap_x", .ofFloat c.gapX),
     ("gap_y", .ofFloat c.gapY), ("font_size", .ofFloat c.fontSize),
     ("leading", .ofFloat c.leading), ("glyph_advance", .ofFloat c.glyphAdvance),
     ("search_paths", .array (c.searchPaths.map .string)),
     ("strict_references", .bool c.strictReferences), ("ignore_version", .bool c.ignoreVersion)]

/-! ### Checking -/

/-- The settings that must be positive. -/
def positive (c : Config) : List (String × Float) :=
  [("cell_width", c.cellWidth), ("cell_height", c.cellHeight), ("font_size", c.fontSize),
   ("leading", c.leading), ("glyph_advance", c.glyphAdvance)]

/-- Refuses a configuration with which layout is impossible. -/
def check (c : Config) : Except ConfigFault Unit :=
  match c.positive.find? fun (_, value) => value ≤ 0 || !Decimal.isFinite value with
  | some (setting, value) => .error (.notPositive setting value)
  | none =>
    if c.gapX < 0 ∨ c.gapY < 0 then .error .negativeGap
    else if (Text.trimChars c.jobName.toList).isEmpty then .error .emptyJobName
    else .ok ()

/-- The configuration that a JSON text stands for, if it makes layout possible. -/
def parse (json : String) : Except ConfigFault Config := do
  match (Json.parse json).bind ofJson? with
  | some c =>
    check c
    return c
  | none => throw .malformed

/-- The configuration that the file at a path stands for. -/
def ofFile (files : FileTree) (path : String) : Except ConfigFault Config :=
  match files.readText path with
  | .ok json => parse json
  | .error _ => .error .unreadable

/-! ### Derived settings -/

/-- The grid of pages. -/
def gridSettings (c : Config) : GridSettings Float :=
  ⟨⟨c.cellWidth, c.gapX, none⟩, ⟨c.cellHeight, c.gapY, none⟩⟩

/-- The format of text. -/
def textFormat (c : Config) : TextFormat := ⟨c.fontSize, c.leading⟩

/-- The path of the side file. -/
def auxFile (c : Config) : String := FilePath.join c.auxDirectory (c.jobName ++ "-aux.xml")

end Config

end PageGrid
