import PageGrid.Json.Codec
import PageGrid.Marker
import PageGrid.Page

/-!
# Pages as JSON

The JSON form of finished pages, for renderers. A box says what it shows by the member `kind` of its
content. A number that is not finite is written as `null`. The members that may be missing are the
destination of an item and the shift of a marker; a reader does without the colour of a box as well. A path
that is no text cannot be written, and neither can a page with such a path on it, at any depth.

## Main definitions

* `FinishedPage.toJson`, `FinishedPage.ofJson?` — pages as values and back;
* `shipLine`, `shipLines` — pages as text, one line each, with any codec;
* `FinishedPage.read` — the page of a line;
* `jsonLines` — pages as text in the compact layout;
* `Marker.toJson` — markers as values.
-/

namespace PageGrid

open Json (ofFloat ofNat)

/-! ### Writing -/

/-- A size as a value. -/
def Size.toJson (s : Size Float) : Json :=
  .object [("width", ofFloat s.width), ("height", ofFloat s.height)]

/-- A line of text as a value. -/
def TextLine.toJson (l : TextLine Float) : Json :=
  .object [("text", .string l.text), ("baseline", ofFloat l.baseline), ("width", ofFloat l.width)]

/-- A text that may be missing as a value. -/
def optionalString : Option String → Json
  | some s => .string s
  | none => .null

/-- A box of a size with members that tell its content. -/
def boxJson (size : Size Float) (content : List (String × Json)) : Json :=
  .object [("size", size.toJson), ("content", .object content)]

/-- A placed item as a value, given the value of its box. -/
def itemJson (x y : Float) (box : Json) (destination : Option Nat) : Json :=
  .object ([("x", ofFloat x), ("y", ofFloat y), ("box", box)] ++
    (destination.map fun id => ("destination", ofNat id)).toList)

mutual

/-- A box as a value. -/
def ContentBox.toJson : ContentBox Float → Json
  | .text size lines fontSize leading =>
    boxJson size
      [("kind", .string "text"), ("lines", .array (lines.map TextLine.toJson)),
       ("font_size", ofFloat fontSize), ("leading", ofFloat leading)]
  | .image size source => boxJson size [("kind", .string "image"), ("source", optionalString source.toText?)]
  | .filled size color => boxJson size [("kind", .string "filled"), ("color", optionalString color)]
  | .group size name items =>
    boxJson size [("kind", .string "group"), ("name", .string name), ("items", .array (itemsJson items))]

/-- Placed items as values. -/
def itemsJson : List (Placed Float (ContentBox Float)) → List Json
  | [] => []
  | ⟨x, y, box, destination⟩ :: rest => itemJson x y box.toJson destination :: itemsJson rest

end

/-- A finished page as a value. -/
def FinishedPage.toJson (p : FinishedPage Float) : Json :=
  .object
    [("number", ofNat p.number), ("pagetype", .string p.pageType), ("width", ofFloat p.width),
     ("height", ofFloat p.height), ("items", .array (itemsJson p.items))]

mutual

/-- Whether the paths in a box are texts. -/
def ContentBox.pathsAreText : ContentBox Float → Bool
  | .image _ source => source.toText?.isSome
  | .group _ _ items => pathsAreTextIn items
  | _ => true

/-- Whether the paths in the boxes of items are texts. -/
def pathsAreTextIn : List (Placed Float (ContentBox Float)) → Bool
  | [] => true
  | ⟨_, _, box, _⟩ :: rest => box.pathsAreText && pathsAreTextIn rest

end

/-- Whether the paths on a page are texts. -/
def FinishedPage.pathsAreText (p : FinishedPage Float) : Bool := pathsAreTextIn p.items

/-- Pages as text in the compact layout: one line for every page, ended by a line feed. -/
def jsonLines (pages : List (FinishedPage Float)) : String :=
  String.join (pages.map fun p => p.toJson.compact ++ "\n")

/-- A marker as a value. -/
def Marker.toJson (m : Marker) : Json :=
  .object ([("name", .string m.name), ("page", ofNat m.page), ("id", ofNat m.id),
    ("pdftarget", .bool m.isTarget)] ++ (m.shift.map fun x => ("shift", ofFloat x)).toList)

/-! ### Reading -/

namespace PageReader

/-- A member as read by a reader. -/
def field {α : Type} (members : List (String × Json)) (key : String) (reader : Json → Option α) :
    Option α :=
  (Json.member key members).bind reader

/-- The members of an object. -/
def object? : Json → Option (List (String × Json))
  | .object members => some members
  | _ => none

/-- A member that may be missing or null, as read by a reader. -/
def optional? {α : Type} (members : List (String × Json)) (key : String) (reader : Json → Option α) :
    Option (Option α) :=
  match Json.valuesOf key members with
  | [] => some none
  | [.null] => some none
  | [v] => (reader v).map some
  | _ => none

/-- A whole number up to a limit. -/
def natUpTo? (limit : Nat) (v : Json) : Option Nat := v.nat?.filter (· ≤ limit)

/-- A size. -/
def size? (v : Json) : Option (Size Float) := do
  let members ← object? v
  let width ← field members "width" Json.float?
  let height ← field members "height" Json.float?
  return { width, height }

/-- A line of text. -/
def line? (v : Json) : Option (TextLine Float) := do
  let members ← object? v
  let text ← field members "text" Json.string?
  let baseline ← field members "baseline" Json.float?
  let width ← field members "width" Json.float?
  return { text, baseline, width }

/-- An array of values as read by a reader. -/
def array? {α : Type} (reader : Json → Option α) (v : Json) : Option (List α) :=
  v.array?.bind (·.mapM reader)

/-- A placed item, given the reader of boxes. -/
def item? (box : Json → Option (ContentBox Float)) (v : Json) : Option (PlacedItem Float) := do
  let members ← object? v
  let x ← field members "x" Json.float?
  let y ← field members "y" Json.float?
  let box ← field members "box" box
  let destination ← optional? members "destination" (natUpTo? idLimit)
  return { x, y, box, destination }

/-- A box in which fewer than `depth` groups are nested. -/
def box? : Nat → Json → Option (ContentBox Float)
  | 0, _ => none
  | depth + 1, v => do
    let members ← object? v
    let size ← field members "size" size?
    let content ← field members "content" object?
    match ← field content "kind" Json.string? with
    | "text" =>
      let lines ← field content "lines" (array? line?)
      let fontSize ← field content "font_size" Json.float?
      let leading ← field content "leading" Json.float?
      return .text size lines fontSize leading
    | "image" => return .image size (.ofText (← field content "source" Json.string?))
    | "filled" => return .filled size (← optional? content "color" Json.string?)
    | "group" =>
      let name ← field content "name" Json.string?
      let items ← field content "items" (array? (item? (box? depth)))
      return .group size name items
    | _ => none

end PageReader

open PageReader in
/-- The page that a value stands for, in which fewer than `depth` groups are nested. -/
def FinishedPage.ofJson? (depth : Nat) (v : Json) : Option (FinishedPage Float) := do
  let members ← object? v
  let number ← field members "number" (natUpTo? pageLimit)
  let pageType ← field members "pagetype" Json.string?
  let width ← field members "width" Json.float?
  let height ← field members "height" Json.float?
  let items ← field members "items" (array? (item? (box? depth)))
  return { number, pageType, width, height, items }

/-- The page of a line, read with a limit to the nesting of its value or without one. Groups are nested
less deeply than arrays and objects. -/
def FinishedPage.read (codec : Json.Codec) (limit : Option Nat) (line : List Char) :
    Option (FinishedPage Float) :=
  (codec.read limit line).bind fun v => FinishedPage.ofJson? v.nesting v

end PageGrid
