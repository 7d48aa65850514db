import PageGrid.Command.Values
import PageGrid.ImageFile
import PageGrid.Sizing

/-!
# Rules that make boxes

Blocks of text, images and filled rectangles. Sizes are lengths or numbers of cells; the grid is asked,
and a page opened for it, only if a size is in cells or a block of text has no width of its own.
-/

namespace PageGrid.Command

/-- The text format of a rule: a font size alone scales the leading along. -/
def textFormat (base : TextFormat) : Option Float → Option Float → TextFormat
  | none, none => base
  | some size, none => ⟨size, size * base.leading / base.fontSize⟩
  | size, some leading => ⟨size.getD base.fontSize, leading⟩

/-- The width of a block of text without a width of its own: the width of the page area. -/
def defaultWidth (rule : Rule) (focus : Focus) : Action Float := do
  Action.ensureTarget focus
  let grid ← Action.targetGrid rule
  return grid.horizontal.span (← Action.ofExcept .grid (grid.frameWidth pageArea))

/-- Sets the paragraphs of the rules below into a box. -/
def textblock (children : Children) (rule : Rule) (focus : Focus) : Action Items := do
  let fontSize ← Attributes.length? rule "fontsize" focus
  let leading ← Attributes.length? rule "leading" focus
  let setting ← read
  let format := textFormat setting.format fontSize leading
  let items ← children rule focus
  Action.log items.boxNotices
  let width ← match ← Attributes.lengths rule focus [("width", .horizontal)] with
    | some width :: _ => pure width
    | _ => defaultWidth rule focus
  let box ← Action.ofExcept .typeset
    (setText setting.advance (items.paragraphs setting.data) width format)
  return [.box box]

/-- The path and the natural size of an image. A file is needed only if a side of the natural size is
not given. -/
def imageSource (file : String) (width height : Option Float) :
    Action (String × Size Float) := do
  let setting ← read
  let found := setting.files.find? setting.searchPaths file
  match width, height with
  | some w, some h => return (found.getD file, ⟨w, h⟩)
  | _, _ =>
    match found with
    | none => Action.stop (.fileNotFound file)
    | some path =>
      match ImageFile.size? setting.files path ImageFile.pointResolution with
      | none => Action.stop .image
      | some size => return (path, ⟨width.getD size.width, height.getD size.height⟩)

/-- An image of the size that its natural size and the bounds of the rule give. -/
def image (_ : Children) (rule : Rule) (focus : Focus) : Action Items := do
  let file ← Attributes.text rule "file" focus
  let naturalWidth ← Attributes.length? rule "naturalwidth" focus
  let naturalHeight ← Attributes.length? rule "naturalheight" focus
  let (source, natural) ← imageSource file naturalWidth naturalHeight
  let sides ← Attributes.lengths rule focus
    [("width", .horizontal), ("height", .vertical), ("minwidth", .horizontal),
     ("maxwidth", .horizontal), ("minheight", .vertical), ("maxheight", .vertical)]
  let side (i : Nat) : Option Float := (sides[i]?).join
  let stretch ← Attributes.flag rule "stretch" focus false
  let request : SizeRequest Float :=
    { natural, stretch
      width := side 0
      height := side 1
      minWidth := (side 2).getD 0
      maxWidth := side 3
      minHeight := (side 4).getD 0
      maxHeight := side 5 }
  return [.box (.image request.resolve (.ofText source))]

/-- A filled rectangle. -/
def filledBox (_ : Children) (rule : Rule) (focus : Focus) : Action Items := do
  let color ← Attributes.text? rule "background" focus
  match ← Attributes.lengths rule focus [("width", .horizontal), ("height", .vertical)] with
  | [some width, some height] => return [.box (.filled ⟨width, height⟩ color)]
  | some _ :: _ => Attributes.missing rule "height"
  | _ => Attributes.missing rule "width"

end PageGrid.Command
