import PageGrid.Command.Values

/-!
# Rules about pages

Page types with their margins and areas, the grid of pages to come, and the end of a page.
-/

namespace PageGrid.Command

/-! ### Page types -/

/-- Margins: those of a shorthand, where single sides override it, over defaults. -/
def marginsOf (rule : Rule) (focus : Focus) (defaults : Margins Float) : Action (Margins Float) := do
  let shorthand ← Attributes.read? rule "value" focus fun value => (readMargins value).mapError .length
  let base := shorthand.getD defaults
  let left := (← Attributes.length? rule "left" focus).getD base.left
  let right := (← Attributes.length? rule "right" focus).getD base.right
  let top := (← Attributes.length? rule "top" focus).getD base.top
  let bottom := (← Attributes.length? rule "bottom" focus).getD base.bottom
  return { top, right, bottom, left }

/-- The frames of an area, one for every child of the right name. -/
def framesOf (focus : Focus) : List Rule → Action (List FrameSpec)
  | [] => return []
  | frame :: rest => do
    if frame.name = "PositioningFrame" then
      let column ← Attributes.cells frame "column" focus
      let row ← Attributes.cells frame "row" focus
      let width ← Attributes.cells frame "width" focus
      let height ← Attributes.cells frame "height" focus
      return { column, row, width, height } :: (← framesOf focus rest)
    else
      Action.warn s!"<{frame.name}> is not allowed in <PositioningArea>, skipped"
      framesOf focus rest

/-- An area, which has at least one frame. -/
def areaOf (rule : Rule) (focus : Focus) : Action AreaDefinition := do
  let name ← Attributes.text rule "name" focus
  let frames ← framesOf focus rule.elements
  if frames.isEmpty then Action.refuse rule (.noFrame name)
  return { name, frames }

/-- The margins and areas of a page type, in which later margins build on earlier ones. -/
def pageTypeParts (focus : Focus) (margins : Margins Float) :
    List Rule → Action (Margins Float × List AreaDefinition)
  | [] => return (margins, [])
  | part :: rest => do
    if part.name = "Margin" then
      pageTypeParts focus (← marginsOf part focus margins) rest
    else if part.name = "PositioningArea" then
      let area ← areaOf part focus
      let (margins, areas) ← pageTypeParts focus margins rest
      return (margins, area :: areas)
    else
      Action.warn s!"<{part.name}> is not allowed in <Pagetype>, skipped"
      pageTypeParts focus margins rest

/-- Declares a page type, whose test must be an expression. -/
def declarePageType (_ : Children) (rule : Rule) (focus : Focus) : Action Items := do
  let name ← Attributes.text rule "name" focus
  let test ← Attributes.expression rule "test"
  let _ ← Action.ofExcept (.expression test) (Expr.parse test)
  let (margins, areas) ← pageTypeParts focus (← Action.layout).margins rule.elements
  Action.modifyLayout fun l => { l with pageTypes := l.pageTypes.register { name, test, margins, areas } }
  return []

/-! ### The grid of pages to come -/

/-- An axis with the cell size, the number of cells and the gap changed that are given. A cell size
drops the number of cells. -/
def changeAxis (a : AxisSettings Float) (cell : Option Float) (count : Option Nat)
    (gap : Option Float) : AxisSettings Float :=
  { cell := cell.getD a.cell
    gap := gap.getD a.gap
    count := count.or (if cell.isSome then none else a.count) }

/-- Sets the grid of pages that are opened from now on. -/
def setGrid (_ : Children) (rule : Rule) (focus : Focus) : Action Items := do
  let width ← Attributes.length? rule "width" focus
  let height ← Attributes.length? rule "height" focus
  let columns ← Attributes.cells? rule "nx" focus
  let rows ← Attributes.cells? rule "ny" focus
  let gapX ← Attributes.length? rule "dx" focus
  let gapY ← Attributes.length? rule "dy" focus
  let settings := (← Action.layout).gridSettings
  let horizontal := changeAxis settings.horizontal width columns gapX
  let vertical := changeAxis settings.vertical height rows gapY
  if horizontal.cell ≤ 0 ∨ vertical.cell ≤ 0 then Action.refuse rule .cellSize
  Action.modifyLayout fun l => { l with gridSettings := ⟨horizontal, vertical⟩ }
  return []

/-! ### The end of a page -/

/-- Finishes the page, or an empty one if none is open. A group has no pages. -/
def newPage (_ : Children) (rule : Rule) (focus : Focus) : Action Items := do
  if (← Action.layout).inGroup then
    Action.warn s!"<{rule.name}> inside a group is ignored (line {rule.line})"
  else
    Action.ensureTarget focus
    Action.finishPage
  return []

end PageGrid.Command
