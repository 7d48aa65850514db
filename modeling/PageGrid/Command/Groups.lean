import PageGrid.Command.Values

/-!
# Rules about groups and markers

A group is laid out away from the page: while its contents are applied, content goes to it. The group
is finished even if its contents fail.
-/

namespace PageGrid.Command

/-- Lays out the contents of a group. -/
def group (children : Children) (rule : Rule) (focus : Focus) : Action Items := do
  let name ← Attributes.text rule "name" focus
  match rule.child? "Contents" with
  | none => Action.refuse rule (.noContents name)
  | some contents =>
    Action.setLayout (← Action.ofExcept .grid ((← Action.layout).startGroup name))
    let _ ← Action.followedBy (children contents focus)
      (Action.modifyLayout fun l => l.endGroup.2)
    return []

/-- Applies the rules below. -/
def contents (children : Children) (rule : Rule) (focus : Focus) : Action Items :=
  children rule focus

/-- Sets a marker with the name that an expression yields. -/
def mark (_ : Children) (rule : Rule) (focus : Focus) : Action Items := do
  let select ← Attributes.expression rule "select"
  let name ← Action.textOf (← Action.evaluate select focus)
  if name.isEmpty then Action.refuse rule (.emptyMarkerName select)
  let isTarget ← Attributes.flag rule "pdftarget" focus false
  let shift ← Attributes.length? rule "shift" focus
  Action.modifyLayout fun l => (l.setMarker name isTarget shift).2
  return []

end PageGrid.Command
