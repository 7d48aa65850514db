import PageGrid.Attributes

/-!
# Rules about values

Rules that compute items from data, bind variables or write to the log. A rule of this module receives
`children`, the application of the rules below it.
-/

namespace PageGrid.Command

/-- The application of all rules below a rule to a data node. -/
abbrev Children := Rule → Focus → Action Items

/-- The items of an expression, of the rules below, or the text of the rule. -/
def value (children : Children) (rule : Rule) (focus : Focus) : Action Items := do
  match rule.attribute? "select" with
  | some select => return Items.ofValue (← Action.evaluate select focus)
  | none =>
    if !rule.elements.isEmpty then children rule focus
    else return if rule.text.isEmpty then [] else [.string rule.text]

/-- The items of an expression. -/
def copyOf (_ : Children) (rule : Rule) (focus : Focus) : Action Items := do
  return Items.ofValue (← Action.evaluate (← Attributes.expression rule "select") focus)

/-- The text of a list of items. -/
def textOfItems (items : Items) : Action String := return items.toText (← read).data

/-- The text of the rules below as a paragraph. -/
def paragraph (children : Children) (rule : Rule) (focus : Focus) : Action Items := do
  return [.paragraph (← textOfItems (← children rule focus))]

/-- Writes the text of an expression, of the rules below, or of the rule to the log. -/
def message (children : Children) (rule : Rule) (focus : Focus) : Action Items := do
  let text ← match rule.attribute? "select" with
    | some select => Action.textOf (← Action.evaluate select focus)
    | none =>
      if !rule.elements.isEmpty then textOfItems (← children rule focus) else pure rule.text
  Action.log [.info s!"Message: {Text.trim text}"]
  return []

/-- Assigns the value of an expression, or of the rules below, to a variable. -/
def setVariable (children : Children) (rule : Rule) (focus : Focus) : Action Items := do
  let name ← Attributes.text rule "variable" focus
  let v ← match rule.attribute? "select" with
    | some select => Action.evaluate select focus
    | none => pure ((← children rule focus).toValue (← read).data)
  Action.modifyScopes (·.assign name v)
  return []

end PageGrid.Command
