import PageGrid.Command.Values

/-!
# Rules that select and repeat

Iteration over nodes and numbers, choice, and the application of rules recorded for data elements. Every
round of an iteration has a scope of its own, which ends with the round even if the round fails.
-/

namespace PageGrid.Command

/-- An action in a scope of its own. -/
def inScope {α : Type} (x : Action α) : Action α := do
  Action.modifyScopes (·.push)
  Action.followedBy x (Action.modifyScopes (·.pop))

/-- The items of an action on every node of a list, where `size` is the length of the whole list. -/
def forNodes (round : Focus → Action Items) (size : Nat) : Nat → List Xml.Address → Action Items
  | _, [] => return []
  | position, a :: rest => do
    let items ← round ⟨a, position, size⟩
    return items ++ (← forNodes round size (position + 1) rest)

/-- Applies the rules below to every selected node. -/
def forAll (children : Children) (rule : Rule) (focus : Focus) : Action Items := do
  let nodes ← Attributes.nodes rule "select" focus
  forNodes (fun focus => inScope (children rule focus)) nodes.length 1 nodes

/-- The items of `rounds` rounds, the first of which has the number `first`. -/
def repeated (round : Nat → Action Items) : Nat → Nat → Action Items
  | _, 0 => return []
  | first, rounds + 1 => do
    let items ← round first
    return items ++ (← repeated round (first + 1) rounds)

/-- The variable that counts rounds, if a rule names no other one. -/
def loopCounter : String := "_loopcounter"

/-- The number of rounds that a finite count asks for, within sixty-four bits. -/
def rounds (count : Float) : Nat := min (Decimal.floorInt count).toNat (Nat.pow 2 64 - 1)

/-- Applies the rules below a number of times, with the number of the round in a variable. -/
def loop (children : Children) (rule : Rule) (focus : Focus) : Action Items := do
  let select ← Attributes.expression rule "select"
  let count := (← Action.evaluate select focus).toNumber (← read).data
  if !Decimal.isFinite count then Action.refuse rule (.loopCount select count)
  let counter ← Attributes.textOr rule "variable" focus loopCounter
  let round (i : Nat) : Action Items := inScope do
    Action.modifyScopes (·.bind counter (.number (Float.ofNat i)))
    children rule focus
  repeated round 1 (rounds count)

/-- Applies the first branch of a list whose test holds. -/
def firstBranch (children : Children) (focus : Focus) : List Rule → Action Items
  | [] => return []
  | branch :: rest => do
    if branch.name = "Case" then
      let test ← Attributes.expression branch "test"
      if (← Action.evaluate test focus).toBool then children branch focus
      else firstBranch children focus rest
    else if branch.name = "Otherwise" then children branch focus
    else
      Action.warn s!"<{branch.name}> is not allowed in <Switch> (line {branch.line})"
      firstBranch children focus rest

/-- Applies the first branch whose test holds. -/
def choose (children : Children) (rule : Rule) (focus : Focus) : Action Items :=
  firstBranch children focus rule.elements

/-- Records the rules below for data elements of a name, in a mode. -/
def recordRule (_ : Children) (rule : Rule) (focus : Focus) : Action Items := do
  let element ← Attributes.text rule "element" focus
  let mode ← Attributes.textOr rule "mode" focus ""
  Action.modifyLayout fun l => { l with patterns := l.patterns.record element mode rule }
  return []

/-- The name of an element at an address. -/
def elementName? (d : Xml.Document) (a : Xml.Address) : Option String :=
  match d.place? a with
  | some (.node (.element tag _)) => some tag.name
  | _ => none

/-- Applies the recorded rule of every selected element. -/
def processNode (children : Children) (rule : Rule) (focus : Focus) : Action Items := do
  let mode ← Attributes.textOr rule "mode" focus ""
  let nodes ← Attributes.nodes rule "select" focus
  let round (focus : Focus) : Action Items := do
    match elementName? (← read).data focus.node with
    | none => return []
    | some name =>
      match (← Action.layout).patterns.lookup? name mode with
      | some recorded => children recorded focus
      | none =>
        Action.warn s!"No rule for element <{name}> (mode '{mode}'), skipped"
        return []
  forNodes round nodes.length 1 nodes

end PageGrid.Command
