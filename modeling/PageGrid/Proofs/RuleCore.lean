import PageGrid.Rule

/-!
# What commands see of a rule

Elements of other namespaces stand between rules and are to mean nothing. An element is skipped where it
is applied, but some commands look at child elements themselves: for parts with a certain name, whatever
their namespace, and the value rule for whether there is any child element at all. The core of a rule is
what remains if everything is left out that no command looks at. So it keeps a foreign element with the
name of a part, and it keeps the text of a value rule only where no child element hides it. Lines are left
out as well, since only messages name them.

Rules with one core are alike to all commands. `Rule.purged` takes the foreign elements out with
everything below them, and this leaves the core as it is unless a foreign element is one of those that
are looked at, which `Rule.skipsForeign` decides.

## Main definitions

* `Rule.parts` — the child elements that commands look for by their local names;
* `Rule.core`, `Rule.Alike` — what commands see of a rule, and rules of which they see the same;
* `Rule.Matching` — lists of child elements that are alike but for elements that nobody looks at;
* `Rule.purged` — a rule without foreign elements;
* `Rule.skipsForeign` — no foreign element is looked at.

## Main results

* `Alike.matching` — child elements of rules that are alike;
* `core_purged` — taking out foreign elements leaves the core, if none of them is looked at.
-/

namespace PageGrid.Rule

open Xml (Node Tag)

/-! ### The core of a rule -/

/-- The local names of rules, and of child elements for which their commands look. -/
def parts : List (String × String) :=
  [("Switch", "Case"), ("Switch", "Otherwise"), ("Group", "Contents"), ("Pagetype", "Margin"),
   ("Pagetype", "PositioningArea"), ("PositioningArea", "PositioningFrame")]

/-- Whether the child element is in the layout namespace, or one that is looked at below an element of
the given name. -/
def isSeen (parent : String) (child : Rule) : Bool :=
  child.isLayout || parts.contains (parent, child.name)

/-- Whether the rule yields its own text if there is no child element. -/
def readsText (r : Rule) : Bool := r.name == "Value" && (r.attribute? "select").isNone

/-- The text of the rule, if its command comes to read it. -/
def ownText (r : Rule) : List Node :=
  if r.readsText && r.elements.isEmpty && !r.text.isEmpty then [.text r.text] else []

mutual

/-- The core of a child element that is seen; other nodes have none. -/
def coreNode (parent : String) : Node → List Node
  | .text _ => []
  | .element tag children =>
    if isSeen parent ⟨tag, children⟩ then
      [.element { tag with line := 0 } (ownText ⟨tag, children⟩ ++ coreNodes tag.name children)]
    else []

/-- The cores of the nodes of a list. -/
def coreNodes (parent : String) : List Node → List Node
  | [] => []
  | node :: rest => coreNode parent node ++ coreNodes parent rest

end

/-- What commands see of the rule: its name and attributes, the child elements that are looked at, and
its text where that is read. -/
def core (r : Rule) : Rule :=
  ⟨{ r.tag with line := 0 }, ownText r ++ coreNodes r.name r.children⟩

/-- Commands see the same of both rules. -/
def Alike (r r' : Rule) : Prop := r.core = r'.core

section Core

variable {r r' : Rule}

theorem Alike.name_eq (h : r.Alike r') : r'.name = r.name := by
  have hname : r'.core.name = r.core.name := congrArg Xml.Element.name h.symm
  exact hname

theorem Alike.attribute?_eq (h : r.Alike r') (name : String) :
    r'.attribute? name = r.attribute? name := by
  have hattribute : r'.core.attribute? name = r.core.attribute? name :=
    congrArg (attribute? · name) h.symm
  exact hattribute

theorem Alike.isLayout_eq (h : r.Alike r') : r'.isLayout = r.isLayout := by
  have hlayout : r'.core.isLayout = r.core.isLayout := congrArg isLayout h.symm
  exact hlayout

theorem Alike.readsText_eq (h : r.Alike r') : r'.readsText = r.readsText := by
  rw [readsText, readsText, h.name_eq, h.attribute?_eq]

/-- No element is a text of a rule. -/
theorem filterMap_element?_ownText (r : Rule) : r.ownText.filterMap Node.element? = [] := by
  rw [ownText]
  split <;> rfl

theorem filterMap_element?_cons (tag : Tag) (children rest : List Node) :
    (Node.element tag children :: rest).filterMap Node.element? =
      ⟨tag, children⟩ :: rest.filterMap Node.element? := (rfl)

theorem filterMap_text?_coreNodes (parent : String) (nodes : List Node) :
    (coreNodes parent nodes).filterMap Node.text? = [] := by
  induction nodes with
  | nil => rfl
  | cons node rest ih =>
    rw [coreNodes, List.filterMap_append, ih, List.append_nil]
    cases node with
    | text => rfl
    | element tag children =>
      rw [coreNode]
      split <;> rfl

theorem filterMap_element?_coreNodes (parent : String) (nodes : List Node) :
    (coreNodes parent nodes).filterMap Node.element? =
      ((nodes.filterMap Node.element?).filter (isSeen parent)).map core := by
  induction nodes with
  | nil => rfl
  | cons node rest ih =>
    rw [coreNodes, List.filterMap_append, ih]
    cases node with
    | text => rfl
    | element tag children =>
      rw [coreNode, filterMap_element?_cons, List.filter_cons]
      split <;> rfl

/-- The child elements of a core are the cores of those that are seen. -/
theorem elements_core (r : Rule) :
    r.core.elements = (r.elements.filter (isSeen r.name)).map core := by
  rw [core, Xml.Element.elements, List.filterMap_append, filterMap_element?_ownText,
    filterMap_element?_coreNodes]
  rfl

theorem text_core (r : Rule) : r.core.text = String.join (r.ownText.filterMap Node.text?) := by
  rw [core, Xml.Element.text, List.filterMap_append, filterMap_text?_coreNodes, List.append_nil]

/-- The text of a value rule where it is read, and nothing where a child element hides it. -/
theorem text_core_of_readsText (hread : r.readsText = true) :
    r.core.text = if r.elements.isEmpty then r.text else "" := by
  rw [text_core, ownText, hread]
  by_cases helements : r.elements.isEmpty = true
  · by_cases htext : r.text.isEmpty = true
    · simp [helements, String.isEmpty_iff.mp htext]
    · simp [helements, htext, Node.text?]
  · simp [helements]

/-- **The text of a value rule** is the same for rules that are alike, as far as it is read. -/
theorem Alike.text_eq (h : r.Alike r') (hread : r.readsText = true) :
    (if r'.elements.isEmpty then r'.text else "") = if r.elements.isEmpty then r.text else "" := by
  rw [← text_core_of_readsText hread, ← text_core_of_readsText (h.readsText_eq.trans hread)]
  exact congrArg (fun c : Rule => c.text) h.symm

end Core

/-! ### Child elements -/

/-- Two lists of child elements of elements of one name are alike, but for elements that are not
seen. -/
inductive Matching (parent : String) : List Rule → List Rule → Prop
  | nil : Matching parent [] []
  | left {r : Rule} {rs rs' : List Rule} : isSeen parent r = false → Matching parent rs rs' →
      Matching parent (r :: rs) rs'
  | right {r' : Rule} {rs rs' : List Rule} : isSeen parent r' = false → Matching parent rs rs' →
      Matching parent rs (r' :: rs')
  | both {r r' : Rule} {rs rs' : List Rule} : r.Alike r' → Matching parent rs rs' →
      Matching parent (r :: rs) (r' :: rs')

theorem matching_of_cores {parent : String} {rs rs' : List Rule}
    (h : (rs.filter (isSeen parent)).map core = (rs'.filter (isSeen parent)).map core) :
    Matching parent rs rs' := by
  induction rs generalizing rs' with
  | nil =>
    induction rs' with
    | nil => exact .nil
    | cons r' rs' ih =>
      cases hr' : isSeen parent r' with
      | true => simp [hr'] at h
      | false => exact .right hr' (ih (by simpa [hr'] using h))
  | cons r rs ih =>
    cases hr : isSeen parent r with
    | false => exact .left hr (ih (by simpa [hr] using h))
    | true =>
      rw [List.filter_cons_of_pos hr, List.map_cons] at h
      induction rs' with
      | nil => cases h
      | cons r' rs' ih' =>
        cases hr' : isSeen parent r' with
        | false => exact .right hr' (ih' (by simpa [hr'] using h))
        | true =>
          rw [List.filter_cons_of_pos hr', List.map_cons, List.cons.injEq] at h
          exact .both h.1 (ih h.2)

/-- **The child elements** of rules that are alike match. -/
theorem Alike.matching {r r' : Rule} (h : r.Alike r') : Matching r.name r.elements r'.elements := by
  refine matching_of_cores ?_
  have helements : r.core.elements = r'.core.elements :=
    congrArg (fun c : Rule => c.elements) h
  rw [elements_core, elements_core, h.name_eq] at helements
  exact helements

theorem ne_of_isSeen_eq_false {parent name : String} {r : Rule} (h : isSeen parent r = false)
    (hpart : (parent, name) ∈ parts) : r.name ≠ name := by
  rintro rfl
  simp [isSeen, hpart] at h

theorem isLayout_of_isSeen_eq_false {parent : String} {r : Rule} (h : isSeen parent r = false) :
    r.isLayout = false := by
  rw [isSeen, Bool.or_eq_false_iff] at h
  exact h.1

/-- The first part of a name is found on both sides or on neither. -/
theorem Matching.find? {parent name : String} {rs rs' : List Rule} (h : Matching parent rs rs')
    (hpart : (parent, name) ∈ parts) :
    (rs.find? (·.name = name)).map core = (rs'.find? (·.name = name)).map core := by
  induction h with
  | nil => rfl
  | left hr _ ih =>
    rw [List.find?_cons_of_neg (by simpa using ne_of_isSeen_eq_false hr hpart)]
    exact ih
  | right hr _ ih =>
    rw [List.find?_cons_of_neg (by simpa using ne_of_isSeen_eq_false hr hpart)]
    exact ih
  | @both r r' rs rs' hr _ ih =>
    rw [List.find?_cons, List.find?_cons, hr.name_eq]
    split
    · exact congrArg some hr
    · exact ih

/-! ### Taking foreign elements out -/

mutual

/-- The node without foreign elements, if it is none itself. -/
def purgedNode : Node → List Node
  | .text s => [.text s]
  | .element tag children =>
    if isLayout ⟨tag, children⟩ then [.element tag (purgedNodes children)] else []

/-- The nodes of a list that are not foreign, without foreign elements below them. -/
def purgedNodes : List Node → List Node
  | [] => []
  | node :: rest => purgedNode node ++ purgedNodes rest

end

/-- The rule without the foreign elements below it and everything below these. -/
def purged (r : Rule) : Rule := ⟨r.tag, purgedNodes r.children⟩

/-- Whether foreign elements, and nothing else, hide a text of the rule that would be read. -/
def hidesText (r : Rule) : Bool :=
  r.readsText && !r.elements.isEmpty && (r.elements.all fun child => !isLayout child) && !r.text.isEmpty

mutual

/-- Whether no foreign element is looked at in the node, which is below an element of the given
name. -/
def nodeSkipsForeign (parent : String) : Node → Bool
  | .text _ => true
  | .element tag children =>
    if isLayout ⟨tag, children⟩ then
      !hidesText ⟨tag, children⟩ && nodesSkipForeign tag.name children
    else !parts.contains (parent, tag.name)

/-- Whether no foreign element is looked at in the nodes of a list. -/
def nodesSkipForeign (parent : String) : List Node → Bool
  | [] => true
  | node :: rest => nodeSkipsForeign parent node && nodesSkipForeign parent rest

end

/-- Whether no foreign element is looked at, in the rule or below it: none has the name of a part of the
layout rule it is in, and none hides a text as the only kind of child element that there is. -/
def skipsForeign (r : Rule) : Bool := !r.hidesText && nodesSkipForeign r.name r.children

theorem filterMap_text?_purgedNodes (nodes : List Node) :
    (purgedNodes nodes).filterMap Node.text? = nodes.filterMap Node.text? := by
  induction nodes with
  | nil => rfl
  | cons node rest ih =>
    rw [purgedNodes, List.filterMap_append, ih]
    cases node with
    | text => rfl
    | element tag children =>
      rw [purgedNode, List.filterMap_cons_none rfl]
      split <;> rfl

theorem text_purged (r : Rule) : r.purged.text = r.text :=
  congrArg String.join (filterMap_text?_purgedNodes r.children)

theorem filterMap_element?_purgedNodes (nodes : List Node) :
    (purgedNodes nodes).filterMap Node.element? =
      ((nodes.filterMap Node.element?).filter isLayout).map purged := by
  induction nodes with
  | nil => rfl
  | cons node rest ih =>
    rw [purgedNodes, List.filterMap_append, ih]
    cases node with
    | text => rfl
    | element tag children =>
      rw [purgedNode, filterMap_element?_cons, List.filter_cons]
      split <;> rfl

theorem elements_purged (r : Rule) : r.purged.elements = (r.elements.filter isLayout).map purged :=
  filterMap_element?_purgedNodes r.children

/-- The text of a rule is read as before, unless it has been hidden. -/
theorem ownText_purged {r : Rule} (h : r.hidesText = false) : r.purged.ownText = r.ownText := by
  have hread : r.purged.readsText = r.readsText := rfl
  rw [ownText, ownText, text_purged, hread, elements_purged]
  by_cases helements : r.elements.isEmpty = true
  · rw [List.isEmpty_iff.mp helements]
    rfl
  · have hhidden : (r.readsText && (r.elements.filter isLayout).isEmpty && !r.text.isEmpty) =
        r.hidesText := by
      rw [hidesText, Bool.eq_false_iff.mpr helements, Bool.not_false, Bool.and_true]
      congr 2
      rw [Bool.eq_iff_iff, List.isEmpty_iff, List.filter_eq_nil_iff, List.all_eq_true]
      simp
    rw [List.isEmpty_map, hhidden, h, Bool.eq_false_iff.mpr helements]
    simp

mutual

theorem coreNodes_purgedNode (parent : String) : (node : Node) →
    nodeSkipsForeign parent node = true →
      coreNodes parent (purgedNode node) = coreNode parent node
  | .text _, _ => rfl
  | .element tag children, h => by
    rw [nodeSkipsForeign] at h
    rw [purgedNode, coreNode, isSeen]
    by_cases hlayout : isLayout ⟨tag, children⟩ = true
    · rw [if_pos hlayout, Bool.and_eq_true, Bool.not_eq_true'] at h
      have hseen : isSeen parent ⟨tag, purgedNodes children⟩ = true := by
        rw [isSeen, show isLayout ⟨tag, purgedNodes children⟩ = true from hlayout]
        rfl
      rw [if_pos hlayout, coreNodes, coreNodes, List.append_nil, coreNode, if_pos hseen, hlayout,
        Bool.true_or, if_pos rfl, coreNodes_purgedNodes tag.name children h.2]
      exact congrArg (fun texts => [Node.element { tag with line := 0 } (texts ++ _)])
        (ownText_purged h.1)
    · rw [if_neg hlayout, Bool.not_eq_true'] at h
      have hparts : parts.contains (parent, Xml.Element.name ⟨tag, children⟩) = false := h
      rw [if_neg hlayout, Bool.eq_false_iff.mpr hlayout, hparts]
      rfl

theorem coreNodes_purgedNodes (parent : String) : (nodes : List Node) →
    nodesSkipForeign parent nodes = true →
      coreNodes parent (purgedNodes nodes) = coreNodes parent nodes
  | [], _ => rfl
  | node :: rest, h => by
    rw [nodesSkipForeign, Bool.and_eq_true] at h
    have happend (before after : List Node) :
        coreNodes parent (before ++ after) = coreNodes parent before ++ coreNodes parent after := by
      induction before with
      | nil => rfl
      | cons first before ih => rw [List.cons_append, coreNodes, coreNodes, ih, List.append_assoc]
    rw [purgedNodes, happend, coreNodes_purgedNode parent node h.1, coreNodes_purgedNodes parent rest h.2,
      coreNodes]

end

/-- **Foreign elements that are not looked at** can be taken out: commands see the same. -/
theorem core_purged {r : Rule} (h : r.skipsForeign = true) : r.purged.core = r.core := by
  rw [skipsForeign, Bool.and_eq_true, Bool.not_eq_true'] at h
  have hnodes : coreNodes r.name r.purged.children = coreNodes r.name r.children :=
    coreNodes_purgedNodes r.name r.children h.2
  rw [core, core, ownText_purged h.1, ← hnodes]
  rfl

end PageGrid.Rule
