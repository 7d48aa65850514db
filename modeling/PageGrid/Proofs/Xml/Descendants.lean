import PageGrid.Proofs.Xml.DocumentOrder

/-!
# Nodes below a node

What is below a node of a document has the address of the node as a proper prefix of its own. The children
of a node and the list of a node with all elements and texts below it are lists of addresses, and this
module says which addresses are in them. Attributes are below their elements, but they are in neither of
the lists.

The list of a subtree does not depend on where the subtree is, other than through the address in front. So
it is enough to know the list of a tree by itself, and there the way down from the root leads to the members
one step at a time.

## Main definitions

* `Document.HasNode` — an element or a text is at an address.

## Main results

* `mem_children`, `mem_descendants_of_place?` — what is in the two lists;
* `exists_mem_children_iff` — the children of a node and of all nodes below it are what is below the node.
-/

namespace PageGrid.Xml

variable {d : Document} {a n : Address}

/-- An element or a text is at the address. -/
def Document.HasNode (d : Document) (a : Address) : Prop := ∃ m, d.place? a = some (.node m)

/-! ### Steps -/

namespace Place

variable {p q : Place} {i : Nat}

/-- A step to a child leads to an element or a text if there is such a child. -/
theorem exists_step?_child_iff : (∃ m, p.step? (.child i) = some (.node m)) ↔ i < p.childCount := by
  cases p with
  | document root => cases i <;> simp [step?, childCount]
  | node m => cases m <;> simp [step?, childCount, List.getElem?_eq_some_iff]
  | «attribute» a => simp [step?, childCount]

/-- A step to an attribute does not lead to an element or a text. -/
theorem step?_attribute_ne_node (m : Node) : p.step? (.attribute i) ≠ some (.node m) := by
  cases p with
  | document root => simp [step?]
  | node m => cases m <;> simp [step?]
  | «attribute» a => simp [step?]

/-- Nothing is below an attribute. -/
theorem step?_attribute (found : Attribute) (s : Step) : step? (.attribute found) s = none := by
  cases s <;> rfl

/-- No step leads to the root of the document. -/
theorem step?_ne_document (s : Step) (root : Element) : p.step? s ≠ some (.document root) := by
  cases p with
  | document root => obtain i | _ | i := s <;> simp [step?]
  | node m => cases m <;> cases s <;> simp [step?]
  | «attribute» a => cases s <;> simp [step?]

/-- So what leads to the root is no step at all. -/
theorem eq_nil_of_foldlM_eq_document {b : Address} {root : Element}
    (h : b.foldlM step? p = some (.document root)) : b = [] := by
  obtain rfl | ⟨front, s, rfl⟩ := List.eq_nil_or_concat b
  · rfl
  · rw [List.concat_eq_append, List.foldlM_append] at h
    obtain ⟨q, -, hstep⟩ := Option.bind_eq_some_iff.mp h
    exact absurd (by simpa using hstep) (step?_ne_document s root)

end Place

/-- The way to a node below another one leads over it. -/
theorem Document.place?_append (d : Document) (a b : Address) :
    d.place? (a ++ b) = (d.place? a).bind (b.foldlM Place.step? ·) :=
  List.foldlM_append

/-! ### Children -/

theorem mem_children : a ∈ d.children n ↔ ∃ i, a = n ++ [.child i] ∧ d.HasNode a := by
  have hnode (i : Nat) : d.HasNode (n ++ [.child i]) ↔ i < ((d.place? n).map Place.childCount).getD 0 := by
    rw [Document.HasNode, d.place?_append]
    cases d.place? n with
    | none => simp
    | some p =>
      refine Iff.trans ?_ Place.exists_step?_child_iff
      simp
  rw [Document.children, List.mem_map]
  constructor
  · rintro ⟨i, hi, rfl⟩
    exact ⟨i, rfl, (hnode i).mpr (List.mem_range.mp hi)⟩
  · rintro ⟨i, rfl, h⟩
    exact ⟨i, List.mem_range.mpr ((hnode i).mp h), rfl⟩

/-! ### Subtrees -/

mutual

/-- The addresses of a subtree are those of the tree by itself with the address of the subtree in front. -/
theorem addresses_eq_map (here : Address) : (m : Node) →
    m.addresses here = (m.addresses []).map (here ++ ·)
  | .text _ => by simp [Node.addresses]
  | .element _ children => by
    rw [Node.addresses, Node.addresses, addressesFrom_eq_map here 0 children]
    simp

theorem addressesFrom_eq_map (parent : Address) (index : Nat) : (ms : List Node) →
    Node.addressesFrom parent index ms = (Node.addressesFrom [] index ms).map (parent ++ ·)
  | [] => rfl
  | m :: ms => by
    rw [Node.addressesFrom, Node.addressesFrom, List.map_append, addressesFrom_eq_map parent (index + 1) ms,
      addresses_eq_map (parent ++ [Step.child index]) m, addresses_eq_map ([] ++ [Step.child index]) m, List.map_map]
    simp [Function.comp_def]

end

theorem mem_addressesFrom {index : Nat} {ms : List Node} :
    a ∈ Node.addressesFrom [] index ms ↔
      ∃ i m below, ms[i]? = some m ∧ below ∈ m.addresses [] ∧ a = .child (index + i) :: below := by
  induction ms generalizing index with
  | nil => simp [Node.addressesFrom]
  | cons m ms ih =>
    rw [Node.addressesFrom, List.mem_append, ih, addresses_eq_map, List.mem_map]
    constructor
    · rintro (⟨below, hbelow, rfl⟩ | ⟨i, m', below, hm, hbelow, rfl⟩)
      · exact ⟨0, m, below, rfl, hbelow, rfl⟩
      · exact ⟨i + 1, m', below, hm, hbelow, by rw [Nat.add_right_comm, Nat.add_assoc]⟩
    · rintro ⟨i, m', below, hm, hbelow, rfl⟩
      cases i with
      | zero =>
        obtain rfl : m = m' := by simpa using hm
        exact .inl ⟨below, hbelow, rfl⟩
      | succ i => exact .inr ⟨i, m', below, hm, hbelow, by rw [Nat.add_right_comm, Nat.add_assoc]⟩

/-- In a tree by itself are the addresses of elements and texts, to which steps lead. -/
theorem mem_addresses {m : Node} :
    a ∈ m.addresses [] ↔ ∃ m', a.foldlM Place.step? (.node m) = some (.node m') := by
  induction a generalizing m with
  | nil => cases m <;> simp [Node.addresses]
  | cons s a ih =>
    cases m with
    | text content => simp [Node.addresses, Place.step?]
    | element tag children =>
      obtain i | i := s
      · cases hi : tag.attributes[i]? with
        | none => simp [Node.addresses, Place.step?, mem_addressesFrom, hi]
        | some found =>
          cases a with
          | nil => simp [Node.addresses, Place.step?, mem_addressesFrom, hi]
          | cons t a => simp [Node.addresses, Place.step?, mem_addressesFrom, hi]
      · cases hc : children[i]? <;> simp [Node.addresses, Place.step?, mem_addressesFrom, hc, ih]

/-! ### The nodes below a node -/

/-- The list of a node, seen from the place that the node is. -/
theorem mem_descendants_of_place? {p : Place} (hp : d.place? n = some p) :
    a ∈ d.descendants n ↔
      ∃ below, n ++ below = a ∧ (below = [] ∨ ∃ m, below.foldlM Place.step? p = some (.node m)) := by
  rw [Document.descendants, hp]
  cases p with
  | document root =>
    dsimp only
    rw [List.mem_cons, addressesFrom_eq_map, List.mem_map]
    constructor
    · rintro (rfl | ⟨below, hbelow, rfl⟩)
      · exact ⟨[], List.append_nil a, .inl rfl⟩
      · obtain ⟨i, m, below, hm, hbelow, rfl⟩ := mem_addressesFrom.mp hbelow
        obtain ⟨rfl, rfl⟩ : i = 0 ∧ m = root.toNode := by cases i <;> simp_all
        exact ⟨_, rfl, .inr (mem_addresses.mp hbelow)⟩
    · rintro ⟨below, rfl, rfl | ⟨m, hm⟩⟩
      · exact .inl (List.append_nil n)
      · -- the only way down from the root of the document is to the root element
        cases below with
        | nil => cases hm
        | cons s below =>
          obtain i | _ | i := s
          · cases hm
          · exact .inr ⟨_, mem_addressesFrom.mpr ⟨0, root.toNode, below, rfl, mem_addresses.mpr ⟨m, hm⟩, rfl⟩, rfl⟩
          · cases hm
  | node m =>
    dsimp only
    rw [addresses_eq_map, List.mem_map]
    constructor
    · rintro ⟨below, hbelow, rfl⟩
      exact ⟨below, rfl, .inr (mem_addresses.mp hbelow)⟩
    · rintro ⟨below, rfl, rfl | hm⟩
      · exact ⟨[], mem_addresses.mpr ⟨m, rfl⟩, rfl⟩
      · exact ⟨below, mem_addresses.mpr hm, rfl⟩
  | «attribute» found =>
    dsimp only
    constructor
    · intro ha
      exact ⟨[], (List.append_nil n).trans (List.mem_singleton.mp ha).symm, .inl rfl⟩
    · rintro ⟨below, rfl, rfl | ⟨m, hm⟩⟩
      · exact List.mem_singleton.mpr (List.append_nil n)
      · cases below with
        | nil => cases hm
        | cons s below => cases s <;> cases hm

theorem prefix_of_mem_descendants (h : a ∈ d.descendants n) : n <+: a := by
  cases hp : d.place? n with
  | none =>
    rw [Document.descendants, hp] at h
    cases h
  | some p =>
    obtain ⟨below, rfl, -⟩ := (mem_descendants_of_place? hp).mp h
    exact List.prefix_append n below

/-- The list has nodes of the document only. -/
theorem isSome_place?_of_mem_descendants (h : a ∈ d.descendants n) : (d.place? a).isSome = true := by
  cases hp : d.place? n with
  | none =>
    rw [Document.descendants, hp] at h
    cases h
  | some p =>
    obtain ⟨below, rfl, rfl | ⟨m, hm⟩⟩ := (mem_descendants_of_place? hp).mp h
    · rw [List.append_nil, hp]
      rfl
    · rw [d.place?_append, hp, Option.bind_some, hm]
      rfl

/-- **Below a node.** The children of the nodes in the list of a node are the elements and texts that have
the address of the node as a proper prefix. -/
theorem exists_mem_children_iff :
    (∃ b ∈ d.descendants n, a ∈ d.children b) ↔ (n <+: a ∧ n ≠ a) ∧ d.HasNode a := by
  constructor
  · rintro ⟨b, hb, ha⟩
    obtain ⟨i, rfl, hnode⟩ := mem_children.mp ha
    have hbelow : n <+: b := prefix_of_mem_descendants hb
    refine ⟨⟨hbelow.trans (List.prefix_append b _), ?_⟩, hnode⟩
    rintro rfl
    have hlength := hbelow.length_le
    rw [List.length_append, List.length_singleton] at hlength
    omega
  · rintro ⟨⟨⟨below, rfl⟩, hne⟩, m, hm⟩
    obtain rfl | ⟨between, s, rfl⟩ := List.eq_nil_or_concat below
    · exact absurd (List.append_nil n).symm hne
    · -- the last step leads from the parent, which is in the list
      rw [List.concat_eq_append, ← List.append_assoc] at hm ⊢
      obtain ⟨q, hq, hstep⟩ : ∃ q, d.place? (n ++ between) = some q ∧ q.step? s = some (.node m) := by
        rw [d.place?_append] at hm
        simpa using Option.bind_eq_some_iff.mp hm
      obtain ⟨p, hp, hbetween⟩ := Option.bind_eq_some_iff.mp ((d.place?_append n between).symm.trans hq)
      have hparent : between = [] ∨ ∃ m, between.foldlM Place.step? p = some (.node m) := by
        cases q with
        | document root => exact .inl (Place.eq_nil_of_foldlM_eq_document hbetween)
        | node m' => exact .inr ⟨m', hbetween⟩
        | «attribute» found => cases (Place.step?_attribute found s).symm.trans hstep
      obtain i | i := s
      · exact absurd hstep (Place.step?_attribute_ne_node m)
      · refine ⟨n ++ between, (mem_descendants_of_place? hp).mpr ⟨between, rfl, hparent⟩, ?_⟩
        exact mem_children.mpr ⟨i, rfl, m, hm⟩

end PageGrid.Xml
