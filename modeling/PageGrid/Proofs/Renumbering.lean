import Mathlib.Data.List.Basic
import PageGrid.Job

/-!
# Destinations numbered further on

A destination is a number, and nothing but a number: no size, no position and no text is made of it. So
content stays what it is when all its destinations are numbered higher by the same amount, wherever they
are in it, and boxes of groups nest to any depth.

## Main definitions

* `ContentBox.renumber`, `Placed.renumber`, `Item.renumber` — content with higher numbers;
* `Page.renumber`, `FinishedPage.renumber`, `Group.renumber` — what content is on;
* `Marker.renumber`, `RunSummary.renumber` — what points to it.

## Main results

* `Group.finish_renumber` — a group is as large as before;
* `Items.toText_renumber`, `Items.toValue_renumber` — items mean what they meant before.
-/

namespace PageGrid

variable {α : Type}

/-! ### Boxes -/

mutual

/-- The box with all destinations in it numbered higher by `k`. -/
def ContentBox.renumber (k : Nat) : ContentBox α → ContentBox α
  | .text size lines fontSize leading => .text size lines fontSize leading
  | .image size source => .image size source
  | .filled size color => .filled size color
  | .group size name items => .group size name (renumberNested k items)

/-- The items of a box with all destinations numbered higher by `k`. -/
def renumberNested (k : Nat) : List (Placed α (ContentBox α)) → List (Placed α (ContentBox α))
  | [] => []
  | ⟨x, y, box, destination⟩ :: rest =>
    ⟨x, y, box.renumber k, destination.map (· + k)⟩ :: renumberNested k rest

end

/-- The placed item with its destination, and all those in its box, numbered higher by `k`. -/
def Placed.renumber (k : Nat) (item : PlacedItem α) : PlacedItem α :=
  { item with box := item.box.renumber k, destination := item.destination.map (· + k) }

theorem renumberNested_eq (k : Nat) (items : List (PlacedItem α)) :
    renumberNested k items = items.map (Placed.renumber k) := by
  induction items with
  | nil => rfl
  | cons item rest ih => rw [renumberNested, ih, List.map_cons, Placed.renumber]

@[simp] theorem ContentBox.size_renumber (k : Nat) (b : ContentBox α) :
    (b.renumber k).size = b.size := by
  cases b <;> rfl

@[simp] theorem ContentBox.width_renumber (k : Nat) (b : ContentBox α) :
    (b.renumber k).width = b.width :=
  congrArg Size.width (b.size_renumber k)

@[simp] theorem ContentBox.height_renumber (k : Nat) (b : ContentBox α) :
    (b.renumber k).height = b.height :=
  congrArg Size.height (b.size_renumber k)

/-- An item covers what it covered. -/
@[simp] theorem Placed.bounds_renumber (k : Nat) (item : PlacedItem α) :
    (item.renumber k).bounds = item.bounds := by
  simp [bounds, renumber]

@[simp] theorem extent_renumber [Scalar α] (k : Nat) (items : List (PlacedItem α)) :
    extent (items.map (Placed.renumber k)) = extent items := by
  have hbounds : Placed.bounds ∘ Placed.renumber k = (Placed.bounds : PlacedItem α → Rect α) :=
    funext fun item => item.bounds_renumber k
  rw [extent, List.map_map, hbounds, extent]

/-! ### Pages and groups -/

/-- The page with all destinations on it numbered higher by `k`. -/
def Page.renumber (k : Nat) (p : Page α) : Page α :=
  { p with items := p.items.map (Placed.renumber k) }

/-- The finished page with all destinations on it numbered higher by `k`. -/
def FinishedPage.renumber (k : Nat) (p : FinishedPage α) : FinishedPage α :=
  { p with items := p.items.map (Placed.renumber k) }

/-- The group with all destinations in it numbered higher by `k`. -/
def Group.renumber (k : Nat) (g : Group α) : Group α :=
  { g with items := g.items.map (Placed.renumber k) }

@[simp] theorem Page.number_renumber (k : Nat) (p : Page α) :
    (p.renumber k).number = p.number := rfl

@[simp] theorem Group.name_renumber (k : Nat) (g : Group α) : (g.renumber k).name = g.name := rfl

theorem Page.finish_renumber (k : Nat) (p : Page α) :
    (p.renumber k).finish = p.finish.renumber k := rfl

theorem Page.place_renumber (k : Nat) (p : Page α) (item : PlacedItem α) :
    (p.renumber k).place (item.renumber k) = (p.place item).renumber k := by
  simp [place, renumber]

theorem Group.place_renumber (k : Nat) (g : Group α) (item : PlacedItem α) :
    (g.renumber k).place (item.renumber k) = (g.place item).renumber k := by
  simp [place, renumber]

/-- **A group is as large as before.** -/
theorem Group.finish_renumber [Scalar α] (k : Nat) (g : Group α) :
    (g.renumber k).finish = g.finish.renumber k := by
  simp [finish, renumber, contentSize]

theorem Group.box?_renumber (k : Nat) (g : Group α) :
    (g.renumber k).box? = g.box?.map (ContentBox.renumber k) := by
  cases hm : g.measured with
  | none => simp [box?, renumber, hm]
  | some size => simp [box?, renumber, hm, ContentBox.renumber, renumberNested_eq]

/-! ### Items -/

/-- The item with all destinations in it numbered higher by `k`. -/
def Item.renumber (k : Nat) : Item → Item
  | .box b => .box (b.renumber k)
  | i => i

@[simp] theorem Item.toText_renumber (k : Nat) (d : Xml.Document) (i : Item) :
    (i.renumber k).toText d = i.toText d := by
  cases i <;> rfl

@[simp] theorem Item.node?_renumber (k : Nat) (i : Item) : (i.renumber k).node? = i.node? := by
  cases i <;> rfl

theorem Item.box?_renumber (k : Nat) (i : Item) :
    (i.renumber k).box? = i.box?.map (ContentBox.renumber k) := by
  cases i <;> rfl

namespace Items

/-- The items with all destinations in them numbered higher by `k`. -/
def renumber (k : Nat) (items : Items) : Items := items.map (Item.renumber k)

@[simp] theorem renumber_append (k : Nat) (items others : Items) :
    renumber k (items ++ others) = renumber k items ++ renumber k others :=
  List.map_append

/-- What comes from a value has no destinations. -/
@[simp] theorem renumber_ofValue (k : Nat) (v : Value) : renumber k (ofValue v) = ofValue v := by
  cases v with
  | nodes set =>
    rw [renumber, ofValue, List.map_map]
    rfl
  | string s | number x | boolean b => rfl

@[simp] theorem toText_renumber (k : Nat) (d : Xml.Document) (items : Items) :
    toText d (renumber k items) = toText d items := by
  have htext : Item.toText d ∘ Item.renumber k = Item.toText d :=
    funext fun i => i.toText_renumber k d
  rw [toText, renumber, List.map_map, htext, toText]

/-- **Items mean the value that they meant.** -/
@[simp] theorem toValue_renumber (k : Nat) (d : Xml.Document) (items : Items) :
    toValue d (renumber k items) = toValue d items := by
  have hnodes : (renumber k items).filterMap Item.node? = items.filterMap Item.node? := by
    have hnode : Item.node? ∘ Item.renumber k = Item.node? := funext fun i => i.node?_renumber k
    rw [renumber, List.filterMap_map, hnode]
  have hall : (renumber k items).all (fun i => i.node?.isSome) =
      items.all fun i => i.node?.isSome := by
    rw [renumber, List.all_map]
    exact congrArg items.all (funext fun i => congrArg Option.isSome (i.node?_renumber k))
  unfold toValue
  rw [hall, hnodes, toText_renumber]
  -- a single item is renumbered to an item of the same kind
  rcases items with _ | ⟨i, _ | ⟨j, rest⟩⟩
  · rfl
  · cases i <;> rfl
  · cases i <;> rfl

theorem boxes_renumber (k : Nat) (items : Items) :
    boxes (renumber k items) = (boxes items).map (ContentBox.renumber k) := by
  have hbox : Item.box? ∘ Item.renumber k = fun i => i.box?.map (ContentBox.renumber k) :=
    funext fun i => i.box?_renumber k
  rw [boxes, renumber, List.filterMap_map, hbox, boxes, List.map_filterMap]

@[simp] theorem boxNotices_renumber (k : Nat) (items : Items) :
    boxNotices (renumber k items) = boxNotices items := by
  rw [boxNotices, boxes_renumber, List.map_map]
  rfl

theorem paragraphsAfter_renumber (k : Nat) (d : Xml.Document) (loose : String) (items : Items) :
    paragraphsAfter d loose (renumber k items) = paragraphsAfter d loose items := by
  induction items generalizing loose with
  | nil => rfl
  | cons i rest ih =>
    rw [renumber] at ih ⊢
    cases i with
    | paragraph text => simp only [List.map_cons, Item.renumber, paragraphsAfter, ih]
    | box b => simp only [List.map_cons, Item.renumber, paragraphsAfter, ih]
    | number | string | boolean | node =>
      simp only [List.map_cons, Item.renumber, paragraphsAfter, ih]

@[simp] theorem paragraphs_renumber (k : Nat) (d : Xml.Document) (items : Items) :
    paragraphs d (renumber k items) = paragraphs d items :=
  paragraphsAfter_renumber k d "" items

end Items

/-! ### Markers -/

/-- The marker with its destination numbered higher by `k`. -/
def Marker.renumber (k : Nat) (m : Marker) : Marker := { m with id := m.id + k }

/-- What a run leaves, with all destinations numbered higher by `k`. -/
def RunSummary.renumber (k : Nat) (summary : RunSummary) : RunSummary :=
  { summary with markers := summary.markers.map (Marker.renumber k) }

/-- What counts from another number tells what counts from zero. -/
theorem RunSummary.renumber_injective (k : Nat) : Function.Injective (renumber k) := by
  have hmarker : Function.Injective (Marker.renumber k) := by
    intro m n h
    have hid : m.id + k = n.id + k := congrArg Marker.id h
    simp only [Marker.renumber, Marker.mk.injEq] at h
    obtain ⟨hname, hpage, -, htarget, hshift⟩ := h
    cases m
    cases n
    simp_all
  intro a b h
  simp only [renumber, mk.injEq] at h
  obtain ⟨hmarkers, hlast⟩ := h
  have hmarkers' := List.map_injective_iff.mpr hmarker hmarkers
  cases a
  cases b
  simp_all

namespace References

theorem insert_renumber (k : Nat) (m : Marker) (ms : List Marker) :
    insert (m.renumber k) (ms.map (Marker.renumber k)) = (insert m ms).map (Marker.renumber k) := by
  induction ms with
  | nil => rfl
  | cons n ns ih =>
    rw [List.map_cons, insert, insert]
    change (if m.name < n.name then _ else if m.name = n.name then _ else _) = _
    split
    · rfl
    · split
      · rfl
      · rw [ih, List.map_cons]

theorem find?_renumber (k : Nat) (name : String) (ms : List Marker) :
    (ms.map (Marker.renumber k)).find? (·.name = name) =
      (ms.find? (·.name = name)).map (Marker.renumber k) := by
  rw [List.find?_map]
  rfl

end References

end PageGrid
