import Mathlib.Data.List.Perm.Basic
import PageGrid.Content

/-!
# Items in items

The box of a group contains the items of the group, and some of these may be boxes of groups again. A
reader of the pages sees the items of every depth, while the layout places only those at the top. Each
item below the top is directly in one box above it, so the items of all depths are the items at the top
and then, for each item of any depth, those directly in its box. This is how statements about all
depths come down to statements about single boxes.

## Main definitions

* `ContentBox.items`, `ContentBox.itemsWithin` — the items directly in a box, and those of all depths;
* `itemsThroughout` — items and everything in their boxes.

## Main results

* `itemsThroughout_perm` — the items of all depths, counted by the boxes that they are directly in;
* `itemsThroughout_items_subset` — what is in the box of an item of any depth.
-/

namespace PageGrid

variable {α : Type}

/-- The items directly in a box, which only the box of a group has. -/
def ContentBox.items : ContentBox α → List (PlacedItem α)
  | .text .. => []
  | .image .. => []
  | .filled .. => []
  | .group _ _ items => items

mutual

/-- The items in a box, at every depth. -/
def ContentBox.itemsWithin : ContentBox α → List (PlacedItem α)
  | .text .. => []
  | .image .. => []
  | .filled .. => []
  | .group _ _ items => itemsThroughout items

/-- The items with everything in their boxes, at every depth. -/
def itemsThroughout : List (Placed α (ContentBox α)) → List (Placed α (ContentBox α))
  | [] => []
  | ⟨x, y, box, destination⟩ :: rest =>
    ⟨x, y, box, destination⟩ :: (box.itemsWithin ++ itemsThroughout rest)

end

theorem ContentBox.itemsWithin_eq (box : ContentBox α) :
    box.itemsWithin = itemsThroughout box.items := by
  cases box <;> rw [itemsWithin, items] <;> rfl

@[simp] theorem itemsThroughout_nil : itemsThroughout ([] : List (PlacedItem α)) = [] := rfl

theorem itemsThroughout_cons (item : PlacedItem α) (rest : List (PlacedItem α)) :
    itemsThroughout (item :: rest) = item :: (item.box.itemsWithin ++ itemsThroughout rest) := rfl

mutual

/-- The items of all depths in a box, counted by the boxes that they are directly in. -/
theorem ContentBox.itemsWithin_perm : (box : ContentBox α) →
    box.itemsWithin.Perm (box.items ++ box.itemsWithin.flatMap (·.box.items))
  | .text .. => by simp [ContentBox.itemsWithin, ContentBox.items]
  | .image .. => by simp [ContentBox.itemsWithin, ContentBox.items]
  | .filled .. => by simp [ContentBox.itemsWithin, ContentBox.items]
  | .group _ _ items => by
    rw [ContentBox.itemsWithin, ContentBox.items]
    exact itemsThroughout_perm items

/-- **The items of all depths.** They are the items at the top, and for each item of any depth those
directly in its box. -/
theorem itemsThroughout_perm : (items : List (Placed α (ContentBox α))) →
    (itemsThroughout items).Perm (items ++ (itemsThroughout items).flatMap (·.box.items))
  | [] => .nil
  | ⟨x, y, box, destination⟩ :: rest => by
    rw [itemsThroughout, List.flatMap_cons, List.flatMap_append, List.cons_append]
    refine .cons _ (((box.itemsWithin_perm).append (itemsThroughout_perm rest)).trans ?_)
    dsimp only
    generalize (itemsThroughout rest).flatMap (·.box.items) = below
    generalize box.itemsWithin.flatMap (·.box.items) = inside
    -- the items of the rest come before those of the box
    have hswap : (box.items ++ inside ++ rest).Perm (rest ++ (box.items ++ inside)) :=
      List.perm_append_comm
    simpa only [List.append_assoc] using hswap.append_right below

end

mutual

theorem ContentBox.itemsWithin_subset {seen : List (PlacedItem α)}
    (hseen : ∀ item ∈ seen, item.box.items ⊆ seen) : (box : ContentBox α) → box.items ⊆ seen →
    box.itemsWithin ⊆ seen
  | .text .., h => h
  | .image .., h => h
  | .filled .., h => h
  | .group _ _ items, h => by
    rw [ContentBox.itemsWithin]
    exact itemsThroughout_subset hseen items h

/-- Where the items directly in a box are seen with each item, those of all depths are. -/
theorem itemsThroughout_subset {seen : List (PlacedItem α)}
    (hseen : ∀ item ∈ seen, item.box.items ⊆ seen) : (items : List (Placed α (ContentBox α))) →
    items ⊆ seen → itemsThroughout items ⊆ seen
  | [], h => h
  | ⟨x, y, box, destination⟩ :: rest, h => by
    obtain ⟨hitem, hrest⟩ := List.cons_subset.mp h
    rw [itemsThroughout]
    exact List.cons_subset.mpr ⟨hitem, List.append_subset.mpr
      ⟨box.itemsWithin_subset hseen (hseen _ hitem), itemsThroughout_subset hseen rest hrest⟩⟩

end

/-- Among the items of all depths are, with each item, those of all depths in its box. -/
theorem itemsThroughout_items_subset {items : List (PlacedItem α)} {item : PlacedItem α}
    (h : item ∈ itemsThroughout items) : itemsThroughout item.box.items ⊆ itemsThroughout items := by
  have hperm := (itemsThroughout_perm items).symm.subset
  have hdirect : ∀ i ∈ itemsThroughout items, i.box.items ⊆ itemsThroughout items :=
    fun i hi j hj => hperm (List.mem_append_right _ (List.mem_flatMap.mpr ⟨i, hi, hj⟩))
  exact itemsThroughout_subset hdirect _ (hdirect item h)

end PageGrid
