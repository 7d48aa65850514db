import Mathlib.Data.String.Basic
import PageGrid.Proofs.Destinations

/-!
# What names mean in the course of a run

A name means the marker that this run has set for it last, and as long as there is none, the marker of
the previous run. The table of this run is kept in order of the names, so a name occurs in it once and
the table is told by its members.

Apart from setting a marker, the only thing that a change of the layout does to the table is to correct
the page of a marker. So the markers that a run has set, in their order, determine the table up to pages.
`Sets` follows a run with these markers, and `Follows` is what the table then is; it is kept by every
step, so it holds at every point of a run.

## Main definitions

* `References.InOrder` — the names of a table are in order;
* `Layout.Sets` — the markers that are set on the way from one layout to another;
* `References.latest?` — the marker of a name that has been set last;
* `References.Follows` — a table follows the markers that have been set.

## Main results

* `Layout.inOrder_reaches` — tables stay in order;
* `Layout.Sets.follows` — a table follows the markers that have been set, at every point of a run.
-/

namespace PageGrid

/-! ### Tables in order -/

namespace References

variable {r : References} {name : String} {m n : Marker} {ms : List Marker}

/-- The names are in order, so that each of them occurs once. -/
def InOrder (ms : List Marker) : Prop := ms.Pairwise fun m n => m.name < n.name

theorem eq_or_mem_of_mem_insert (h : n ∈ insert m ms) : n = m ∨ n ∈ ms := by
  induction ms with
  | nil => exact .inl (List.mem_singleton.mp h)
  | cons k ms ih =>
    rw [insert] at h
    split at h
    · exact List.mem_cons.mp h
    · split at h
      · exact (List.mem_cons.mp h).imp_right (.tail k)
      · rcases List.mem_cons.mp h with rfl | h
        · exact .inr (.head ms)
        · exact (ih h).imp_right (.tail k)

theorem InOrder.insert (h : InOrder ms) (m : Marker) : InOrder (insert m ms) := by
  induction ms with
  | nil => exact List.pairwise_singleton ..
  | cons k ms ih =>
    obtain ⟨hk, hms⟩ := List.pairwise_cons.mp h
    rw [References.insert]
    split
    · next hlt =>
      refine List.pairwise_cons.mpr ⟨fun n hn => ?_, h⟩
      rcases List.mem_cons.mp hn with rfl | hn
      · exact hlt
      · exact String.lt_trans hlt (hk n hn)
    · next hge =>
      split
      · next hsame => exact List.pairwise_cons.mpr ⟨fun n hn => hsame ▸ hk n hn, hms⟩
      · next hne =>
        have hlt : k.name < m.name := lt_of_le_of_ne (not_lt.mp hge) (Ne.symm hne)
        refine List.pairwise_cons.mpr ⟨fun n hn => ?_, ih hms⟩
        rcases eq_or_mem_of_mem_insert hn with rfl | hn
        · exact hlt
        · exact hk n hn

theorem InOrder.map_of_name {f : Marker → Marker} (hf : ∀ m, (f m).name = m.name) (h : InOrder ms) :
    InOrder (ms.map f) := by
  rw [InOrder, List.pairwise_map]
  simpa only [InOrder, hf] using h

/-- In a table in order, a marker is told by its name. -/
theorem InOrder.eq_of_name (h : InOrder ms) (hm : m ∈ ms) (hn : n ∈ ms) (hname : m.name = n.name) :
    m = n := by
  induction ms with
  | nil => cases hm
  | cons k ms ih =>
    obtain ⟨hk, hms⟩ := List.pairwise_cons.mp h
    rcases List.mem_cons.mp hm with hmk | hm' <;> rcases List.mem_cons.mp hn with hnk | hn'
    · exact hmk.trans hnk.symm
    · exact absurd (hk n hn') (by rw [← hmk, hname]; exact lt_irrefl _)
    · exact absurd (hk m hm') (by rw [← hnk, hname]; exact lt_irrefl _)
    · exact ih hms hm' hn'

/-- Where markers are told by their names, a search by name finds the members. -/
theorem find?_eq_some_iff (h : ∀ m ∈ ms, ∀ n ∈ ms, m.name = n.name → m = n) :
    ms.find? (·.name = name) = some m ↔ m ∈ ms ∧ m.name = name := by
  refine ⟨fun hm => ⟨List.mem_of_find?_eq_some hm, by simpa using List.find?_some hm⟩, ?_⟩
  rintro ⟨hm, rfl⟩
  cases hn : ms.find? (·.name = m.name) with
  | none => exact absurd (List.find?_eq_none.mp hn m hm) (by simp)
  | some n =>
    have hname : n.name = m.name := by simpa using List.find?_some hn
    rw [h n (List.mem_of_find?_eq_some hn) m hm hname]

/-- **A table in order is taken over member by member**: at the start of the next run a name means the
marker that has it. -/
theorem resolve?_start_eq_some (h : InOrder ms) (lastPage : Nat) :
    (start (some ⟨lastPage, ms⟩)).resolve? name = some m ↔ m ∈ ms ∧ m.name = name := by
  have hunique : ∀ m ∈ ms.reverse, ∀ n ∈ ms.reverse, m.name = n.name → m = n := by
    intro m hm n hn
    exact h.eq_of_name (List.mem_reverse.mp hm) (List.mem_reverse.mp hn)
  rw [← List.mem_reverse]
  exact find?_eq_some_iff hunique

theorem InOrder.move {moved : String} {page : Nat} (h : InOrder r.current) :
    InOrder (r.move moved page).current :=
  h.map_of_name fun m => by split <;> rfl

end References

/-! ### The way of a run -/

namespace Layout

variable {l l' k : Layout} {ms : List Marker}

/-- What a change does to the table and to the number of the next marker. -/
inductive TableStep (l l' : Layout) : Prop
  | kept : l'.references = l.references → l'.nextId = l.nextId → TableStep l l'
  | moved {name : String} {page : Nat} : l'.references = l.references.move name page →
      l'.nextId = l.nextId → TableStep l l'
  | set {name : String} {isTarget : Bool} {shift : Option Float} :
      l' = (l.setMarker name isTarget shift).2 → TableStep l l'

theorem tableStep_setTargetGrid (l : Layout) (g : Grid Float) : TableStep l (l.setTargetGrid g) := by
  rw [setTargetGrid]
  split <;> exact .kept rfl rfl

theorem tableStep_place {x y : Float} {box : ContentBox Float} (h : l.place x y box = some l') :
    TableStep l l' := by
  simp only [place] at h
  split at h
  · cases h
    exact .kept rfl rfl
  · next page _ _ =>
    cases h
    cases hu : l.unplacedMarker with
    | none => exact .kept rfl rfl
    | some name => exact TableStep.moved (rfl : _ = l.references.move name page.number) rfl
  · cases h

theorem Step.tableStep (h : Step l l') : TableStep l l' := by
  cases h with
  | change h =>
    cases h with
    | setGrid | record | register | losePage => exact .kept rfl rfl
    | mark name isTarget shift => exact .set rfl
    | openPage _ _ h =>
      obtain ⟨page, -, rfl⟩ := openPage_eq_ok.mp h
      exact .kept rfl rfl
    | finishPage => exact .kept references_finishPage nextId_finishPage
    | grid => exact tableStep_setTargetGrid l _
    | place h => exact tableStep_place h
  | startGroup h =>
    obtain ⟨grid, rfl⟩ := startGroup_eq_ok h
    exact .kept rfl rfl
  | endGroup =>
    rw [Layout.endGroup]
    split <;> exact .kept rfl rfl

/-- **Tables stay in order.** -/
theorem inOrder_reaches (h : l.Reaches l') (hl : References.InOrder l.references.current) :
    References.InOrder l'.references.current := by
  induction h with
  | refl => exact hl
  | tail _ hstep ih =>
    cases hstep.tableStep with
    | kept hr => exact hr ▸ ih
    | moved hr => exact hr ▸ ih.move
    | set hl' =>
      rw [hl']
      exact ih.insert _

/-- The changes from the first layout to the second one set these markers, in this order. -/
inductive Sets (l : Layout) : List Marker → Layout → Prop
  | start : Sets l [] l
  | other {ms : List Marker} {k k' : Layout} : Sets l ms k → Step k k' → k'.nextId = k.nextId →
      Sets l ms k'
  | set {ms : List Marker} {k : Layout} (name : String) (isTarget : Bool) (shift : Option Float) :
      Sets l ms k → Sets l (ms ++ [⟨name, k.currentPageNumber, k.nextId, isTarget, shift⟩])
        (k.setMarker name isTarget shift).2

theorem exists_sets (h : l.Reaches k) : ∃ ms, Sets l ms k := by
  induction h with
  | refl => exact ⟨[], .start⟩
  | tail _ hstep ih =>
    obtain ⟨ms, hms⟩ := ih
    cases hstep.tableStep with
    | kept _ hn | moved _ hn => exact ⟨ms, hms.other hstep hn⟩
    | set hl' =>
      rw [hl']
      exact ⟨_, hms.set _ _ _⟩

end Layout

namespace References

variable {r : References} {name : String} {ms : List Marker} {previous : Option JobRecord}

/-- The marker of a name that has been set last. -/
def latest? (ms : List Marker) (name : String) : Option Marker := ms.reverse.find? (·.name = name)

theorem latest?_append (ms : List Marker) (m : Marker) (name : String) :
    latest? (ms ++ [m]) name = if m.name = name then some m else latest? ms name := by
  by_cases h : m.name = name <;> simp [latest?, h]

/-- The table of a run that has set these markers after the previous run: it has the latest marker of
each name, whose page may have been corrected. -/
structure Follows (previous : Option JobRecord) (ms : List Marker) (r : References) : Prop where
  previous_eq : r.previous = previous
  set : ∀ name m, latest? ms name = some m → ∃ page, r.current? name = some { m with page }
  unset : ∀ name, latest? ms name = none → r.current? name = none

namespace Follows

theorem start (previous : Option JobRecord) : Follows previous [] (.start previous) :=
  ⟨rfl, nofun, fun _ _ => rfl⟩

theorem move (h : Follows previous ms r) (moved : String) (page : Nat) :
    Follows previous ms (r.move moved page) := by
  refine ⟨h.previous_eq, fun name m hm => ?_, fun name hm => ?_⟩
  · obtain ⟨was, hwas⟩ := h.set name m hm
    rw [current?_move, hwas]
    by_cases hname : name = moved
    · exact ⟨page, by simp [hname]⟩
    · exact ⟨was, by simp [hname]⟩
  · rw [current?_move, h.unset name hm]
    rfl

theorem set_marker (h : Follows previous ms r) (m : Marker) :
    Follows previous (ms ++ [m]) (r.set m) := by
  refine ⟨h.previous_eq, fun name n hn => ?_, fun name hn => ?_⟩
  · rw [latest?_append] at hn
    rw [current?_set]
    split at hn
    · next hname =>
      cases hn
      exact ⟨m.page, if_pos hname⟩
    · next hname =>
      rw [if_neg hname]
      exact h.set name n hn
  · rw [latest?_append] at hn
    split at hn
    · cases hn
    · next hname =>
      rw [current?_set, if_neg hname]
      exact h.unset name hn

/-- A name means the marker that has been set for it last, and what it meant to begin with until then. -/
theorem resolve? (h : Follows previous ms r) (name : String) :
    match latest? ms name with
    | some m => ∃ page, r.resolve? name = some { m with page }
    | none => r.resolve? name = (References.start previous).resolve? name := by
  cases hm : latest? ms name with
  | some m =>
    obtain ⟨page, hpage⟩ := h.set name m hm
    exact ⟨page, by rw [References.resolve?, hpage, Option.some_or]⟩
  | none =>
    rw [References.resolve?, h.unset name hm, previous?, h.previous_eq]
    rfl

end Follows

end References

/-- **A table follows the markers that have been set**, at every point of a run. -/
theorem Layout.Sets.follows {previous : Option JobRecord} {l k : Layout} {ms : List Marker}
    (h : Sets l ms k) (hl : l.references = .start previous) :
    References.Follows previous ms k.references := by
  induction h with
  | start =>
    rw [hl]
    exact .start previous
  | other _ hstep hn ih =>
    cases hstep.tableStep with
    | kept hr => exact hr ▸ ih
    | moved hr => exact hr ▸ ih.move _ _
    | set hk =>
      -- a step that sets a marker takes its number
      rw [hk] at hn
      exact absurd hn (Nat.succ_ne_self _)
  | set name isTarget shift _ ih => exact ih.set_marker _

end PageGrid
