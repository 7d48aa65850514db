import PageGrid.Proofs.Tame

/-!
# Groups are laid out away from the page

While a group is being filled the layout has a stack of open groups, and everything goes to the top
one. The invariant is that of a balanced bracket: what happens inside leaves the page and the groups
below the top one alone, so that the end of the group gives back the stack from before its
beginning.

The guards are spread over many commands, but `Layout.Change` collects them: a page is opened only
where there is no target, which a group is, and finished only outside groups.

## Main definitions

* `Layout.PagesKept` — the same page, the same number of pages and the same finished pages;
* `Layout.InsideGroup` — in addition, the same groups below the innermost one.

## Main results

* `Effect.insideGroup` — what rules do while a group is being filled;
* `execute_group_isolated` — a group leaves the page and the open groups as they were.
-/

namespace PageGrid

namespace Layout

variable {l l' l'' : Layout}

/-- The open page, the number of pages and the finished pages are the same. -/
structure PagesKept (l l' : Layout) : Prop where
  page : l'.page = l.page
  pageCount : l'.pageCount = l.pageCount
  finished : l'.finished = l.finished

theorem PagesKept.rfl : PagesKept l l := ⟨Eq.refl _, Eq.refl _, Eq.refl _⟩

theorem PagesKept.trans (h : PagesKept l l') (h' : PagesKept l' l'') : PagesKept l l'' :=
  ⟨h'.page.trans h.page, h'.pageCount.trans h.pageCount, h'.finished.trans h.finished⟩

/-- A group is still being filled, and the pages and the groups below it are the same. -/
structure InsideGroup (l l' : Layout) : Prop extends PagesKept l l' where
  inGroup : l'.inGroup = true
  outer : l'.openGroups.tail = l.openGroups.tail

theorem InsideGroup.rfl (h : l.inGroup = true) : InsideGroup l l := ⟨.rfl, h, Eq.refl _⟩

theorem InsideGroup.trans (h : InsideGroup l l') (h' : InsideGroup l' l'') : InsideGroup l l'' :=
  ⟨h.toPagesKept.trans h'.toPagesKept, h'.inGroup, h'.outer.trans h.outer⟩

/-! ### Changes while a group is being filled -/

theorem insideGroup_setTargetGrid (hg : l.inGroup = true) (g : Grid Float) :
    InsideGroup l (l.setTargetGrid g) := by
  obtain ⟨group, outer, ho⟩ := inGroup_eq_true.mp hg
  refine ⟨⟨?_, pageCount_setTargetGrid g, finished_setTargetGrid g⟩, ?_, ?_⟩
  · simp [setTargetGrid, ho]
  · rw [inGroup_setTargetGrid, hg]
  · simp [setTargetGrid, ho]

theorem insideGroup_place (hg : l.inGroup = true) {x y : Float} {box : ContentBox Float}
    (h : l.place x y box = some l') : InsideGroup l l' := by
  obtain ⟨group, outer, ho⟩ := inGroup_eq_true.mp hg
  simp only [place, ho] at h
  cases h
  refine ⟨⟨rfl, rfl, rfl⟩, rfl, ?_⟩
  rw [ho]
  rfl

/-- The guards of the changes that open or finish a page exclude groups. -/
theorem Change.insideGroup (h : Change l l') (hg : l.inGroup = true) : InsideGroup l l' := by
  cases h with
  | setGrid settings => exact ⟨⟨rfl, rfl, rfl⟩, hg, rfl⟩
  | record element mode rule => exact ⟨⟨rfl, rfl, rfl⟩, hg, rfl⟩
  | register type => exact ⟨⟨rfl, rfl, rfl⟩, hg, rfl⟩
  | mark name isTarget shift => exact ⟨⟨rfl, rfl, rfl⟩, hg, rfl⟩
  | openPage ht => simp [hasTarget, hg] at ht
  | finishPage ho | losePage ho => simp [hg] at ho
  | grid _ _ => exact insideGroup_setTargetGrid hg _
  | place h => exact insideGroup_place hg h

/-! ### The bracket -/

/-- Ending a group gives back the stack from before its beginning. -/
theorem closed_group {name : String} {l₁ l₂ : Layout} (h : l.startGroup name = .ok l₁)
    (h₁ : InsideGroup l₁ l₂) :
    PagesKept l l₂.endGroup.2 ∧ l₂.endGroup.2.openGroups = l.openGroups := by
  obtain ⟨grid, rfl⟩ := startGroup_eq_ok h
  obtain ⟨group, outer, ho⟩ := inGroup_eq_true.mp h₁.inGroup
  have houter : outer = l.openGroups := by simpa [ho] using h₁.outer
  simp only [endGroup, ho]
  exact ⟨⟨h₁.page, h₁.pageCount, h₁.finished⟩, houter⟩

theorem inGroup_startGroup {name : String} (h : l.startGroup name = .ok l') :
    l'.inGroup = true := by
  obtain ⟨grid, rfl⟩ := startGroup_eq_ok h
  rfl

end Layout

open Layout (PagesKept InsideGroup)

variable {reports : Prop} {s t : Session} {fault : Option Fault}

/-- **Inside a group.** Whatever rules do while a group is being filled, they do to this group. -/
theorem Session.Effect.insideGroup (h : Session.Effect reports s fault t)
    (hg : s.layout.inGroup = true) : InsideGroup s.layout t.layout := by
  induction h with
  | refl | stop | log | assign => exact .rfl hg
  | trans _ _ ih ih' => exact (ih hg).trans (ih' (ih hg).inGroup)
  | change h => exact h.insideGroup hg
  | scope _ _ ih | report _ _ _ _ ih => exact ih hg
  | @group s t _ name l hl _ ih =>
    obtain ⟨hpages, ho⟩ := Layout.closed_group hl (ih (Layout.inGroup_startGroup hl))
    refine ⟨hpages, ?_, by rw [ho]⟩
    simpa [Layout.inGroup, ho] using hg

/-- The command of groups, given the effect of its contents. -/
theorem Command.group_isolated {children : Children}
    (hc : ∀ rule focus, Action.Tame reports (children rule focus))
    (rule : Rule) (focus : Focus) (setting : Setting) (s : Session) :
    PagesKept s.layout ((group children rule focus).runWith setting s).2.layout ∧
      ((group children rule focus).runWith setting s).2.layout.openGroups =
        s.layout.openGroups := by
  obtain h | ⟨name, s₁, l, t, hs₁, hl, ht, h⟩ := effect_group hc rule focus setting s
  · rw [h.remarked.logged.layout_eq]
    exact ⟨.rfl, rfl⟩
  · rw [h, ← hs₁.logged.layout_eq]
    exact Layout.closed_group hl (ht.insideGroup (Layout.inGroup_startGroup hl))

namespace Interpreter

/-- **A group does not touch the page.** Applying a group, with any contents and whether or not they
fail, leaves the open page, the number of pages, the finished pages and the open groups as they
were. The same holds for every rule that is applied while a group is being filled, apart from that
group itself. -/
theorem execute_group_isolated (depth : Nat) (rule : Rule) (focus : Focus) (setting : Setting)
    (s : Session) :
    (rule.name = "Group" →
      PagesKept s.layout ((execute depth rule focus).runWith setting s).2.layout ∧
        ((execute depth rule focus).runWith setting s).2.layout.openGroups = s.layout.openGroups) ∧
    (s.layout.inGroup = true →
      InsideGroup s.layout ((execute depth rule focus).runWith setting s).2.layout) := by
  refine ⟨fun hname => ?_, (tame_execute depth rule focus setting s).insideGroup⟩
  obtain h | ⟨below, command, -, hcommand, h⟩ := execute_exit depth rule focus setting s
  · rw [h.layout_eq]
    exact ⟨.rfl, rfl⟩
  · rw [hname] at hcommand
    obtain rfl : CommandName.group = command := Option.some.inj hcommand
    rw [h.layout_eq]
    exact Command.group_isolated (tame_executeChildren below) rule focus setting s

/-- A group whose contents ask for a new page. -/
def groupWithNewPage : Rule :=
  .bare "Group" [("name", "inner")] [.bare "Contents" [] [.bare "NewPage" [] []]]

theorem execute_group_isolated_firstPage :
    PagesKept Session.firstPage.layout
      ((execute 3 groupWithNewPage .root).runWith .bare .firstPage).2.layout ∧
    ∃ s : Session, s.layout.inGroup = true ∧
      InsideGroup s.layout ((execute 3 groupWithNewPage .root).runWith .bare s).2.layout := by
  have hstart : (Session.firstPage.layout.startGroup "outer").toOption.isSome = true := by
    decide +kernel
  refine ⟨((execute_group_isolated 3 groupWithNewPage .root .bare .firstPage).1 rfl).1, ?_⟩
  cases hl : Session.firstPage.layout.startGroup "outer" with
  | error e => simp [hl, Except.toOption] at hstart
  | ok l =>
    have hg := Layout.inGroup_startGroup hl
    exact ⟨{ Session.firstPage with layout := l }, hg,
      (execute_group_isolated 3 groupWithNewPage .root .bare _).2 hg⟩

end Interpreter

end PageGrid
