import PageGrid.Proofs.Succession

/-!
# Where the settings of the grid come from

The settings of the grid begin as the configuration has them, and one command changes them. It reads a gap
for each direction, which may be left out, and takes over what it reads as it is; only the size of cells is
checked. No other command touches the settings, so the gaps in force at any point of a run are the last ones
that have been given before, and otherwise those of the configuration.

## Main definitions

* `Action.Answers` — what an action answers at a session;
* `Command.TakesOver` — what setting the grid does to a layout;
* `Layout.Regrids` — changes of a layout, with the gaps that have been given on the way.

## Main results

* `Command.setGrid_eq_ok`, `failsUnchanged_setGrid` — what setting the grid does;
* `Layout.Regrids.lastGiven` — which gaps are in force;
* `Job.Begins.regrids` — runs are made of such changes.
-/

namespace PageGrid

open PageGrid.Action (Quiet)

/-! ### Answers -/

namespace Action

variable {α β : Type} {x : Action α} {setting : Setting} {s : Session}

/-- The action gives this answer, asked at this session or after some remarks in its log. -/
def Answers (x : Action α) (setting : Setting) (s : Session) (a : α) : Prop :=
  ∃ u v, Session.Remarked s u ∧ x.runWith setting u = (.ok a, v)

/-- Where the action stops, the layout is as before. -/
def FailsUnchanged (x : Action α) : Prop :=
  ∀ setting s fault t, x.runWith setting s = (.error fault, t) → t.layout = s.layout

theorem Quiet.remarked (h : Quiet x) {t : Session} {r : Except Fault α}
    (hx : x.runWith setting s = (r, t)) : Session.Remarked s t := by
  have ht := (h setting s).remarked
  rwa [hx] at ht

theorem Quiet.failsUnchanged_bind {f : α → Action β} (hx : Quiet x)
    (hf : ∀ a, FailsUnchanged (f a)) : FailsUnchanged (x >>= f) := by
  intro setting s fault t h
  rw [runWith_bind] at h
  rcases hr : x.runWith setting s with ⟨e | a, u⟩
  all_goals rw [hr] at h
  · cases h
    exact hx.layout_eq hr
  · exact (hf a setting u fault t h).trans (hx.layout_eq hr)

end Action

/-! ### Setting the grid -/

/-- The gaps that a rule gives, if it gives any. -/
structure GivenGaps where
  horizontal : Option Float
  vertical : Option Float

/-- The gaps are the last ones that have been given, and otherwise those that were in force before. -/
structure GridSettings.LastGiven (before : GridSettings Float) (gaps : List GivenGaps)
    (settings : GridSettings Float) : Prop where
  horizontal : settings.horizontal.gap =
    (gaps.map (·.horizontal)).foldl (fun gap given => given.getD gap) before.horizontal.gap
  vertical : settings.vertical.gap =
    (gaps.map (·.vertical)).foldl (fun gap given => given.getD gap) before.vertical.gap

namespace Command

open Attributes

/-- The settings of the grid are changed, and nothing else: a gap that is given is taken over, whatever it
is, and the cells have a size. -/
structure TakesOver (given : GivenGaps) (l l' : Layout) : Prop where
  frame : l' = { l with gridSettings := l'.gridSettings }
  horizontal : l'.gridSettings.horizontal.gap = given.horizontal.getD l.gridSettings.horizontal.gap
  vertical : l'.gridSettings.vertical.gap = given.vertical.getD l.gridSettings.vertical.gap
  width : ¬ l'.gridSettings.horizontal.cell ≤ 0
  height : ¬ l'.gridSettings.vertical.cell ≤ 0

/-- These are the gaps that the rule gives at the session. -/
structure Gives (rule : Rule) (focus : Focus) (setting : Setting) (s : Session) (given : GivenGaps) :
    Prop where
  horizontal : (length? rule "dx" focus).Answers setting s given.horizontal
  vertical : (length? rule "dy" focus).Answers setting s given.vertical

variable {children : Children} {rule : Rule} {focus : Focus} {setting : Setting} {s t : Session}
  {items : Items}

/-- **Setting the grid fails without a change.** -/
theorem failsUnchanged_setGrid (children : Children) (rule : Rule) (focus : Focus) :
    Action.FailsUnchanged (setGrid children rule focus) := by
  refine (quiet_length? rule _ focus).failsUnchanged_bind fun _ =>
    (quiet_length? rule _ focus).failsUnchanged_bind fun _ =>
      (quiet_cells? rule _ focus).failsUnchanged_bind fun _ =>
        (quiet_cells? rule _ focus).failsUnchanged_bind fun _ =>
          (quiet_length? rule _ focus).failsUnchanged_bind fun _ =>
            (quiet_length? rule _ focus).failsUnchanged_bind fun _ =>
              Action.quiet_layout.failsUnchanged_bind fun l => ?_
  dsimp only
  intro setting s fault t h
  split at h
  · cases h
    rfl
  · cases h

/-- **Setting the grid takes over the gaps that are given.** -/
theorem setGrid_eq_ok (h : (setGrid children rule focus).runWith setting s = (.ok items, t)) :
    ∃ given, Gives rule focus setting s given ∧ TakesOver given s.layout t.layout := by
  obtain ⟨width, s₁, hwidth, h⟩ := Action.runWith_bind_eq_ok.mp h
  obtain ⟨height, s₂, hheight, h⟩ := Action.runWith_bind_eq_ok.mp h
  obtain ⟨columns, s₃, hcolumns, h⟩ := Action.runWith_bind_eq_ok.mp h
  obtain ⟨rows, s₄, hrows, h⟩ := Action.runWith_bind_eq_ok.mp h
  obtain ⟨dx, s₅, hdx, h⟩ := Action.runWith_bind_eq_ok.mp h
  obtain ⟨dy, s₆, hdy, h⟩ := Action.runWith_bind_eq_ok.mp h
  rw [Action.runWith_bind_of_ok Action.runWith_layout] at h
  have hbefore : Session.Remarked s s₄ := by
    calc Session.Remarked s s₁ := (quiet_length? rule _ focus).remarked hwidth
      Session.Remarked _ s₂ := (quiet_length? rule _ focus).remarked hheight
      Session.Remarked _ s₃ := (quiet_cells? rule _ focus).remarked hcolumns
      Session.Remarked _ s₄ := (quiet_cells? rule _ focus).remarked hrows
  have hlast : Session.Remarked s s₅ :=
    trans_of Session.Remarked hbefore ((quiet_length? rule _ focus).remarked hdx)
  have hlayout : s₆.layout = s.layout :=
    ((quiet_length? rule _ focus).layout_eq hdy).trans hlast.logged.layout_eq
  refine ⟨⟨dx, dy⟩, ⟨⟨s₄, s₅, hbefore, hdx⟩, ⟨s₅, s₆, hlast, hdy⟩⟩, ?_⟩
  dsimp only at h
  split at h
  · cases h
  · next hcells =>
    cases h
    obtain ⟨hwidth, hheight⟩ := not_or.mp hcells
    rw [← hlayout]
    exact ⟨rfl, rfl, rfl, hwidth, hheight⟩

end Command

/-! ### Changes of a layout -/

namespace Layout

variable {l m k : Layout} {gaps gaps' : List GivenGaps}

/-- The second layout comes from the first one by changes, and these are the gaps that rules have given on
the way which set the grid, in their order. All other changes keep the settings of the grid. -/
inductive Regrids : Layout → List GivenGaps → Layout → Prop
  | refl (l : Layout) : Regrids l [] l
  | step {l m k : Layout} {gaps : List GivenGaps} : Regrids l gaps m → Step m k →
      k.gridSettings = m.gridSettings → Regrids l gaps k
  | setGrid {l k : Layout} {gaps : List GivenGaps} {rule : Rule} {focus : Focus} {setting : Setting}
      {s : Session} {given : GivenGaps} : Regrids l gaps s.layout →
      Command.Gives rule focus setting s given → Command.TakesOver given s.layout k →
        Regrids l (gaps ++ [given]) k

theorem Regrids.trans (h : Regrids l gaps m) (h' : Regrids m gaps' k) : Regrids l (gaps ++ gaps') k := by
  induction h' with
  | refl => rwa [List.append_nil]
  | step _ hstep hkept ih => exact .step ih hstep hkept
  | setGrid _ hgives htakes ih =>
    rw [← List.append_assoc]
    exact .setGrid ih hgives htakes

/-- **The gaps in force are the last ones that have been given.** -/
theorem Regrids.lastGiven (h : Regrids l gaps k) : l.gridSettings.LastGiven gaps k.gridSettings := by
  induction h with
  | refl => exact ⟨rfl, rfl⟩
  | step _ _ hkept ih => rwa [hkept]
  | setGrid _ _ htakes ih =>
    constructor
    · rw [htakes.horizontal, ih.horizontal]
      simp
    · rw [htakes.vertical, ih.vertical]
      simp

theorem gridSettings_startGroup {name : String} (h : l.startGroup name = .ok k) :
    k.gridSettings = l.gridSettings := by
  obtain ⟨grid, rfl⟩ := startGroup_eq_ok h
  rfl

theorem gridSettings_endGroup : l.endGroup.2.gridSettings = l.gridSettings := by
  rw [endGroup]
  split <;> rfl

end Layout

/-! ### Runs -/

/-- The layout of the second session comes from that of the first one by such changes. -/
def Session.Regridded (s : Session) (_ : Option Fault) (t : Session) : Prop :=
  ∃ gaps, s.layout.Regrids gaps t.layout

namespace Session

theorem regridded_of_layout_eq {s t : Session} {fault : Option Fault} (h : t.layout = s.layout) :
    Regridded s fault t := ⟨[], h ▸ .refl t.layout⟩

instance : Sequential Regridded where
  refl _ := regridded_of_layout_eq rfl
  stop _ _ _ := regridded_of_layout_eq rfl
  trans := by
    rintro s t u fault ⟨gaps, h⟩ ⟨gaps', h'⟩
    exact ⟨gaps ++ gaps', h.trans h'⟩

instance : Reporting Regridded where
  asked h := regridded_of_layout_eq h.remarked.logged.layout_eq
  explained _ := regridded_of_layout_eq rfl
  assign _ _ _ := regridded_of_layout_eq rfl
  change h hkept := ⟨[], .step (.refl _) (.change h) hkept⟩
  setGrid children rule focus setting s := by
    rcases hrun : (Command.setGrid children rule focus).runWith setting s with ⟨fault | items, t⟩
    · exact regridded_of_layout_eq (Command.failsUnchanged_setGrid children rule focus setting s fault t hrun)
    · obtain ⟨given, hgives, htakes⟩ := Command.setGrid_eq_ok hrun
      exact ⟨[given], .setGrid (.refl _) hgives htakes⟩
  scope _ h := h
  group := by
    rintro s t fault name l hl ⟨gaps, h⟩
    have hbegun := Layout.Regrids.step (.refl s.layout) (.startGroup hl) (Layout.gridSettings_startGroup hl)
    exact ⟨gaps, .step (hbegun.trans h) (.endGroup _) Layout.gridSettings_endGroup⟩
  report _ _ h := h

end Session

/-- **Runs are made of changes that keep the settings, and of rules that set the grid.** -/
theorem Job.Begins.regrids {job : Job} {files : FileTree} {nextId : Nat} {layout data : String}
    {rules : Rule} {document : Xml.Document} {s : Session}
    (h : Begins job files nextId layout data rules document s) (depth : Nat) (sink : PageSink) :
    ∃ gaps, s.layout.Regrids gaps ((program depth rules document.root.name).runWith
      (job.setting files document sink) s).2.layout := by
  have hwithin : Action.WithinOf Session.Regridded (program depth rules document.root.name)
      (job.setting files document sink) s :=
    withinOf_programWith (Interpreter.within_execute depth) (Interpreter.tame_execute depth) rules
      document.root.name h.idle.1
  exact hwithin

end PageGrid
