import PageGrid.Interpreter
import PageGrid.Proofs.Opening

/-!
# Actions that leave the variables alone

Variables change in two ways only: one rule assigns to them, and the rules that repeat others put them into
scopes of their own. No other command touches the scopes, on whatever way it goes, and whether or not it
stops. This module goes through the commands that apply no rules and through the parts of the other ones.

## Main definitions

* `Action.Inert` — the action leaves all scopes as they are.
-/

namespace PageGrid

/-- The scopes are the same, whatever else has changed. -/
def Session.SameScopes (s : Session) (_ : Option Fault) (t : Session) : Prop := t.scopes = s.scopes

instance : Session.Sequential Session.SameScopes where
  refl _ := rfl
  stop _ _ _ := rfl
  trans h h' := h'.trans h

theorem Session.Remarked.scopes_eq {s t : Session} (h : Remarked s t) : t.scopes = s.scopes := by
  obtain ⟨_, -, rfl⟩ := h
  rfl

namespace Action

variable {α : Type}

/-- The action leaves all scopes as they are. -/
abbrev Inert (x : Action α) : Prop := Within Session.SameScopes x

theorem Quiet.inert {x : Action α} (h : Quiet x) : Inert x := h.mono fun h => h.remarked.scopes_eq

theorem Inert.scopes_eq {x : Action α} (h : Inert x) {setting : Setting} {s t : Session}
    {r : Except Fault α} (hx : x.runWith setting s = (r, t)) : t.scopes = s.scopes := by
  have ht := h setting s
  rwa [hx] at ht

theorem inert_setLayout (l : Layout) : Inert (setLayout l) := fun _ _ => rfl

theorem inert_modifyLayout (f : Layout → Layout) : Inert (modifyLayout f) := fun _ _ => rfl

theorem inert_log (entries : List LogEntry) : Inert (log entries) := fun _ _ => rfl

theorem inert_finishPage : Inert finishPage := by
  intro setting s
  rw [runWith_finishPage]
  split <;> rfl

theorem inert_ensureTarget (focus : Focus) : Inert (ensureTarget focus) := by
  intro setting s
  have hexit := ensureTarget_exit focus setting s
  generalize (ensureTarget focus).runWith setting s = x at hexit ⊢
  obtain ⟨r, t⟩ := x
  cases hexit with
  | present _ => rfl
  | opened _ _ _ hl => exact hl.scopes_eq
  | failed _ _ hl => exact hl.scopes_eq

end Action

open PageGrid.Action (Inert Quiet Within)

namespace Attributes

theorem inert_lengths (rule : Rule) (focus : Focus) (names : List (String × Direction)) :
    Inert (lengths rule focus names) := by
  refine (quiet_extents rule focus names).inert.bind fun found => .ite ?_ (.pure _)
  exact (Action.inert_ensureTarget focus).bind fun _ =>
    (Action.quiet_targetGrid rule).inert.bind fun _ => .pure _

end Attributes

namespace Command

open Attributes

variable (rule : Rule) (focus : Focus) (children : Children)

/-! ### Values and boxes -/

theorem inert_copyOf : Inert (copyOf children rule focus) :=
  (quiet_expression rule _).inert.bind fun _ =>
    (Action.quiet_evaluate _ focus).inert.bind fun _ => .pure _

theorem inert_defaultWidth : Inert (defaultWidth rule focus) :=
  (Action.inert_ensureTarget focus).bind fun _ => (Action.quiet_targetGrid rule).inert.bind fun _ =>
    (Action.quiet_ofExcept _ _ nofun).inert.bind fun _ => .pure _

theorem inert_image : Inert (image children rule focus) :=
  (quiet_text rule _ focus).inert.bind fun _ => (quiet_length? rule _ focus).inert.bind fun _ =>
    (quiet_length? rule _ focus).inert.bind fun _ => (quiet_imageSource _ _ _).inert.bind fun _ =>
      (inert_lengths rule focus _).bind fun _ => (quiet_flag rule _ focus _).inert.bind fun _ =>
        .pure _

theorem inert_filledBox : Inert (filledBox children rule focus) := by
  refine (quiet_text? rule _ focus).inert.bind fun _ =>
    (inert_lengths rule focus _).bind fun sides => ?_
  split
  · exact .pure _
  · exact .stop _ nofun
  · exact .stop _ nofun

/-! ### Declarations -/

theorem inert_recordRule : Inert (recordRule children rule focus) :=
  (quiet_text rule _ focus).inert.bind fun _ => (quiet_textOr rule _ focus _).inert.bind fun _ =>
    (Action.inert_modifyLayout _).bind fun _ => .pure _

theorem inert_declarePageType : Inert (declarePageType children rule focus) :=
  (quiet_text rule _ focus).inert.bind fun _ => (quiet_expression rule _).inert.bind fun _ =>
    (Action.quiet_ofExcept _ _ nofun).inert.bind fun _ => Action.quiet_layout.inert.bind fun _ =>
      (quiet_pageTypeParts focus _ _).inert.bind fun _ =>
        (Action.inert_modifyLayout _).bind fun _ => .pure _

theorem inert_setGrid : Inert (setGrid children rule focus) := by
  refine (quiet_length? rule _ focus).inert.bind fun _ =>
    (quiet_length? rule _ focus).inert.bind fun _ => (quiet_cells? rule _ focus).inert.bind fun _ =>
      (quiet_cells? rule _ focus).inert.bind fun _ => (quiet_length? rule _ focus).inert.bind fun _ =>
        (quiet_length? rule _ focus).inert.bind fun _ => Action.quiet_layout.inert.bind fun _ => ?_
  have hset (settings : GridSettings Float) : Inert (do
      Action.modifyLayout fun l => { l with gridSettings := settings }
      return ([] : Items)) :=
    (Action.inert_modifyLayout _).bind fun _ => .pure _
  dsimp only
  split
  · exact (Within.refuse _ _).bind fun _ => hset _
  · exact hset _

theorem inert_mark : Inert (mark children rule focus) := by
  refine (quiet_expression rule _).inert.bind fun select =>
    (Action.quiet_evaluate select focus).inert.bind fun _ =>
      (Action.quiet_textOf _).inert.bind fun name => ?_
  have hset : Inert (do
      let isTarget ← flag rule "pdftarget" focus false
      let shift ← length? rule "shift" focus
      Action.modifyLayout fun l => (l.setMarker name isTarget shift).2
      return ([] : Items)) :=
    (quiet_flag rule _ focus _).inert.bind fun _ => (quiet_length? rule _ focus).inert.bind fun _ =>
      (Action.inert_modifyLayout _).bind fun _ => .pure _
  dsimp only
  split
  · exact (Within.refuse _ _).bind fun _ => hset
  · exact hset

theorem inert_newPage : Inert (newPage children rule focus) := by
  refine Action.quiet_layout.inert.bind fun l => ?_
  dsimp only
  split
  · exact (Action.quiet_warn _).inert.bind fun _ => .pure _
  · exact (Action.inert_ensureTarget focus).bind fun _ => Action.inert_finishPage.bind fun _ => .pure _

/-! ### Placement -/

theorem inert_flowOnTarget (area : String) (columns rows : Nat) :
    Inert (flowOnTarget rule area columns rows) :=
  (Action.quiet_targetGrid rule).inert.bind fun _ => (Action.quiet_ofExcept _ _ nofun).inert.bind fun _ =>
    (Action.inert_modifyLayout _).bind fun _ => .pure _

theorem inert_flowPlace? (area : String) (columns rows : Nat) :
    Inert (flowPlace? rule focus area columns rows) := by
  refine (inert_flowOnTarget rule area columns rows).bind fun place => ?_
  cases place with
  | some place => exact .pure _
  | none =>
    refine (Action.quiet_targetGrid rule).inert.bind fun _ =>
      (Action.quiet_ofExcept _ _ nofun).inert.bind fun _ => Action.quiet_layout.inert.bind fun _ => ?_
    refine .ite (.pure _) ?_
    exact Action.inert_finishPage.bind fun _ => (Action.inert_ensureTarget focus).bind fun _ =>
      inert_flowOnTarget rule area columns rows

theorem inert_flowPosition (area : String) (columns rows : Nat) :
    Inert (flowPosition rule focus area columns rows) := by
  refine (inert_flowPlace? rule focus area columns rows).bind fun place => ?_
  cases place with
  | some place => exact .pure place
  | none => exact (quiet_overflow rule area columns rows).inert

theorem inert_cellFor (area : String) (column row : Option Int) (columns rows : Nat) :
    Inert (cellFor rule focus area column row columns rows) := by
  refine .ite ?_ ((inert_flowPosition rule focus area columns rows).bind fun _ => .pure _)
  exact (Action.quiet_targetGrid rule).inert.bind fun _ =>
    (Action.quiet_ofExcept _ _ nofun).inert.bind fun _ => .pure _

theorem inert_markBlock (area : String) (x y : Int) (columns rows : Nat) :
    Inert (markBlock rule area x y columns rows) :=
  (Action.quiet_targetGrid rule).inert.bind fun _ => (Action.quiet_ofExcept _ _ nofun).inert.bind fun _ =>
    (Action.inert_modifyLayout _).bind fun _ => Action.inert_log _

theorem inert_placeBox (x y : Float) (box : ContentBox Float) : Inert (placeBox x y box) :=
  Action.inert_modifyLayout _

theorem inert_placeAtCell (area : String) (allocate : Bool) (x y : Int) (columns rows : Nat)
    (box : ContentBox Float) : Inert (placeAtCell rule area allocate x y columns rows box) := by
  refine (Action.quiet_targetGrid rule).inert.bind fun _ =>
    (Action.quiet_ofExcept _ _ nofun).inert.bind fun left =>
      (Action.quiet_ofExcept _ _ nofun).inert.bind fun top => ?_
  dsimp only
  split
  · exact (inert_markBlock rule area x y columns rows).bind fun _ => inert_placeBox left top box
  · exact inert_placeBox left top box

theorem inert_placeByCoordinates (area : String) (allocate : Bool) (column row : Option Int)
    (box : ContentBox Float) (x y : Option Float) :
    Inert (placeByCoordinates rule focus area allocate column row box x y) := by
  unfold placeByCoordinates
  split
  · exact inert_placeBox _ _ box
  · exact (Action.quiet_targetGrid rule).inert.bind fun _ =>
      (inert_cellFor rule focus area column row _ _).bind fun _ =>
        inert_placeAtCell rule area allocate _ _ _ _ box
  · exact .stop _ nofun

theorem inert_nextRow : Inert (nextRow children rule focus) := by
  have hleave (grid : Grid Float) (moved : Bool) : Inert (do
      Action.setTargetGrid grid
      if !moved && !(← Action.layout).inGroup then Action.finishPage
      return ([] : Items)) := by
    refine (Action.inert_modifyLayout _).bind fun _ => Action.quiet_layout.inert.bind fun _ => ?_
    dsimp only
    split
    · exact Action.inert_finishPage.bind fun _ => .pure _
    · exact .pure _
  refine (quiet_textOr rule _ focus _).inert.bind fun area =>
    (quiet_cells? rule _ focus).inert.bind fun rows =>
      (Action.inert_ensureTarget focus).bind fun _ =>
        (Action.quiet_targetGrid rule).inert.bind fun _ =>
          (Action.quiet_ofExcept _ _ nofun).inert.bind fun (grid, moved) => ?_
  dsimp only
  split
  · exact hleave grid true
  · exact (Action.quiet_ofExcept _ _ nofun).inert.bind fun (grid, advanced) => hleave grid advanced

end Command

end PageGrid
