import PageGrid.Interpreter
import PageGrid.Proofs.Action
import PageGrid.Proofs.Variation

/-!
# Actions that are indifferent to another beginning

An action is indifferent to a variation if, in a session with the other beginning, it ends as it would
have ended in the session itself, with the same fault or with the same value, and leaves the session that
it would have left, with the other beginning. The value may hold numbers of destinations, so it is the
same up to a function; the action that goes on with it sees the one value or the other.

Sequencing keeps this as an equation between two runs: what the second part is given, by the value as by
the session, is what the first part would have left. So a sequence is looked at once for each part, and
the readers of attributes need nothing of their parts but that expressions are indifferent. These are,
because they see the layout only through the functions about it.

## Main definitions

* `Action.Indifferent` — two actions that do the same in a session and with another beginning;
* `Action.Steady` — an action that does the same, with the same value.

## Main results

* `Indifferent.bind` — sequencing;
* `steady_evaluate`, `steady_expand` — expressions and templates;
* `steady_ensureTarget` — pages are opened alike.
-/

namespace PageGrid

variable (v : Variation)

namespace Action

variable {α β ε : Type} {f : α → α} {g : β → β}

/-- What the first action does in a session, the second one does with another beginning. A value of the
first is `f` of it in the second. Numbers of destinations must be all the same to the sink. -/
def Indifferent (f : α → α) (x y : Action α) : Prop :=
  ∀ setting s, setting.sink.Blind → y.runWith (setting.vary v) (s.vary v) =
    ((x.runWith setting s).1.map f, (x.runWith setting s).2.vary v)

/-- The action does with another beginning what it does in a session, and has the same value. -/
abbrev Steady (x : Action α) : Prop := Indifferent v id x x

variable {v}

/-! ### Sequences -/

theorem Indifferent.pure {a b : α} (h : f a = b) : Indifferent v f (Pure.pure a) (Pure.pure b) := by
  intro setting s hsink
  rw [runWith_pure, runWith_pure, ← h]
  rfl

theorem Indifferent.stop (cause : FaultCause) :
    Indifferent v f (Action.stop cause) (Action.stop cause) :=
  fun _ _ _ => rfl

theorem Indifferent.refuse (rule : Rule) (issue : RuleIssue) :
    Indifferent v f (Action.refuse rule issue) (Action.refuse rule issue) :=
  .stop _

/-- **Sequencing.** What follows is given the value and the session that it would have been given. -/
theorem Indifferent.bind {x y : Action α} {k k' : α → Action β} (hx : Indifferent v f x y)
    (hk : ∀ a, Indifferent v g (k a) (k' (f a))) : Indifferent v g (x >>= k) (y >>= k') := by
  intro setting s hsink
  rw [runWith_bind, runWith_bind, hx setting s hsink]
  rcases x.runWith setting s with ⟨fault | a, t⟩
  · rfl
  · exact hk a setting t hsink

theorem Indifferent.ite {c : Prop} [Decidable c] {x x' y y' : Action α} (hx : Indifferent v f x x')
    (hy : Indifferent v f y y') : Indifferent v f (if c then x else y) (if c then x' else y') := by
  split
  · exact hx
  · exact hy

/-- What comes after an action in any case. -/
theorem Indifferent.followedBy {x y : Action α} {after after' : Action Unit}
    (hx : Indifferent v f x y) (hafter : Indifferent v id after after') :
    Indifferent v f (x.followedBy after) (y.followedBy after') := by
  intro setting s hsink
  have hfirst := hx setting s hsink
  have hthen (t : Session) := hafter setting t hsink
  dsimp only [Action.followedBy, runWith] at hfirst hthen ⊢
  rw [hfirst]
  rcases x setting s with ⟨fault | a, t⟩
  · dsimp only [Except.map]
    rw [hthen t]
  · dsimp only [Except.map]
    rw [hthen t]
    rcases after setting t with ⟨_ | _, u⟩ <;> rfl

/-- A fault is logged with the same text. -/
theorem Indifferent.reporting {x y : Action α} (hx : Indifferent v f x y) (place : String) :
    Indifferent v f (x.reporting place) (y.reporting place) := by
  intro setting s hsink
  rw [runWith_reporting, runWith_reporting, hx setting s hsink]
  rcases x.runWith setting s with ⟨fault | a, t⟩
  · dsimp only [Except.map]
    split
    · rfl
    · rw [Session.logging_vary]
  · rfl

theorem Steady.bind {x : Action α} {k k' : α → Action β} (hx : Steady v x)
    (hk : ∀ a, Indifferent v g (k a) (k' a)) : Indifferent v g (x >>= k) (x >>= k') :=
  Indifferent.bind hx hk

theorem Steady.map {x : Action α} (hx : Steady v x) (h : α → β) : Steady v (h <$> x) :=
  hx.bind fun _ => .pure rfl

/-! ### The session -/

/-- What reads the setting goes on with the other files. -/
theorem indifferent_read {k k' : Setting → Action β}
    (h : ∀ setting, Indifferent v g (k setting) (k' (setting.vary v))) :
    Indifferent v g (read >>= k) (read >>= k') :=
  fun setting s hsink => h setting setting s hsink

theorem indifferent_layout : Indifferent v (Layout.vary v) layout layout := fun _ _ _ => rfl

theorem indifferent_setLayout (l : Layout) : Indifferent v id (setLayout l) (setLayout (l.vary v)) :=
  fun _ _ _ => rfl

theorem indifferent_modifyLayout {h h' : Layout → Layout} (hh : ∀ l, h' (l.vary v) = (h l).vary v) :
    Indifferent v id (modifyLayout h) (modifyLayout h') := by
  intro setting s hsink
  rw [runWith_modifyLayout, runWith_modifyLayout]
  change (Except.ok (), { s.vary v with layout := h' (s.layout.vary v) }) = _
  rw [hh]
  rfl

theorem steady_modifyScopes (h : Scopes → Scopes) : Steady v (modifyScopes h) := fun _ _ _ => rfl

theorem steady_log (entries : List LogEntry) : Steady v (log entries) := by
  intro setting s hsink
  change (Except.ok (), (s.vary v).logging entries) = _
  rw [Session.logging_vary]
  rfl

theorem steady_warn (text : String) : Steady v (warn text) := steady_log _

theorem indifferent_ofExcept (cause : ε → FaultCause) (r : Except ε α) :
    Indifferent v f (ofExcept cause r) (ofExcept cause (r.map f)) := by
  cases r with
  | ok a => exact .pure rfl
  | error e => exact .stop _

theorem steady_ofExcept (cause : ε → FaultCause) (r : Except ε α) : Steady v (ofExcept cause r) := by
  cases r with
  | ok a => exact .pure rfl
  | error e => exact .stop _

theorem steady_targetGrid (rule : Rule) : Steady v (targetGrid rule) := by
  refine indifferent_layout.bind fun l => ?_
  rw [Layout.targetGrid?_vary]
  cases l.targetGrid? with
  | some grid => exact .pure rfl
  | none => exact .stop _

theorem steady_setTargetGrid (grid : Grid Float) : Steady v (setTargetGrid grid) :=
  indifferent_modifyLayout fun l => l.setTargetGrid_vary v grid

/-! ### Expressions and templates -/

/-- **What is evaluated sees the same** document, variables and functions. -/
theorem steady_context (focus : Focus) : Steady v (context focus) := by
  intro setting s hsink
  have hrun : ∀ setting s, (context focus).runWith setting s = (.ok { focus with
      document := setting.data
      bindings := s.scopes.lookup?
      extension := fun _ => s.layout.extension setting.data }, s) := fun _ _ => rfl
  rw [hrun, hrun]
  have hextension : (s.vary v).layout.extension setting.data = s.layout.extension setting.data :=
    s.layout.extension_vary v setting.data
  change (Except.ok (_ : Context), s.vary v) = _
  simp only [Setting.vary, hextension]
  rfl

theorem steady_noted (cause : ε → FaultCause) (x : Noted ε α) : Steady v (noted cause x) :=
  (steady_log _).bind fun _ => steady_ofExcept _ _

theorem steady_evaluate (text : String) (focus : Focus) : Steady v (evaluate text focus) :=
  (steady_ofExcept _ _).bind fun _ => (steady_context focus).bind fun _ => steady_noted _ _

theorem steady_textOf (value : Value) : Steady v (textOf value) :=
  indifferent_read fun _ => .pure rfl

theorem steady_expand (text : String) (focus : Focus) : Steady v (expand text focus) :=
  (steady_ofExcept _ _).bind fun _ => (steady_context focus).bind fun _ => steady_noted _ _

/-! ### Pages -/

theorem steady_isEligible (focus : Focus) (type : PageType Float) :
    Steady v (isEligible focus type) := by
  refine (steady_evaluate _ _).bind fun value => ?_
  cases value with
  | boolean b => exact .pure rfl
  | _ => exact .stop _

theorem steady_firstEligible (focus : Focus) (types : List (PageType Float)) :
    Steady v (PageTypes.firstEligible (isEligible focus) types) := by
  induction types with
  | nil => exact .pure rfl
  | cons type rest ih => exact (steady_isEligible focus type).bind fun _ => .ite (.pure rfl) ih

theorem steady_selectPageType (focus : Focus) : Steady v (selectPageType focus) := by
  refine indifferent_layout.bind fun l => (steady_firstEligible focus _).bind fun selected => ?_
  cases selected with
  | some type => exact .pure rfl
  | none => exact .stop _

theorem steady_finishPage : Steady v finishPage := by
  intro setting s hsink
  have htaken : (s.vary v).layout.isTaken (setting.vary v).sink = s.layout.isTaken setting.sink :=
    s.layout.isTaken_vary v hsink
  rw [runWith_finishPage, runWith_finishPage, htaken]
  split
  · change (Except.ok (), { s.vary v with layout := (s.layout.vary v).finishPage }) = _
    rw [Layout.finishPage_vary]
    rfl
  · rfl

theorem steady_installPage (type : PageType Float) : Steady v (installPage type) := by
  refine steady_finishPage.bind fun _ => indifferent_layout.bind fun l => ?_
  rw [Layout.openPage_vary]
  refine (indifferent_ofExcept _ _).bind fun opened => (indifferent_setLayout opened).bind fun _ => ?_
  rw [Layout.pageNotice_vary]
  exact steady_log _

theorem steady_beginPage : Steady v beginPage := by
  have hbegin : Steady v (modifyLayout fun l => { l with creating := true }) :=
    indifferent_modifyLayout fun _ => rfl
  have hstop : Steady v (stop .nestedPageCreation : Action Unit) := .stop _
  exact indifferent_layout.bind fun l => .ite (hstop.bind fun _ => hbegin) hbegin

/-- **A page is opened** where one would have been, and it is the same page. -/
theorem steady_ensureTarget (focus : Focus) : Steady v (ensureTarget focus) := by
  refine indifferent_layout.bind fun l => ?_
  rw [Layout.hasTarget_vary]
  split
  · exact .pure rfl
  · refine steady_beginPage.bind fun _ => Indifferent.followedBy ?_ ?_
    · exact (steady_selectPageType focus).bind steady_installPage
    · exact indifferent_modifyLayout fun _ => rfl

end Action

/-! ### Attributes -/

namespace Attributes

open PageGrid.Action (Steady Indifferent)

variable {v} {α : Type} (rule : Rule) (name : String) (focus : Focus)

theorem steady_text? : Steady v (text? rule name focus) := by
  rw [text?]
  cases rule.attribute? name with
  | some raw => exact (Action.steady_expand raw focus).map _
  | none => exact .pure rfl

theorem steady_text : Steady v (text rule name focus) := by
  refine (steady_text? rule name focus).bind fun s => ?_
  cases s with
  | some s => exact .pure rfl
  | none => exact .stop _

theorem steady_textOr (default : String) : Steady v (textOr rule name focus default) :=
  (steady_text? rule name focus).bind fun _ => .pure rfl

theorem steady_read? (reader : String → Except AttributeFault α) :
    Steady v (read? rule name focus reader) := by
  refine (steady_text? rule name focus).bind fun value => ?_
  cases value with
  | none => exact .pure rfl
  | some value =>
    dsimp only
    cases reader value with
    | ok a => exact .pure rfl
    | error fault => exact .stop _

theorem steady_cells? : Steady v (cells? rule name focus) := steady_read? rule name focus _

theorem steady_cells : Steady v (cells rule name focus) := by
  refine (steady_cells? rule name focus).bind fun n => ?_
  cases n with
  | some n => exact .pure rfl
  | none => exact .stop _

theorem steady_position? : Steady v (position? rule name focus) := steady_read? rule name focus _

theorem steady_length? : Steady v (length? rule name focus) := steady_read? rule name focus _

theorem steady_extent? : Steady v (extent? rule name focus) := steady_read? rule name focus _

theorem steady_flag (default : Bool) : Steady v (flag rule name focus default) := by
  refine (steady_text? rule name focus).bind fun value => ?_
  cases value.map Text.trim with
  | none => exact .pure rfl
  | some value => exact .ite (.pure rfl) (.ite (.pure rfl) (.stop _))

theorem steady_expression : Steady v (expression rule name) := by
  rw [expression]
  cases rule.attribute? name with
  | some raw => exact .pure rfl
  | none => exact .stop _

theorem steady_nodes : Steady v (nodes rule name focus) := by
  refine (steady_expression rule name).bind fun raw =>
    (Action.steady_evaluate raw focus).bind fun value => ?_
  cases value with
  | nodes set => exact .pure rfl
  | _ => exact .stop _

theorem steady_extents (names : List (String × Direction)) :
    Steady v (extents rule focus names) := by
  induction names with
  | nil => exact .pure rfl
  | cons first rest ih => exact (steady_extent? rule _ focus).bind fun _ => ih.bind fun _ => .pure rfl

theorem steady_lengths (names : List (String × Direction)) :
    Steady v (lengths rule focus names) := by
  refine (steady_extents rule focus names).bind fun found => .ite ?_ (.pure rfl)
  exact (Action.steady_ensureTarget focus).bind fun _ =>
    (Action.steady_targetGrid rule).bind fun _ => .pure rfl

end Attributes

end PageGrid
