import PageGrid.Command.Pages
import PageGrid.Command.Placement
import PageGrid.Command.Boxes
import PageGrid.Proofs.Action
import PageGrid.Proofs.Expr.Remarks

/-!
# Actions that only ask

Expressions, templates, attributes and the readers built on them may leave remarks in the log, also
when they fail, but they change neither the layout nor the variables. So whatever a rule asks on its
way, the layout that it acts on is the one it found. The fault of such an action has not been logged:
that is done by the rule that asks.

## Main definitions

* `Session.Asked` — one session is another one with remarks in the log, and a fault is a new one;
* `Action.Quiet` — the effect of an action is of this kind.
-/

namespace PageGrid

/-- The fault has not been logged. It does not come from the creation of a page. -/
def Fault.IsFresh (f : Fault) : Prop :=
  ∃ cause, ¬ cause.OfPageCreation ∧ f = .ofCause cause

theorem Fault.isFresh_ofCause {cause : FaultCause} (h : ¬ cause.OfPageCreation) :
    (ofCause cause).IsFresh :=
  ⟨cause, h, rfl⟩

/-- The second session is the first one with some remarks in the log, and a fault is one that has not
been logged. -/
structure Session.Asked (s : Session) (fault : Option Fault) (t : Session) : Prop where
  remarked : Remarked s t
  fresh : ∀ f ∈ fault, f.IsFresh

instance : Session.Sequential Session.Asked where
  refl s := ⟨refl_of Session.Remarked s, nofun⟩
  stop s {cause} h := by
    refine ⟨refl_of Session.Remarked s, fun f hf => ?_⟩
    obtain rfl := Option.mem_some.mp hf
    exact Fault.isFresh_ofCause h
  trans h h' := ⟨trans_of Session.Remarked h.remarked h'.remarked, h'.fresh⟩

/-! ### Notices -/

theorem Layout.remarks_pageNotice (l : Layout) : Remarks l.pageNotice := remarks_map nofun _

theorem Items.remarks_boxNotices (items : Items) : Remarks items.boxNotices :=
  remarks_map nofun items.boxes

theorem Grid.remarks_breachNotices (g : Grid Float) (x y : Int) (columns rows : Nat)
    (area : String) (b : Breach) : Remarks (g.breachNotices x y columns rows area b) := by
  rw [breachNotices]
  split
  · exact remarks_nil
  · exact remarks_map nofun b.edges

namespace Action

variable {α β ε : Type}

/-- The action leaves remarks in the log at most, and its fault has not been logged. -/
abbrev Quiet (x : Action α) : Prop := Within Session.Asked x

theorem Quiet.of_ok {x : Action α} (h : ∀ setting s, ∃ a, x.runWith setting s = (.ok a, s)) :
    Quiet x := by
  intro setting s
  obtain ⟨a, ha⟩ := h setting s
  rw [ha]
  exact Session.Sequential.refl s

theorem Quiet.logged {x : Action α} (h : Quiet x) (setting : Setting) (s : Session) :
    Session.Logged s (x.runWith setting s).2 :=
  (h setting s).remarked.logged

theorem Quiet.layout_eq {x : Action α} (h : Quiet x) {setting : Setting} {s t : Session}
    {r : Except Fault α} (hx : x.runWith setting s = (r, t)) : t.layout = s.layout := by
  have ht := (h.logged setting s).layout_eq
  rwa [hx] at ht

theorem quiet_log {entries : List LogEntry} (h : Remarks entries) : Quiet (log entries) :=
  fun _ _ => ⟨⟨entries, h, rfl⟩, nofun⟩

theorem quiet_warn (text : String) : Quiet (warn text) := quiet_log (remarks_warning text)

theorem quiet_layout : Quiet layout := .of_ok fun _ s => ⟨s.layout, rfl⟩

theorem quiet_read : Quiet (read : Action Setting) := .of_ok fun setting _ => ⟨setting, rfl⟩

theorem quiet_ofExcept (cause : ε → FaultCause) (r : Except ε α)
    (h : ∀ e, ¬ (cause e).OfPageCreation) : Quiet (ofExcept cause r) := by
  cases r with
  | ok a => exact .pure a
  | error e => exact .stop _ (h e)

theorem quiet_targetGrid (rule : Rule) : Quiet (targetGrid rule) := by
  refine quiet_layout.bind fun l => ?_
  cases l.targetGrid? with
  | some grid => exact .pure grid
  | none => exact .stop _ nofun

/-! ### Expressions and templates -/

/-- What is evaluated sees the functions about the layout, whose remarks are no failures. -/
theorem quiet_notedInContext (text : String) (focus : Focus) {f : Context → Noted ExprError α}
    (h : ∀ c : Context, c.Mild → (f c).Mild) :
    Quiet (context focus >>= fun c => noted (.expression text) (f c)) := by
  intro setting s
  have hrun : (context focus).runWith setting s = (.ok { focus with
      document := setting.data
      bindings := s.scopes.lookup?
      extension := fun _ => s.layout.extension setting.data }, s) := rfl
  rw [runWith_bind_of_ok hrun]
  refine (Within.bind (quiet_log (h _ ?_)) fun _ => quiet_ofExcept _ _ nofun) setting s
  exact Layout.mild_extension

theorem quiet_evaluate (text : String) (focus : Focus) : Quiet (evaluate text focus) :=
  (quiet_ofExcept _ _ nofun).bind fun e =>
    quiet_notedInContext text focus fun _ hc => Expr.mild_eval hc e

theorem quiet_textOf (v : Value) : Quiet (textOf v) := quiet_read.bind fun _ => .pure _

theorem quiet_expand (text : String) (focus : Focus) : Quiet (expand text focus) :=
  (quiet_ofExcept _ _ nofun).bind fun parts =>
    quiet_notedInContext text focus fun _ hc => Template.mild_eval hc parts

theorem quiet_isEligible (focus : Focus) (type : PageType Float) :
    Quiet (isEligible focus type) := by
  refine (quiet_evaluate _ _).bind fun v => ?_
  cases v with
  | boolean b => exact .pure b
  | _ => exact .stop _ nofun

theorem quiet_firstEligible (focus : Focus) (types : List (PageType Float)) :
    Quiet (PageTypes.firstEligible (isEligible focus) types) := by
  induction types with
  | nil => exact .pure none
  | cons type rest ih => exact (quiet_isEligible focus type).bind fun _ => .ite (.pure _) ih

end Action

/-! ### Attributes -/

namespace Attributes

open PageGrid.Action (Quiet Within)

variable {α : Type} (rule : Rule) (name : String) (focus : Focus)

theorem quiet_text? : Quiet (text? rule name focus) := by
  rw [text?]
  cases rule.attribute? name with
  | some raw => exact (Action.quiet_expand raw focus).map _
  | none => exact .pure none

theorem quiet_text : Quiet (text rule name focus) := by
  refine (quiet_text? rule name focus).bind fun s => ?_
  cases s with
  | some s => exact .pure s
  | none => exact .stop _ nofun

theorem quiet_textOr (default : String) : Quiet (textOr rule name focus default) :=
  (quiet_text? rule name focus).bind fun _ => .pure _

theorem quiet_read? (reader : String → Except AttributeFault α) :
    Quiet (read? rule name focus reader) := by
  refine (quiet_text? rule name focus).bind fun value => ?_
  cases value with
  | none => exact .pure none
  | some value =>
    dsimp only
    cases reader value with
    | ok a => exact .pure (some a)
    | error fault => exact .stop _ nofun

theorem quiet_cells? : Quiet (cells? rule name focus) := quiet_read? rule name focus _

theorem quiet_cells : Quiet (cells rule name focus) := by
  refine (quiet_cells? rule name focus).bind fun n => ?_
  cases n with
  | some n => exact .pure n
  | none => exact .stop _ nofun

theorem quiet_position? : Quiet (position? rule name focus) := quiet_read? rule name focus _

theorem quiet_length? : Quiet (length? rule name focus) := quiet_read? rule name focus _

theorem quiet_extent? : Quiet (extent? rule name focus) := quiet_read? rule name focus _

theorem quiet_flag (default : Bool) : Quiet (flag rule name focus default) := by
  refine (quiet_text? rule name focus).bind fun value => ?_
  cases value.map Text.trim with
  | none => exact .pure default
  | some value => exact .ite (.pure true) (.ite (.pure false) (.stop _ nofun))

theorem quiet_expression : Quiet (expression rule name) := by
  rw [expression]
  cases rule.attribute? name with
  | some raw => exact .pure raw
  | none => exact .stop _ nofun

theorem quiet_nodes : Quiet (nodes rule name focus) := by
  refine (quiet_expression rule name).bind fun raw =>
    (Action.quiet_evaluate raw focus).bind fun v => ?_
  cases v with
  | nodes set => exact .pure set
  | _ => exact .stop _ nofun

theorem quiet_extents (names : List (String × Direction)) : Quiet (extents rule focus names) := by
  induction names with
  | nil => exact .pure []
  | cons first rest ih => exact (quiet_extent? rule _ focus).bind fun _ => ih.bind fun _ => .pure _

end Attributes

/-! ### Readers of commands -/

namespace Command

open PageGrid.Action (Quiet Within)
open Attributes

theorem quiet_textOfItems (items : Items) : Quiet (textOfItems items) :=
  Action.quiet_read.bind fun _ => .pure _

theorem quiet_imageSource (file : String) (width height : Option Float) :
    Quiet (imageSource file width height) := by
  refine Action.quiet_read.bind fun setting => ?_
  dsimp only
  split
  · exact .pure _
  · split
    · exact .stop _ nofun
    · split
      · exact .stop _ nofun
      · exact .pure _

theorem quiet_marginsOf (rule : Rule) (focus : Focus) (defaults : Margins Float) :
    Quiet (marginsOf rule focus defaults) :=
  (quiet_read? rule _ focus _).bind fun _ => (quiet_length? rule _ focus).bind fun _ =>
    (quiet_length? rule _ focus).bind fun _ => (quiet_length? rule _ focus).bind fun _ =>
      (quiet_length? rule _ focus).bind fun _ => .pure _

theorem quiet_framesOf (focus : Focus) (frames : List Rule) : Quiet (framesOf focus frames) := by
  induction frames with
  | nil => exact .pure []
  | cons frame rest ih =>
    refine .ite ?_ ((Action.quiet_warn _).bind fun _ => ih)
    exact (quiet_cells frame _ focus).bind fun _ => (quiet_cells frame _ focus).bind fun _ =>
      (quiet_cells frame _ focus).bind fun _ => (quiet_cells frame _ focus).bind fun _ =>
        ih.bind fun _ => .pure _

theorem quiet_areaOf (rule : Rule) (focus : Focus) : Quiet (areaOf rule focus) :=
  (quiet_text rule _ focus).bind fun _ => (quiet_framesOf focus _).bind fun _ =>
    .ite ((Within.refuse _ _).bind fun _ => .pure _) (.pure _)

theorem quiet_pageTypeParts (focus : Focus) (margins : Margins Float) (parts : List Rule) :
    Quiet (pageTypeParts focus margins parts) := by
  induction parts generalizing margins with
  | nil => exact .pure _
  | cons part rest ih =>
    refine .ite ((quiet_marginsOf part focus margins).bind fun m => ih m) (.ite ?_ ?_)
    · exact (quiet_areaOf part focus).bind fun _ => (ih margins).bind fun _ => .pure _
    · exact (Action.quiet_warn _).bind fun _ => ih margins

theorem quiet_singleBox (rule : Rule) (items : Items) : Quiet (singleBox rule items) := by
  rw [singleBox]
  split
  · exact .pure _
  · exact .stop _ nofun

theorem quiet_groupBox (rule : Rule) (name : String) : Quiet (groupBox rule name) := by
  refine Action.quiet_layout.bind fun l => ?_
  cases l.group? name with
  | none => exact .stop _ nofun
  | some group =>
    dsimp only
    cases group.box? with
    | some box => exact .pure box
    | none => exact .stop _ nofun

theorem quiet_overflow (rule : Rule) (area : String) (columns rows : Nat) :
    Quiet (overflow rule area columns rows) :=
  (Action.quiet_targetGrid rule).bind fun _ => (Action.quiet_ofExcept _ _ nofun).bind fun _ =>
    (Action.quiet_warn _).bind fun _ => .pure _

end Command

end PageGrid
