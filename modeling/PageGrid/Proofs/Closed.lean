import PageGrid.Interpreter
import PageGrid.Proofs.Opening

/-!
# What holds of everything that rules do

Rules apply the rules below them, and so does most of what the commands are made of. A relation between the
session before an action and the one after it holds of the application of every rule if it holds of the few
things that commands do by themselves: they ask for something, assign to a variable, and change the layout,
and they put what the rules below do into a scope or a group. This module goes through the commands once,
for any such relation, with one lemma for each command: if the application of the rules below stays within
the relation, so does the command. The application of rules does then, by induction on the depth.

Most commands are sequences of readers, which are quiet, and of the rules below. The commands that
finish a page are not, since they check first that no group is being filled, and what they do
between the check and the end of the page must not open one.

The command that sets the grid of pages to come is left to the relation, so that it may say more of changes
of these settings than that there are some.

## Main definitions

* `Session.Closed` — the relation takes in what commands do by themselves, and scopes and groups;
* `Session.Reporting` — and faults that are logged.

## Main results

* `within_placeObject`, `within_nextRow`, `within_newPage` — the commands that finish pages;
* `withinOf_group` — groups are closed on every way out;
* `within_execute` — the application of a rule stays within the relation, at every depth.
-/

namespace PageGrid

/-! ### Changes that keep the settings of the grid -/

namespace Layout

variable {l l' : Layout}

@[simp] theorem gridSettings_finishPage : l.finishPage.gridSettings = l.gridSettings := by
  rw [finishPage]
  split <;> rfl

@[simp] theorem gridSettings_setTargetGrid (g : Grid Float) :
    (l.setTargetGrid g).gridSettings = l.gridSettings := by
  rw [setTargetGrid]
  split <;> rfl

theorem gridSettings_openPage {type : PageType Float} (h : l.openPage type = .ok l') :
    l'.gridSettings = l.gridSettings := by
  obtain ⟨page, -, rfl⟩ := openPage_eq_ok.mp h
  rfl

theorem gridSettings_place {x y : Float} {box : ContentBox Float} (h : l.place x y box = some l') :
    l'.gridSettings = l.gridSettings := by
  rw [place] at h
  dsimp only at h
  split at h <;> cases h <;> rfl

end Layout

/-! ### Closed relations -/

namespace Session

/-- The relation takes in what commands do, whether or not they stop, and is kept by scopes and groups. -/
class Closed (R : Session → Option Fault → Session → Prop) : Prop extends Sequential R where
  asked {s t : Session} {fault : Option Fault} : Asked s fault t → R s fault t
  explained {s : Session} {cause : FaultCause} :
    s.layout.Explains cause → R s (some (.ofCause cause)) s
  assign (s : Session) (name : String) (v : Value) :
    R s none { s with scopes := s.scopes.assign name v }
  change {s : Session} {l : Layout} : s.layout.Change l → l.gridSettings = s.layout.gridSettings →
    R s none { s with layout := l }
  setGrid (children : Command.Children) (rule : Rule) (focus : Focus) :
    Action.Within R (Command.setGrid children rule focus)
  scope {s t : Session} {fault : Option Fault} (scope : Scope) :
    R { s with scopes := ⟨scope :: s.scopes.inner, s.scopes.outermost⟩ } fault t →
      R s fault { t with scopes := t.scopes.pop }
  group {s t : Session} {fault : Option Fault} {name : String} {l : Layout} :
    s.layout.startGroup name = .ok l → R { s with layout := l } fault t →
      R s fault { t with layout := t.layout.endGroup.2 }

/-- The relation takes in the faults that rules log. -/
class Reporting (R : Session → Option Fault → Session → Prop) : Prop extends Closed R where
  report {s t : Session} {fault : Fault} (text : String) : fault.isReported = false →
    R s (some fault) t → R s (some { fault with isReported := true }) (t.logging [.error text])

namespace Closed

variable {R : Session → Option Fault → Session → Prop} [Closed R] {s t : Session}

theorem remarked (h : Remarked s t) : R s none t := asked ⟨h, by simp⟩

/-- A page that is refused is gone, and the action that hands it out stops. -/
theorem finishPage (hg : s.layout.inGroup = false) (setting : Setting) :
    R s (Action.faultOf (Action.finishPage.runWith setting s).1)
      (Action.finishPage.runWith setting s).2 := by
  rw [Action.runWith_finishPage]
  split
  · exact change (.finishPage hg) Layout.gridSettings_finishPage
  · exact Sequential.trans (change (.losePage hg) rfl) (Sequential.stop _ nofun)

theorem grid {g g' : Grid Float} (ht : s.layout.targetGrid? = some g) (hg : g.Change g') :
    R s none { s with layout := s.layout.setTargetGrid g' } :=
  change (.grid ht hg) (Layout.gridSettings_setTargetGrid g')

end Closed

end Session

/-! ### Actions -/

namespace Action

open Session (Closed Sequential)

variable {α β ε : Type} {R : Session → Option Fault → Session → Prop} [Closed R] {setting : Setting}
  {s : Session}

theorem Quiet.within {x : Action α} (h : Quiet x) : Within R x := h.mono Closed.asked

theorem within_modifyLayout {f : Layout → Layout} (h : ∀ l : Layout, l.Change (f l))
    (hkept : ∀ l : Layout, (f l).gridSettings = l.gridSettings) : Within R (modifyLayout f) :=
  fun _ s => Closed.change (h s.layout) (hkept s.layout)

theorem within_ensureTarget (focus : Focus) : Within R (ensureTarget focus) := by
  intro setting s
  have hexit := ensureTarget_exit focus setting s
  generalize (ensureTarget focus).runWith setting s = x at hexit ⊢
  obtain ⟨r, t⟩ := x
  cases hexit with
  | present => exact Sequential.refl _
  | opened ht hm ho hl =>
    exact Sequential.trans (Closed.change (.openPage ht hm ho) (Layout.gridSettings_openPage ho))
      (Closed.remarked hl)
  | failed _ hcause hl =>
    exact Sequential.trans (Closed.remarked hl) (Closed.explained (hl.logged.layout_eq ▸ hcause))

omit [Closed R] in
theorem within_reporting [Session.Reporting R] (place : String) {x : Action α} (h : Within R x) :
    Within R (x.reporting place) := by
  intro setting s
  have hx := h setting s
  rw [runWith_reporting]
  rcases hr : x.runWith setting s with ⟨e | a, t⟩
  all_goals rw [hr] at hx
  · dsimp only
    split
    · exact hx
    · next he => exact Session.Reporting.report _ (Bool.eq_false_iff.mpr he) hx
  · exact hx

/-! ### Single runs

Some actions are within the relation only where something has been checked before, and an action on the
grid that content goes to reads the grid and sets it again, with nothing in between that changes the layout.
These lemmas follow the run of an action from a given session rather than take the action apart.
-/

/-- The action stays within the relation at one session. -/
abbrev WithinOf (R : Session → Option Fault → Session → Prop) (x : Action α) (setting : Setting)
    (s : Session) : Prop :=
  R s (faultOf (x.runWith setting s).1) (x.runWith setting s).2

omit [Closed R] in
theorem withinOf_bind [Sequential R] {x : Action α} {f : α → Action β} (hx : WithinOf R x setting s)
    (hf : ∀ a t, x.runWith setting s = (.ok a, t) → WithinOf R (f a) setting t) :
    WithinOf R (x >>= f) setting s := by
  rw [WithinOf] at hx ⊢
  rw [runWith_bind]
  rcases hr : x.runWith setting s with ⟨e | a, t⟩
  all_goals rw [hr] at hx
  · exact hx
  · exact Sequential.trans hx (hf a t hr)

theorem withinOf_targetGrid {rule : Rule} {f : Grid Float → Action β}
    (h : ∀ g, s.layout.targetGrid? = some g → WithinOf R (f g) setting s) :
    WithinOf R (targetGrid rule >>= f) setting s := by
  refine withinOf_bind ((quiet_targetGrid rule).within setting s) fun g t hr => ?_
  obtain ⟨hg, rfl⟩ := runWith_targetGrid_eq_ok.mp hr
  exact h g hg

theorem withinOf_ofExcept {cause : ε → FaultCause} {r : Except ε α} {f : α → Action β}
    (hcause : ∀ e, ¬ (cause e).OfPageCreation)
    (h : ∀ a, r = .ok a → WithinOf R (f a) setting s) :
    WithinOf R (ofExcept cause r >>= f) setting s := by
  refine withinOf_bind ((quiet_ofExcept cause r hcause).within setting s) fun a t hr => ?_
  obtain ⟨ha, rfl⟩ := runWith_ofExcept_eq_ok.mp hr
  exact h a ha

end Action

open PageGrid.Action (Quiet Within WithinOf withinOf_targetGrid withinOf_ofExcept)
open PageGrid.Session (Closed Sequential)

variable {R : Session → Option Fault → Session → Prop} [Closed R]

/-! ### Extents -/

theorem Attributes.within_lengths (rule : Rule) (focus : Focus) (names : List (String × Direction)) :
    Within R (lengths rule focus names) := by
  refine (quiet_extents rule focus names).within.bind fun found => .ite ?_ (.pure _)
  exact (Action.within_ensureTarget focus).bind fun _ =>
    (Action.quiet_targetGrid rule).within.bind fun _ => .pure _

namespace Command

open Attributes

variable {children : Children} (hc : ∀ rule focus, Within R (children rule focus))
variable (rule : Rule) (focus : Focus)

/-! ### Values -/

include hc in
theorem within_value : Within R (value children rule focus) := by
  rw [value]
  cases rule.attribute? "select" with
  | some select => exact (Action.quiet_evaluate select focus).within.bind fun _ => .pure _
  | none => exact .ite (hc rule focus) (.pure _)

theorem within_copyOf (children : Children) : Within R (copyOf children rule focus) :=
  (quiet_expression rule _).within.bind fun _ =>
    (Action.quiet_evaluate _ focus).within.bind fun _ => .pure _

include hc in
theorem within_paragraph : Within R (paragraph children rule focus) :=
  (hc rule focus).bind fun _ => (quiet_textOfItems _).within.bind fun _ => .pure _

include hc in
theorem within_message : Within R (message children rule focus) := by
  have hlog (text : String) : Within R (do
      Action.log [.info s!"Message: {Text.trim text}"]
      return ([] : Items)) :=
    (Action.quiet_log (remarks_info _)).within.bind fun _ => .pure _
  rw [message]
  cases rule.attribute? "select" with
  | some select =>
    exact (Action.quiet_evaluate select focus).within.bind fun v =>
      (Action.quiet_textOf v).within.bind hlog
  | none =>
    dsimp only
    split
    · exact (hc rule focus).bind fun items => (quiet_textOfItems items).within.bind hlog
    · exact (Within.pure _).bind hlog

include hc in
theorem within_setVariable : Within R (setVariable children rule focus) := by
  have hassign (name : String) (v : Value) :
      Within R (do Action.modifyScopes (·.assign name v); return ([] : Items)) :=
    fun _ s => Closed.assign s name v
  refine (quiet_text rule _ focus).within.bind fun name => ?_
  cases rule.attribute? "select" with
  | some select => exact (Action.quiet_evaluate select focus).within.bind (hassign name)
  | none =>
    exact (hc rule focus).bind fun items => Action.quiet_read.within.bind fun _ =>
      (Within.pure _).bind (hassign name)

/-! ### Boxes -/

theorem within_defaultWidth : Within R (defaultWidth rule focus) :=
  (Action.within_ensureTarget focus).bind fun _ => (Action.quiet_targetGrid rule).within.bind fun _ =>
    (Action.quiet_ofExcept _ _ nofun).within.bind fun _ => .pure _

include hc in
theorem within_textblock : Within R (textblock children rule focus) := by
  refine (quiet_length? rule _ focus).within.bind fun fontSize =>
    (quiet_length? rule _ focus).within.bind fun leading => Action.quiet_read.within.bind fun setting =>
      (hc rule focus).bind fun items =>
        (Action.quiet_log (Items.remarks_boxNotices items)).within.bind fun _ =>
          (within_lengths rule focus _).bind fun widths => ?_
  have hset (width : Float) : Within R (do
      let box ← Action.ofExcept .typeset
        (setText setting.advance (items.paragraphs setting.data) width
          (textFormat setting.format fontSize leading))
      return [Item.box box]) :=
    (Action.quiet_ofExcept _ _ nofun).within.bind fun _ => .pure _
  dsimp only
  split
  · exact (Within.pure _).bind hset
  · exact (within_defaultWidth rule focus).bind hset

theorem within_image (children : Children) : Within R (image children rule focus) :=
  (quiet_text rule _ focus).within.bind fun _ => (quiet_length? rule _ focus).within.bind fun _ =>
    (quiet_length? rule _ focus).within.bind fun _ => (quiet_imageSource _ _ _).within.bind fun _ =>
      (within_lengths rule focus _).bind fun _ => (quiet_flag rule _ focus _).within.bind fun _ =>
        .pure _

theorem within_filledBox (children : Children) : Within R (filledBox children rule focus) := by
  refine (quiet_text? rule _ focus).within.bind fun _ =>
    (within_lengths rule focus _).bind fun sides => ?_
  split
  · exact .pure _
  · exact .stop _ nofun
  · exact .stop _ nofun

/-! ### Page types and grids -/

theorem within_declarePageType (children : Children) :
    Within R (declarePageType children rule focus) :=
  (quiet_text rule _ focus).within.bind fun _ => (quiet_expression rule _).within.bind fun _ =>
    (Action.quiet_ofExcept _ _ nofun).within.bind fun _ => Action.quiet_layout.within.bind fun _ =>
      (quiet_pageTypeParts focus _ _).within.bind fun _ =>
        (Action.within_modifyLayout (fun l => .register l _) fun _ => rfl).bind fun _ => .pure _

/-- Finishing the page after opening one, where no group is being filled. -/
theorem withinOf_openAndFinish {setting : Setting} {s : Session} (hg : s.layout.inGroup = false) :
    WithinOf R (do
      Action.ensureTarget focus
      Action.finishPage
      return ([] : Items)) setting s := by
  refine Action.withinOf_bind (Action.within_ensureTarget focus setting s) fun _ t hr => ?_
  have ho := Action.openGroups_ensureTarget focus setting s
  rw [hr, Layout.inGroup_eq_false.mp hg] at ho
  exact Action.withinOf_bind (Closed.finishPage (Layout.inGroup_eq_false.mpr ho) setting)
    fun _ t _ => Sequential.refl t

theorem within_newPage (children : Children) : Within R (newPage children rule focus) := by
  intro setting s
  rw [newPage, Action.runWith_bind_of_ok Action.runWith_layout]
  dsimp only
  split
  · exact Closed.remarked ⟨_, remarks_warning _, rfl⟩
  · next hg => exact withinOf_openAndFinish focus (Bool.eq_false_iff.mpr hg)

/-! ### Groups and markers -/

omit [Closed R] in
include hc in
/-- **Groups are closed on every way out.** A group may fail to begin; once it has begun, it ends
after the rules below it, whether or not they fail. -/
theorem withinOf_group (setting : Setting) (s : Session) :
    Session.Asked s (Action.faultOf ((group children rule focus).runWith setting s).1)
        ((group children rule focus).runWith setting s).2 ∨
      ∃ name s₁ l t, Session.Remarked s s₁ ∧ s₁.layout.startGroup name = .ok l ∧
        R { s₁ with layout := l }
          (Action.faultOf ((group children rule focus).runWith setting s).1) t ∧
        ((group children rule focus).runWith setting s).2 =
          { t with layout := t.layout.endGroup.2 } := by
  have hname := quiet_text rule "name" focus setting s
  rw [group, Action.runWith_bind]
  generalize (text rule "name" focus).runWith setting s = x at hname ⊢
  obtain ⟨e | name, s₁⟩ := x
  · exact .inl hname
  · dsimp only
    split
    · exact .inl (Session.Sequential.trans hname (Session.Sequential.stop s₁ nofun))
    · next contents hcontents =>
      rw [Action.runWith_bind_of_ok Action.runWith_layout]
      cases hl : s₁.layout.startGroup name with
      | error e => exact .inl (Session.Sequential.trans hname (Session.Sequential.stop s₁ nofun))
      | ok l =>
        have hinside := hc contents focus setting { s₁ with layout := l }
        refine .inr ⟨name, s₁, l,
          ((children contents focus).runWith setting { s₁ with layout := l }).2, hname.remarked,
          hl, ?_⟩
        rw [Action.runWith_bind_of_ok (Action.runWith_ofExcept_eq_ok.mpr ⟨rfl, rfl⟩),
          Action.runWith_bind_of_ok (Action.runWith_setLayout l), Action.runWith_bind,
          Action.runWith_followedBy_modifyLayout]
        generalize (children contents focus).runWith setting _ = x at hinside ⊢
        rcases x with ⟨_ | _, t⟩
        all_goals exact ⟨hinside, rfl⟩

include hc in
theorem within_group : Within R (group children rule focus) := by
  intro setting s
  obtain h | ⟨name, s₁, l, t, hs₁, hl, ht, h⟩ := withinOf_group hc rule focus setting s
  · exact Closed.asked h
  · rw [h]
    exact Sequential.trans (Closed.remarked hs₁) (Closed.group hl ht)

theorem within_mark (children : Children) : Within R (mark children rule focus) := by
  refine (quiet_expression rule _).within.bind fun select =>
    (Action.quiet_evaluate select focus).within.bind fun _ =>
      (Action.quiet_textOf _).within.bind fun name => ?_
  have hset : Within R (do
      let isTarget ← flag rule "pdftarget" focus false
      let shift ← length? rule "shift" focus
      Action.modifyLayout fun l => (l.setMarker name isTarget shift).2
      return ([] : Items)) :=
    (quiet_flag rule _ focus _).within.bind fun isTarget =>
      (quiet_length? rule _ focus).within.bind fun shift =>
        (Action.within_modifyLayout (fun l => .mark l name isTarget shift) fun _ => rfl).bind fun _ => .pure _
  dsimp only
  split
  · exact (Within.refuse _ _).bind fun _ => hset
  · exact hset

/-! ### Selection and repetition -/

theorem within_inScope {α : Type} {x : Action α} (hx : Within R x) :
    Within R (inScope x) := by
  intro setting s
  rw [inScope, Action.runWith_bind_of_ok (t := { s with scopes := s.scopes.push }) rfl,
    Action.runWith_followedBy_modifyScopes]
  exact Closed.scope [] (hx setting _)

/-- A scope may begin with a binding. -/
theorem within_inScope_bind {α : Type} {x : Action α} (hx : Within R x) (name : String)
    (v : Value) :
    Within R (inScope (do Action.modifyScopes (·.bind name v); x)) := by
  intro setting s
  rw [inScope, Action.runWith_bind_of_ok (t := { s with scopes := s.scopes.push }) rfl,
    Action.runWith_followedBy_modifyScopes, Action.runWith_bind_of_ok
      (t := { s with scopes := s.scopes.push.bind name v }) rfl]
  exact Closed.scope (Scope.bind [] name v) (hx setting _)

theorem within_forNodes {round : Focus → Action Items} (hr : ∀ focus, Within R (round focus))
    (size position : Nat) (nodes : List Xml.Address) :
    Within R (forNodes round size position nodes) := by
  induction nodes generalizing position with
  | nil => exact .pure []
  | cons a rest ih => exact (hr _).bind fun _ => (ih (position + 1)).bind fun _ => .pure _

theorem within_repeated {round : Nat → Action Items} (hr : ∀ i, Within R (round i))
    (first rounds : Nat) :
    Within R (repeated round first rounds) := by
  induction rounds generalizing first with
  | zero => exact .pure []
  | succ rounds ih => exact (hr first).bind fun _ => (ih (first + 1)).bind fun _ => .pure _

include hc in
theorem within_forAll : Within R (forAll children rule focus) :=
  (quiet_nodes rule _ focus).within.bind fun nodes =>
    within_forNodes (fun focus => within_inScope (hc rule focus)) nodes.length 1 nodes

include hc in
theorem within_loop : Within R (loop children rule focus) := by
  refine (quiet_expression rule _).within.bind fun select =>
    (Action.quiet_evaluate select focus).within.bind fun v =>
      Action.quiet_read.within.bind fun setting => ?_
  generalize v.toNumber setting.data = count
  have hrounds : Within R (do
      let counter ← textOr rule "variable" focus loopCounter
      repeated (fun i => inScope do
        Action.modifyScopes (·.bind counter (.number (Float.ofNat i)))
        children rule focus) 1 (rounds count)) :=
    (quiet_textOr rule _ focus _).within.bind fun counter =>
      within_repeated (fun _ => within_inScope_bind (hc rule focus) counter _) 1 (rounds count)
  dsimp only
  split
  · exact (Within.refuse _ _).bind fun _ => hrounds
  · exact hrounds

include hc in
theorem within_firstBranch (branches : List Rule) :
    Within R (firstBranch children focus branches) := by
  induction branches with
  | nil => exact .pure []
  | cons branch rest ih =>
    refine .ite ?_ (.ite (hc branch focus) ((Action.quiet_warn _).within.bind fun _ => ih))
    exact (quiet_expression branch _).within.bind fun test =>
      (Action.quiet_evaluate test focus).within.bind fun _ => .ite (hc branch focus) ih

include hc in
theorem within_choose : Within R (choose children rule focus) :=
  within_firstBranch hc focus rule.elements

theorem within_recordRule (children : Children) : Within R (recordRule children rule focus) :=
  (quiet_text rule _ focus).within.bind fun element =>
    (quiet_textOr rule _ focus _).within.bind fun mode =>
      (Action.within_modifyLayout (fun l => .record l element mode rule) fun _ => rfl).bind fun _ => .pure _

include hc in
theorem within_processNode : Within R (processNode children rule focus) := by
  refine (quiet_textOr rule _ focus _).within.bind fun mode =>
    (quiet_nodes rule _ focus).within.bind fun nodes =>
      within_forNodes (fun focus => ?_) nodes.length 1 nodes
  refine Action.quiet_read.within.bind fun setting => ?_
  cases elementName? setting.data focus.node with
  | none => exact .pure []
  | some name =>
    refine Action.quiet_layout.within.bind fun l => ?_
    cases l.patterns.lookup? name mode with
    | some recorded => exact hc recorded focus
    | none => exact (Action.quiet_warn _).within.bind fun _ => .pure []

/-! ### Placement -/

theorem within_flowOnTarget (area : String) (columns rows : Nat) :
    Within R (flowOnTarget rule area columns rows) := by
  intro setting s
  refine withinOf_targetGrid fun g hg => withinOf_ofExcept nofun fun (g', place) h => ?_
  exact Closed.grid hg (.flow h)

/-- The flow may finish the page, since it checks that no group is being filled and the page is
finished before the next one is opened. -/
theorem within_flowPlace? (area : String) (columns rows : Nat) :
    Within R (flowPlace? rule focus area columns rows) := by
  refine (within_flowOnTarget rule area columns rows).bind fun place => ?_
  cases place with
  | some place => exact .pure _
  | none =>
    refine (Action.quiet_targetGrid rule).within.bind fun _ =>
      (Action.quiet_ofExcept _ _ nofun).within.bind fun atStart setting s => ?_
    rw [Action.runWith_bind_of_ok Action.runWith_layout]
    split
    · exact Sequential.refl s
    · next hg =>
      have hg : s.layout.inGroup = false := by simp_all
      exact Action.withinOf_bind (Closed.finishPage hg setting) fun _ t _ =>
        ((Action.within_ensureTarget focus).bind fun _ =>
          within_flowOnTarget rule area columns rows) setting t

theorem within_flowPosition (area : String) (columns rows : Nat) :
    Within R (flowPosition rule focus area columns rows) := by
  refine (within_flowPlace? rule focus area columns rows).bind fun place => ?_
  cases place with
  | some place => exact .pure place
  | none => exact (quiet_overflow rule area columns rows).within

theorem within_cellFor (area : String) (column row : Option Int) (columns rows : Nat) :
    Within R (cellFor rule focus area column row columns rows) := by
  refine .ite ?_ ((within_flowPosition rule focus area columns rows).bind fun _ => .pure _)
  exact (Action.quiet_targetGrid rule).within.bind fun _ =>
    (Action.quiet_ofExcept _ _ nofun).within.bind fun _ => .pure _

theorem within_markBlock (area : String) (x y : Int) (columns rows : Nat) :
    Within R (markBlock rule area x y columns rows) := by
  intro setting s
  refine withinOf_targetGrid fun g hg => withinOf_ofExcept nofun fun (g', breach) h => ?_
  exact Sequential.trans (Closed.grid hg (.allocate h))
    (Closed.remarked ⟨_, g.remarks_breachNotices x y columns rows area breach, rfl⟩)

theorem within_placeBox (x y : Float) (box : ContentBox Float) : Within R (placeBox x y box) := by
  intro setting s
  rw [placeBox, Action.runWith_modifyLayout]
  cases h : s.layout.place x y box with
  | none => exact Sequential.refl s
  | some l => exact Closed.change (.place h) (Layout.gridSettings_place h)

theorem within_placeAtCell (area : String) (allocate : Bool) (x y : Int) (columns rows : Nat)
    (box : ContentBox Float) :
    Within R (placeAtCell rule area allocate x y columns rows box) := by
  refine (Action.quiet_targetGrid rule).within.bind fun _ =>
    (Action.quiet_ofExcept _ _ nofun).within.bind fun left =>
      (Action.quiet_ofExcept _ _ nofun).within.bind fun top => ?_
  dsimp only
  split
  · exact (within_markBlock rule area x y columns rows).bind fun _ => within_placeBox left top box
  · exact within_placeBox left top box

theorem within_placeInCells (area : String) (allocate : Bool) (column row : Option Int)
    (box : ContentBox Float) : Within R (placeInCells rule focus area allocate column row box) :=
  (Action.quiet_targetGrid rule).within.bind fun _ =>
    (within_cellFor rule focus area column row _ _).bind fun _ =>
      within_placeAtCell rule area allocate _ _ _ _ box

theorem within_placeByCoordinates (area : String) (allocate : Bool) (column row : Option Int)
    (box : ContentBox Float) (x y : Option Float) :
    Within R (placeByCoordinates rule focus area allocate column row box x y) := by
  unfold placeByCoordinates
  split
  · exact within_placeBox _ _ box
  · exact within_placeInCells rule focus area allocate column row box
  · exact .stop _ nofun

include hc in
theorem within_placeObject : Within R (placeObject children rule focus) := by
  refine (quiet_textOr rule _ focus _).within.bind fun area =>
    (quiet_flag rule _ focus _).within.bind fun allocate =>
      (quiet_position? rule _ focus).within.bind fun column =>
        (quiet_position? rule _ focus).within.bind fun row =>
          (quiet_length? rule _ focus).within.bind fun x =>
            (quiet_length? rule _ focus).within.bind fun y =>
              (quiet_text? rule _ focus).within.bind fun name => ?_
  have hplace (box : ContentBox Float) : Within R (do
      Action.ensureTarget focus
      placeByCoordinates rule focus area allocate column row box x y
      return ([] : Items)) :=
    (Action.within_ensureTarget focus).bind fun _ =>
      (within_placeByCoordinates rule focus area allocate column row box x y).bind fun _ => .pure _
  cases name with
  | some name => exact (quiet_groupBox rule name).within.bind hplace
  | none =>
    exact (hc rule focus).bind fun items => (quiet_singleBox rule items).within.bind hplace

/-- The flow that leaves its last frame finishes the page, unless it is that of a group. -/
theorem withinOf_leaveFrame {setting : Setting} {s : Session} (g : Grid Float) (moved : Bool)
    (h : R s none { s with layout := s.layout.setTargetGrid g }) :
    WithinOf R (do
      Action.setTargetGrid g
      if !moved && !(← Action.layout).inGroup then Action.finishPage
      return ([] : Items)) setting s := by
  have hfinish (t : Session) : WithinOf R (do
      if !moved && !(← Action.layout).inGroup then Action.finishPage
      return ([] : Items)) setting t := by
    rw [WithinOf, Action.runWith_bind_of_ok Action.runWith_layout]
    dsimp only
    split
    · next hg =>
      have hg : t.layout.inGroup = false := by simp_all
      exact Action.withinOf_bind (Closed.finishPage hg setting) fun _ u _ => Sequential.refl u
    · exact Sequential.refl t
  exact Sequential.trans h (hfinish _)

theorem within_nextRow (children : Children) : Within R (nextRow children rule focus) := by
  refine (quiet_textOr rule _ focus _).within.bind fun area =>
    (quiet_cells? rule _ focus).within.bind fun rows =>
      (Action.within_ensureTarget focus).bind fun _ setting s => withinOf_targetGrid fun g hg =>
        withinOf_ofExcept nofun fun (g₁, moved) h₁ => ?_
  have hmoved : R s none { s with layout := s.layout.setTargetGrid g₁ } :=
    Closed.grid hg (.nextRow h₁)
  dsimp only
  split
  · exact withinOf_leaveFrame g₁ true hmoved
  · refine withinOf_ofExcept nofun fun (g₂, advanced) h₂ => withinOf_leaveFrame g₂ advanced ?_
    have htarget := Layout.targetGrid?_setTargetGrid g₁ hg
    have hadvanced : R _ none _ :=
      Closed.grid (s := { s with layout := s.layout.setTargetGrid g₁ }) htarget (.advanceFrame h₂)
    rw [Layout.setTargetGrid_setTargetGrid] at hadvanced
    exact Sequential.trans hmoved hadvanced

end Command

/-! ### Rules -/

theorem CommandName.within_run {children : Command.Children}
    (hc : ∀ rule focus, Within R (children rule focus)) (command : CommandName) (rule : Rule)
    (focus : Focus) : Within R (command.run children rule focus) := by
  cases command with
  | recordRule => exact Command.within_recordRule rule focus children
  | processNode => exact Command.within_processNode hc rule focus
  | pageType => exact Command.within_declarePageType rule focus children
  | value => exact Command.within_value hc rule focus
  | copyOf => exact Command.within_copyOf rule focus children
  | paragraph => exact Command.within_paragraph hc rule focus
  | textblock => exact Command.within_textblock hc rule focus
  | image => exact Command.within_image rule focus children
  | box => exact Command.within_filledBox rule focus children
  | message => exact Command.within_message hc rule focus
  | placeObject => exact Command.within_placeObject hc rule focus
  | newPage => exact Command.within_newPage rule focus children
  | nextRow => exact Command.within_nextRow rule focus children
  | setGrid => exact Closed.setGrid children rule focus
  | group => exact Command.within_group hc rule focus
  | contents => exact hc rule focus
  | mark => exact Command.within_mark rule focus children
  | setVariable => exact Command.within_setVariable hc rule focus
  | forAll => exact Command.within_forAll hc rule focus
  | loop => exact Command.within_loop hc rule focus
  | choose => exact Command.within_choose hc rule focus

namespace Interpreter

/-- A rule that has a command runs it on the rules below. -/
theorem execute_command {rule : Rule} {command : CommandName} (depth : Nat)
    (hlayout : rule.isLayout = true) (hname : CommandName.ofName? rule.name = some command) (focus : Focus) :
    execute (depth + 1) rule focus =
      (command.run (executeChildren depth) rule focus).reporting (placeOf rule) := by
  rw [execute, hlayout, hname]
  rfl

theorem within_executeAll {apply : Rule → Focus → Action Items}
    (h : ∀ rule focus, Within R (apply rule focus)) (focus : Focus) (rules : List Rule) :
    Within R (executeAll apply focus rules) := by
  induction rules with
  | nil => exact .pure []
  | cons rule rest ih => exact (h rule focus).bind fun _ => ih.bind fun _ => .pure _

omit [Closed R]
variable [Session.Reporting R]

/-- **Applying a rule.** Whatever rules are below it, at whatever depth, and whether or not one of
them fails. -/
theorem within_execute (depth : Nat) (rule : Rule) (focus : Focus) :
    Within R (execute depth rule focus) := by
  induction depth generalizing rule focus with
  | zero => exact Action.within_reporting _ (.stop _ nofun)
  | succ depth ih =>
    rw [execute]
    have hc (rule : Rule) (focus : Focus) : Within R (executeChildren depth rule focus) :=
      within_executeAll ih focus rule.elements
    refine .ite ((Action.quiet_warn _).within.bind fun _ => .pure _) ?_
    cases CommandName.ofName? rule.name with
    | none => exact (Action.quiet_warn _).within.bind fun _ => .pure _
    | some command => exact Action.within_reporting _ (command.within_run hc rule focus)

theorem within_executeChildren (depth : Nat) (rule : Rule) (focus : Focus) :
    Within R (executeChildren depth rule focus) :=
  within_executeAll (within_execute depth) focus rule.elements

end Interpreter

end PageGrid
