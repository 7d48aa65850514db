import PageGrid.Job
import PageGrid.Proofs.Alike

/-!
# Commands on rules that are alike

One lemma for each command: applied to rules that are alike, it does the same, if the application of the
rules below does the same where the child elements match. Most commands read attributes only. Those that
look at child elements themselves find the same parts, and skip on either side what is no part. The value
rule is the one place where the presence of a child element counts, and there the texts are alike too.

The application of rules follows by induction on the depth. The second of the two runs gets at least one
level more, because an element that is skipped still takes the first level of what is applied below its
parent.

A box that a rule makes has nothing in it, so items are plain, and the box that a placed object takes is
either one of these or that of a finished group. This is what a property of the layout may rely on when a
box is placed.

## Main definitions

* `Items.Plain` — the boxes among the items have nothing in them;
* `Command.ChildrenAlike` — applications of the rules below that do the same where these match.

## Main results

* `sameItems_value`, `sameItems_choose`, `sameItems_group`, `sameItems_declarePageType` — the commands that
  look at child elements;
* `sameItems_placeObject` — what is placed;
* `sameItems_execute` — the application of rules that are alike;
* `Job.same_program` — the program of a run.
-/

namespace PageGrid

/-! ### Items -/

/-- The boxes among the items have nothing in them. -/
def Items.Plain (items : Items) : Prop := ∀ box ∈ items.boxes, box.items = []

theorem Items.plain_of_boxes {items : Items} (h : items.boxes = []) : items.Plain := by
  rw [Items.Plain, h]
  exact List.forall_mem_nil _

theorem Items.plain_nil : Items.Plain [] := plain_of_boxes rfl

theorem Items.Plain.append {items others : Items} (h : items.Plain) (h' : others.Plain) :
    Items.Plain (items ++ others) := by
  intro box hbox
  rw [Items.boxes, List.filterMap_append, List.mem_append] at hbox
  exact hbox.elim (h box) (h' box)

theorem Items.plain_ofValue (v : Value) : (Items.ofValue v).Plain := by
  refine plain_of_boxes ?_
  cases v with
  | nodes set => simp [Items.ofValue, Items.boxes, Item.box?]
  | string | number | boolean => rfl

theorem Items.plain_box {box : ContentBox Float} (h : box.items = []) : Items.Plain [.box box] := by
  intro b hb
  obtain rfl := List.mem_singleton.mp hb
  exact h

/-- The two actions do the same and yield the same plain items. -/
abbrev Action.SameItems (P : Layout → Prop) (x y : Action Items) : Prop :=
  Follows P (fun items items' => items = items' ∧ items.Plain) x y

namespace Action

variable {α β : Type} {P : Layout → Prop}

theorem Follows.nil : SameItems P (Pure.pure []) (Pure.pure []) := .pure ⟨rfl, Items.plain_nil⟩

theorem Follows.ofValue (v : Value) :
    SameItems P (Pure.pure (Items.ofValue v)) (Pure.pure (Items.ofValue v)) :=
  .pure ⟨rfl, Items.plain_ofValue v⟩

theorem SameItems.bind {x y : Action Items} {W : β → β → Prop} {k k' : Items → Action β}
    (hx : SameItems P x y) (hk : ∀ items, items.Plain → Follows P W (k items) (k' items)) :
    Follows P W (x >>= k) (y >>= k') := by
  refine Follows.bind hx ?_
  rintro items _ ⟨rfl, hplain⟩
  exact hk items hplain

/-- One application of rules after another. -/
theorem SameItems.append {x y x' y' : Action Items} (hx : SameItems P x y) (hy : SameItems P x' y') :
    SameItems P (do let items ← x; return items ++ (← x')) (do let items ← y; return items ++ (← y')) :=
  hx.bind fun _ hitems => hy.bind fun _ hothers => .pure ⟨rfl, hitems.append hothers⟩

/-- Nothing before an application of rules. -/
theorem nothing_append (x : Action Items) :
    (do let items ← (Pure.pure [] : Action Items); return items ++ (← x)) = x := by
  simp

/-- An action that changes nothing and does not stop. -/
def Still (x : Action α) : Prop := ∀ setting s, ∃ a, x.runWith setting s = (.ok a, s)

theorem follows_of_still {x : Action α} {y : Action β} (hx : Still x) (hy : Still y) :
    Follows P (fun _ _ => True) x y := by
  intro setting s s' a t hP hs hrun
  obtain ⟨_, hx⟩ := hx setting s
  obtain ⟨b, hy⟩ := hy setting s'
  cases hx.symm.trans hrun
  exact ⟨hP, b, s', hy, trivial, hs⟩

end Action

namespace Command

open PageGrid.Action (Same Follows SameItems Still)
open Rule (Matching)
open Attributes

/-- Two applications of the rules below that do the same where these match, and nothing where there are
none. -/
structure ChildrenAlike (P : Layout → Prop) (children children' : Children) : Prop where
  same {parent : String} {r r' : Rule} (focus : Focus) : Matching parent r.elements r'.elements →
    SameItems P (children r focus) (children' r' focus)
  empty {r : Rule} (focus : Focus) : r.elements = [] → children r focus = pure []
  empty' {r : Rule} (focus : Focus) : r.elements = [] → children' r focus = pure []

theorem ChildrenAlike.alike {P : Layout → Prop} {children children' : Children}
    (hc : ChildrenAlike P children children') {r r' : Rule} (h : r.Alike r') (focus : Focus) :
    SameItems P (children r focus) (children' r' focus) :=
  hc.same focus h.matching

variable {P : Layout → Prop} {children children' : Children} {rule rule' : Rule}

/-! ### Readers of commands -/

theorem same_imageSource (file : String) (width height : Option Float) :
    Same P (imageSource file width height) (imageSource file width height) := by
  refine Action.follows_read fun setting => ?_
  dsimp only
  split
  · exact .pure rfl
  · split
    · exact .stop _ _
    · split
      · exact .stop _ _
      · exact .pure rfl

theorem same_marginsOf (h : rule.Alike rule') (focus : Focus) (defaults : Margins Float) :
    Same P (marginsOf rule focus defaults) (marginsOf rule' focus defaults) :=
  (same_read? h _ focus _).bind fun _ => (same_length? h _ focus).bind fun _ =>
    (same_length? h _ focus).bind fun _ => (same_length? h _ focus).bind fun _ =>
      (same_length? h _ focus).bind fun _ => .pure rfl

/-- Frames are made of the parts that both sides have. -/
theorem same_framesOf {frames frames' : List Rule} (focus : Focus)
    (h : Matching "PositioningArea" frames frames') :
    Same P (framesOf focus frames) (framesOf focus frames') := by
  have hpart : ("PositioningArea", "PositioningFrame") ∈ Rule.parts := by decide
  induction h with
  | nil => exact .pure rfl
  | left hr _ ih =>
    rw [framesOf, if_neg (Rule.ne_of_isSeen_eq_false hr hpart)]
    exact ih.warn_left
  | right hr _ ih =>
    rw [framesOf.eq_2 focus _ _, if_neg (Rule.ne_of_isSeen_eq_false hr hpart)]
    exact ih.warn_right
  | both hr _ ih =>
    rw [framesOf, framesOf, hr.name_eq]
    refine .ite ?_ ((Action.same_warn _ _).bind fun _ => ih)
    exact (same_cells hr _ focus).bind fun _ => (same_cells hr _ focus).bind fun _ =>
      (same_cells hr _ focus).bind fun _ => (same_cells hr _ focus).bind fun _ =>
        ih.bind fun _ => .pure rfl

theorem same_areaOf (h : rule.Alike rule') (hname : rule.name = "PositioningArea") (focus : Focus) :
    Same P (areaOf rule focus) (areaOf rule' focus) := by
  refine (same_text h _ focus).bind fun name =>
    (same_framesOf focus (hname ▸ h.matching)).bind fun frames => ?_
  dsimp only
  split
  · exact Same.bind (α := Unit) (.refuse _ _ _) fun _ => .pure rfl
  · exact .pure rfl

/-- Margins and areas are the parts that both sides have. -/
theorem same_pageTypeParts {parts parts' : List Rule} (focus : Focus)
    (h : Matching "Pagetype" parts parts') (margins : Margins Float) :
    Same P (pageTypeParts focus margins parts) (pageTypeParts focus margins parts') := by
  have hmargin : ("Pagetype", "Margin") ∈ Rule.parts := by decide
  have harea : ("Pagetype", "PositioningArea") ∈ Rule.parts := by decide
  induction h generalizing margins with
  | nil => exact .pure rfl
  | left hr _ ih =>
    rw [pageTypeParts, if_neg (Rule.ne_of_isSeen_eq_false hr hmargin),
      if_neg (Rule.ne_of_isSeen_eq_false hr harea)]
    exact (ih margins).warn_left
  | right hr _ ih =>
    rw [pageTypeParts.eq_2 focus margins _ _, if_neg (Rule.ne_of_isSeen_eq_false hr hmargin),
      if_neg (Rule.ne_of_isSeen_eq_false hr harea)]
    exact (ih margins).warn_right
  | @both part part' _ _ hr _ ih =>
    rw [pageTypeParts, pageTypeParts, hr.name_eq]
    refine .ite ((same_marginsOf hr focus margins).bind fun m => ih m) ?_
    by_cases hname : part.name = "PositioningArea"
    · rw [if_pos hname, if_pos hname]
      exact (same_areaOf hr hname focus).bind fun _ => (ih margins).bind fun _ => .pure rfl
    · rw [if_neg hname, if_neg hname]
      exact (Action.same_warn _ _).bind fun _ => ih margins

variable (h : rule.Alike rule') (focus : Focus)

/-! ### Values -/

section Values

variable (hc : ChildrenAlike P children children')

include h hc in
/-- The text of a value rule is read where no child element hides it. Where one hides it on one side
only, there is nothing to read on the other side. -/
theorem sameItems_value (hname : rule.name = "Value") :
    SameItems P (value children rule focus) (value children' rule' focus) := by
  rw [value, value, h.attribute?_eq]
  cases hselect : rule.attribute? "select" with
  | some select => exact (Action.same_evaluate select focus).bind .ofValue
  | none =>
    have hread : rule.readsText = true := by simp [Rule.readsText, hname, hselect]
    have htext := h.text_eq hread
    have hchildren := hc.alike h focus
    by_cases hr : rule.elements = [] <;> by_cases hr' : rule'.elements = []
    · obtain htext : rule'.text = rule.text := by simpa [hr, hr'] using htext
      simp only [hr, hr', htext, List.isEmpty_nil, Bool.not_true, Bool.false_eq_true, if_false]
      refine .pure ⟨rfl, Items.plain_of_boxes ?_⟩
      split <;> rfl
    · obtain htext : "" = rule.text := by simpa [hr, hr'] using htext
      simpa [hr, hr', ← htext, hc.empty focus hr] using hchildren
    · obtain htext : rule'.text = "" := by simpa [hr, hr'] using htext
      simpa [hr, hr', htext, hc.empty' focus hr'] using hchildren
    · simpa [hr, hr'] using hchildren

include h in
theorem sameItems_copyOf (children children' : Children) :
    SameItems P (copyOf children rule focus) (copyOf children' rule' focus) :=
  (same_expression h _).bind fun _ => (Action.same_evaluate _ focus).bind .ofValue

theorem same_textOfItems (items : Items) : Same P (textOfItems items) (textOfItems items) :=
  Action.follows_read fun _ => .pure rfl

include h hc in
theorem sameItems_paragraph :
    SameItems P (paragraph children rule focus) (paragraph children' rule' focus) :=
  (hc.alike h focus).bind fun items _ => (same_textOfItems items).bind fun _ =>
    .pure ⟨rfl, Items.plain_of_boxes rfl⟩

/-- What a message does with its text. -/
def logMessage (text : String) : Action Items := do
  Action.log [.info s!"Message: {Text.trim text}"]
  return []

/-- A message without expression applies the rules below in any case, and what it reads after that changes
nothing. -/
theorem message_of_unselected (hselect : rule.attribute? "select" = none)
    (hempty : rule.elements = [] → children rule focus = pure []) :
    ∃ text : Items → Action String, (∀ items, Still (text items)) ∧
      message children rule focus = children rule focus >>= fun items => text items >>= logMessage := by
  rw [message, hselect]
  by_cases hr : rule.elements = []
  · refine ⟨fun _ => pure rule.text, fun _ _ s => ⟨rule.text, rfl⟩, ?_⟩
    rw [hempty hr, hr]
    rfl
  · refine ⟨textOfItems, fun items setting s => ⟨items.toText setting.data, rfl⟩, ?_⟩
    dsimp only
    rw [if_pos (by simp [hr])]
    rfl

include h hc in
/-- The text of a message goes to the log only, so it may be another one. -/
theorem sameItems_message :
    SameItems P (message children rule focus) (message children' rule' focus) := by
  have hlog (text text' : String) : SameItems P (logMessage text) (logMessage text') :=
    (Action.same_log _ _).bind fun _ => .nil
  cases hselect : rule.attribute? "select" with
  | some select =>
    rw [message, message, h.attribute?_eq, hselect]
    exact (Action.same_evaluate select focus).bind fun v => (Action.same_textOf v).bind fun text =>
      hlog text text
  | none =>
    have hselect' := (h.attribute?_eq "select").trans hselect
    obtain ⟨text, htext, hmessage⟩ := message_of_unselected focus hselect (hc.empty focus)
    obtain ⟨text', htext', hmessage'⟩ := message_of_unselected focus hselect' (hc.empty' focus)
    rw [hmessage, hmessage']
    exact (hc.alike h focus).bind fun items _ => Follows.bind
      (Action.follows_of_still (htext items) (htext' items)) fun text text' _ => hlog text text'

include h hc in
theorem sameItems_setVariable :
    SameItems P (setVariable children rule focus) (setVariable children' rule' focus) := by
  have hassign (name : String) (v : Value) : SameItems P
      (do Action.modifyScopes (·.assign name v); return ([] : Items))
      (do Action.modifyScopes (·.assign name v); return ([] : Items)) :=
    (Action.same_modifyScopes _).bind fun _ => .nil
  rw [setVariable, setVariable, h.attribute?_eq]
  refine (same_text h _ focus).bind fun name => ?_
  cases rule.attribute? "select" with
  | some select => exact (Action.same_evaluate select focus).bind (hassign name)
  | none =>
    exact (hc.alike h focus).bind fun items _ => Action.follows_read fun setting =>
      Same.bind (.pure rfl) (hassign name)

/-! ### Boxes -/

theorem same_defaultWidth [Layout.KeptByPages P] :
    Same P (defaultWidth rule focus) (defaultWidth rule' focus) :=
  (Action.same_ensureTarget focus).bind fun _ => (Action.same_targetGrid _ _).bind fun _ =>
    (Action.same_ofExcept _ _ _).bind fun _ => .pure rfl

theorem items_of_setText {advance width : Float} {paragraphs : List String} {format : TextFormat}
    {box : ContentBox Float} (hbox : setText advance paragraphs width format = .ok box) :
    box.items = [] := by
  rw [setText] at hbox
  split at hbox
  · cases hbox
  · dsimp only at hbox
    split at hbox
    · cases hbox
    · cases hbox
      rfl

include h hc in
theorem sameItems_textblock [Layout.KeptByPages P] :
    SameItems P (textblock children rule focus) (textblock children' rule' focus) := by
  refine (same_length? h _ focus).bind fun fontSize => (same_length? h _ focus).bind fun leading =>
    Action.follows_read fun setting => (hc.alike h focus).bind fun items _ =>
      (Action.same_log _ _).bind fun _ => (same_lengths h focus _).bind fun widths => ?_
  have hset (width : Float) : SameItems P
      (do
        let box ← Action.ofExcept .typeset
          (setText setting.advance (items.paragraphs setting.data) width
            (textFormat setting.format fontSize leading))
        return [Item.box box])
      (do
        let box ← Action.ofExcept .typeset
          (setText setting.advance (items.paragraphs setting.data) width
            (textFormat setting.format fontSize leading))
        return [Item.box box]) := by
    refine Follows.bind (V := fun box box' => box = box' ∧ box.items = [])
      (Action.follows_ofExcept fun box hbox => ⟨box, hbox, rfl, items_of_setText hbox⟩) ?_
    rintro box _ ⟨rfl, hbox⟩
    exact .pure ⟨rfl, Items.plain_box hbox⟩
  dsimp only
  split
  · exact Same.bind (.pure rfl) hset
  · exact (same_defaultWidth focus).bind hset

include h in
theorem sameItems_image [Layout.KeptByPages P] (children children' : Children) :
    SameItems P (image children rule focus) (image children' rule' focus) :=
  (same_text h _ focus).bind fun _ => (same_length? h _ focus).bind fun _ =>
    (same_length? h _ focus).bind fun _ => (same_imageSource _ _ _).bind fun _ =>
      (same_lengths h focus _).bind fun _ => (same_flag h _ focus _).bind fun _ =>
        .pure ⟨rfl, Items.plain_box rfl⟩

include h in
theorem sameItems_filledBox [Layout.KeptByPages P] (children children' : Children) :
    SameItems P (filledBox children rule focus) (filledBox children' rule' focus) := by
  refine (same_text? h _ focus).bind fun _ => (same_lengths h focus _).bind fun sides => ?_
  split
  · exact .pure ⟨rfl, Items.plain_box rfl⟩
  · exact .stop _ _
  · exact .stop _ _

end Values

variable [Layout.KeptByCommands P]

/-! ### Page types and grids -/

include h in
theorem sameItems_declarePageType (hname : rule.name = "Pagetype") (children children' : Children) :
    SameItems P (declarePageType children rule focus) (declarePageType children' rule' focus) := by
  refine (same_text h _ focus).bind fun name => (same_expression h _).bind fun test =>
    (Action.same_ofExcept _ _ _).bind fun _ => Action.follows_layout fun l p _ _ =>
      (same_pageTypeParts focus (hname ▸ h.matching) _).bind fun parts => ?_
  exact (Action.same_modifyLayout (fun _ => Layout.KeptByCommands.register _) fun _ _ => rfl).bind
    fun _ => .nil

include h in
theorem sameItems_setGrid (children children' : Children) :
    SameItems P (setGrid children rule focus) (setGrid children' rule' focus) := by
  refine (same_length? h _ focus).bind fun _ => (same_length? h _ focus).bind fun _ =>
    (same_cells? h _ focus).bind fun _ => (same_cells? h _ focus).bind fun _ =>
      (same_length? h _ focus).bind fun _ => (same_length? h _ focus).bind fun _ =>
        Action.follows_layout fun l p _ _ => ?_
  have hset (settings : GridSettings Float) : SameItems P
      (do Action.modifyLayout (fun l => { l with gridSettings := settings }); return ([] : Items))
      (do Action.modifyLayout (fun l => { l with gridSettings := settings }); return ([] : Items)) :=
    (Action.same_modifyLayout (fun _ => Layout.KeptByCommands.setGrid settings) fun _ _ => rfl).bind
      fun _ => .nil
  exact .ite (Same.bind (α := Unit) (.refuse _ _ _) fun _ => hset _) (hset _)

theorem sameItems_newPage (children children' : Children) :
    SameItems P (newPage children rule focus) (newPage children' rule' focus) := by
  refine Action.follows_layout fun l p _ _ => ?_
  rw [show (l.recording p).inGroup = l.inGroup from rfl]
  refine .ite ((Action.same_warn _ _).bind fun _ => .nil) ?_
  exact (Action.same_ensureTarget focus).bind fun _ => Action.same_finishPage.bind fun _ => .nil

/-! ### Groups and markers -/

include h in
/-- The contents of a group are the first part of that name on either side. -/
theorem sameItems_group (hname : rule.name = "Group") (hc : ChildrenAlike P children children') :
    SameItems P (group children rule focus) (group children' rule' focus) := by
  refine (same_text h _ focus).bind fun name => ?_
  have hcontents : (rule.child? "Contents").map Rule.core = (rule'.child? "Contents").map Rule.core :=
    h.matching.find? (by rw [hname]; decide)
  cases hr : rule.child? "Contents" with
  | none =>
    dsimp only
    exact .refuse _ _ _
  | some contents =>
    rw [hr] at hcontents
    obtain ⟨contents', hr', halike⟩ := Option.map_eq_some_iff.mp hcontents.symm
    rw [hr']
    refine Action.follows_layout fun l p hP hp => Follows.bind
      (V := fun k k' => P k ∧ k.patterns.Alike p ∧ k' = k.recording p) ?_ ?_
    · refine Action.follows_ofExcept fun k hk => ?_
      refine ⟨k.recording p, by rw [Layout.startGroup_recording, hk]; rfl,
        Layout.KeptByCommands.startGroup hP hk, ?_, rfl⟩
      obtain ⟨grid, rfl⟩ := Layout.startGroup_eq_ok hk
      exact hp
    · rintro k _ ⟨hk, hkp, rfl⟩
      refine (Action.same_setLayout hk hkp).bind fun _ => Follows.bind
        (Follows.followedBy (hc.alike halike.symm focus) ?_) fun _ _ _ => .nil
      exact Action.same_modifyLayout (fun _ => Layout.KeptByCommands.endGroup)
        fun l p => l.endGroup_recording p

include h in
theorem sameItems_mark (children children' : Children) :
    SameItems P (mark children rule focus) (mark children' rule' focus) := by
  refine (same_expression h _).bind fun select => (Action.same_evaluate select focus).bind fun v =>
    (Action.same_textOf v).bind fun name => ?_
  have hset : SameItems P
      (do
        let isTarget ← flag rule "pdftarget" focus false
        let shift ← length? rule "shift" focus
        Action.modifyLayout fun l => (l.setMarker name isTarget shift).2
        return ([] : Items))
      (do
        let isTarget ← flag rule' "pdftarget" focus false
        let shift ← length? rule' "shift" focus
        Action.modifyLayout fun l => (l.setMarker name isTarget shift).2
        return ([] : Items)) :=
    (same_flag h _ focus _).bind fun isTarget => (same_length? h _ focus).bind fun shift =>
      (Action.same_modifyLayout (fun _ => Layout.KeptByCommands.setMarker name isTarget shift)
        fun l p => l.setMarker_recording p name isTarget shift).bind fun _ => .nil
  exact .ite (Same.bind (α := Unit) (.refuse _ _ _) fun _ => hset) hset

/-! ### Selection and repetition -/

omit [Layout.KeptByCommands P] in
theorem sameItems_inScope {x y : Action Items} (hx : SameItems P x y) :
    SameItems P (inScope x) (inScope y) :=
  (Action.same_modifyScopes _).bind fun _ => hx.followedBy (Action.same_modifyScopes _)

omit [Layout.KeptByCommands P] in
theorem sameItems_forNodes {round round' : Focus → Action Items}
    (hr : ∀ focus, SameItems P (round focus) (round' focus)) (size position : Nat)
    (nodes : List Xml.Address) :
    SameItems P (forNodes round size position nodes) (forNodes round' size position nodes) := by
  induction nodes generalizing position with
  | nil => exact .nil
  | cons a rest ih => exact SameItems.append (hr _) (ih (position + 1))

omit [Layout.KeptByCommands P] in
theorem sameItems_repeated {round round' : Nat → Action Items}
    (hr : ∀ i, SameItems P (round i) (round' i)) (first rounds : Nat) :
    SameItems P (repeated round first rounds) (repeated round' first rounds) := by
  induction rounds generalizing first with
  | zero => exact .nil
  | succ rounds ih => exact SameItems.append (hr first) (ih (first + 1))

section Selection

omit [Layout.KeptByCommands P]
variable (hc : ChildrenAlike P children children')

include h hc in
theorem sameItems_forAll : SameItems P (forAll children rule focus) (forAll children' rule' focus) :=
  (same_nodes h _ focus).bind fun nodes =>
    sameItems_forNodes (fun focus => sameItems_inScope (hc.alike h focus)) nodes.length 1 nodes

include h hc in
theorem sameItems_loop : SameItems P (loop children rule focus) (loop children' rule' focus) := by
  refine (same_expression h _).bind fun select => (Action.same_evaluate select focus).bind fun v =>
    Action.follows_read fun setting => ?_
  have hrounds (count : Float) : SameItems P
      (do
        let counter ← textOr rule "variable" focus loopCounter
        repeated (fun i => inScope do
          Action.modifyScopes (·.bind counter (.number (Float.ofNat i)))
          children rule focus) 1 (rounds count))
      (do
        let counter ← textOr rule' "variable" focus loopCounter
        repeated (fun i => inScope do
          Action.modifyScopes (·.bind counter (.number (Float.ofNat i)))
          children' rule' focus) 1 (rounds count)) :=
    (same_textOr h _ focus _).bind fun counter => sameItems_repeated (fun _ => sameItems_inScope
      ((Action.same_modifyScopes _).bind fun _ => hc.alike h focus)) 1 (rounds count)
  exact .ite (Same.bind (α := Unit) (.refuse _ _ _) fun _ => hrounds _) (hrounds _)

include hc in
/-- The branches of a choice are the parts that both sides have. -/
theorem sameItems_firstBranch {branches branches' : List Rule}
    (h : Matching "Switch" branches branches') :
    SameItems P (firstBranch children focus branches) (firstBranch children' focus branches') := by
  have hcase : ("Switch", "Case") ∈ Rule.parts := by decide
  have hotherwise : ("Switch", "Otherwise") ∈ Rule.parts := by decide
  induction h with
  | nil => exact .nil
  | left hr _ ih =>
    rw [firstBranch, if_neg (Rule.ne_of_isSeen_eq_false hr hcase),
      if_neg (Rule.ne_of_isSeen_eq_false hr hotherwise)]
    exact ih.warn_left
  | right hr _ ih =>
    rw [firstBranch.eq_2 children' focus _ _, if_neg (Rule.ne_of_isSeen_eq_false hr hcase),
      if_neg (Rule.ne_of_isSeen_eq_false hr hotherwise)]
    exact ih.warn_right
  | @both branch branch' _ _ hr _ ih =>
    rw [firstBranch, firstBranch, hr.name_eq]
    refine .ite ?_ (.ite (hc.alike hr focus) ((Action.same_warn _ _).bind fun _ => ih))
    exact (same_expression hr _).bind fun test => (Action.same_evaluate test focus).bind fun _ =>
      .ite (hc.alike hr focus) ih

include h hc in
theorem sameItems_choose (hname : rule.name = "Switch") :
    SameItems P (choose children rule focus) (choose children' rule' focus) :=
  sameItems_firstBranch focus hc (hname ▸ h.matching)

include hc h in
/-- The rules recorded for an element are alike. -/
theorem sameItems_processNode :
    SameItems P (processNode children rule focus) (processNode children' rule' focus) := by
  refine (same_textOr h _ focus _).bind fun mode => (same_nodes h _ focus).bind fun nodes =>
    sameItems_forNodes (fun focus => ?_) nodes.length 1 nodes
  refine Action.follows_read fun setting => ?_
  cases elementName? setting.data focus.node with
  | none => exact .nil
  | some name =>
    refine Action.follows_layout fun l p _ hp => ?_
    have hrecorded : (l.patterns.lookup? name mode).map Rule.core =
        ((l.recording p).patterns.lookup? name mode).map Rule.core :=
      hp name mode
    cases hr : l.patterns.lookup? name mode with
    | none =>
      rw [hr] at hrecorded
      rw [Option.map_eq_none_iff.mp hrecorded.symm]
      exact (Action.same_warn _ _).bind fun _ => .nil
    | some recorded =>
      rw [hr] at hrecorded
      obtain ⟨recorded', hr', halike⟩ := Option.map_eq_some_iff.mp hrecorded.symm
      rw [hr']
      exact hc.alike halike.symm focus

end Selection

include h in
theorem sameItems_recordRule (children children' : Children) :
    SameItems P (recordRule children rule focus) (recordRule children' rule' focus) := by
  refine (same_text h _ focus).bind fun element => (same_textOr h _ focus _).bind fun mode =>
    Same.bind (Action.same_modifyLayout_of (fun _ => Layout.KeptByCommands.record _) ?_) fun _ => .nil
  exact fun l p hp => ⟨p.record element mode rule', hp.record element mode h, rfl⟩

/-! ### Placement -/

section Placement

omit [Layout.KeptByCommands P]
variable {Q : Layout → Prop} [Layout.KeptByPages Q]

theorem same_flowOnTarget (area : String) (columns rows : Nat) :
    Same Q (flowOnTarget rule area columns rows) (flowOnTarget rule' area columns rows) :=
  (Action.same_targetGrid _ _).bind fun _ => (Action.same_ofExcept _ _ _).bind fun _ =>
    (Action.same_setTargetGrid _).bind fun _ => .pure rfl

omit [Layout.KeptByPages Q] in
theorem same_overflow (area : String) (columns rows : Nat) :
    Same Q (overflow rule area columns rows) (overflow rule' area columns rows) :=
  (Action.same_targetGrid _ _).bind fun _ => (Action.same_ofExcept _ _ _).bind fun _ =>
    (Action.same_warn _ _).bind fun _ => .pure rfl

theorem same_flowPlace? (area : String) (columns rows : Nat) :
    Same Q (flowPlace? rule focus area columns rows) (flowPlace? rule' focus area columns rows) := by
  refine (same_flowOnTarget area columns rows).bind fun place => ?_
  cases place with
  | some place => exact .pure rfl
  | none =>
    refine (Action.same_targetGrid _ _).bind fun _ => (Action.same_ofExcept _ _ _).bind fun atStart =>
      Action.follows_layout fun l p _ _ => ?_
    rw [show (l.recording p).inGroup = l.inGroup from rfl]
    refine .ite (.pure rfl) ?_
    exact Action.same_finishPage.bind fun _ => (Action.same_ensureTarget focus).bind fun _ =>
      same_flowOnTarget area columns rows

theorem same_flowPosition (area : String) (columns rows : Nat) :
    Same Q (flowPosition rule focus area columns rows) (flowPosition rule' focus area columns rows) := by
  refine (same_flowPlace? focus area columns rows).bind fun place => ?_
  cases place with
  | some place => exact .pure rfl
  | none => exact same_overflow area columns rows

theorem same_cellFor (area : String) (column row : Option Int) (columns rows : Nat) :
    Same Q (cellFor rule focus area column row columns rows)
      (cellFor rule' focus area column row columns rows) := by
  refine .ite ?_ ((same_flowPosition focus area columns rows).bind fun _ => .pure rfl)
  exact (Action.same_targetGrid _ _).bind fun _ => (Action.same_ofExcept _ _ _).bind fun _ => .pure rfl

theorem same_markBlock (area : String) (x y : Int) (columns rows : Nat) :
    Same Q (markBlock rule area x y columns rows) (markBlock rule' area x y columns rows) :=
  (Action.same_targetGrid _ _).bind fun _ => (Action.same_ofExcept _ _ _).bind fun _ =>
    (Action.same_setTargetGrid _).bind fun _ => Action.same_log _ _

end Placement

/-- A box is placed where there is something to place it on, and it comes from a finished group or has
nothing in it. -/
theorem same_placeBox (x y : Float) (box : ContentBox Float) :
    Same (fun l => P l ∧ l.Sourced box) (placeBox x y box) (placeBox x y box) := by
  refine Action.same_modifyLayout (fun l hl => ?_) fun l p => ?_
  · cases hplace : l.place x y box with
    | none => exact hl
    | some l' =>
      refine ⟨Layout.KeptByCommands.place hl.1 hl.2 hplace, ?_⟩
      have hgroups : l'.groups = l.groups := by
        rw [Layout.place] at hplace
        dsimp only at hplace
        split at hplace <;> cases hplace <;> rfl
      simpa [Layout.Sourced, hgroups] using hl.2
  · rw [Layout.place_recording]
    cases l.place x y box <;> rfl

theorem same_placeAtCell (area : String) (allocate : Bool) (x y : Int) (columns rows : Nat)
    (box : ContentBox Float) :
    Same (fun l => P l ∧ l.Sourced box) (placeAtCell rule area allocate x y columns rows box)
      (placeAtCell rule' area allocate x y columns rows box) := by
  refine (Action.same_targetGrid _ _).bind fun _ => (Action.same_ofExcept _ _ _).bind fun left =>
    (Action.same_ofExcept _ _ _).bind fun top => ?_
  exact .ite ((same_markBlock area x y columns rows).bind fun _ => same_placeBox left top box)
    (same_placeBox left top box)

theorem same_placeInCells (area : String) (allocate : Bool) (column row : Option Int)
    (box : ContentBox Float) :
    Same (fun l => P l ∧ l.Sourced box) (placeInCells rule focus area allocate column row box)
      (placeInCells rule' focus area allocate column row box) :=
  (Action.same_targetGrid _ _).bind fun _ => (same_cellFor focus area column row _ _).bind fun _ =>
    same_placeAtCell area allocate _ _ _ _ box

theorem same_placeByCoordinates (area : String) (allocate : Bool) (column row : Option Int)
    (box : ContentBox Float) (x y : Option Float) :
    Same (fun l => P l ∧ l.Sourced box)
      (placeByCoordinates rule focus area allocate column row box x y)
      (placeByCoordinates rule' focus area allocate column row box x y) := by
  unfold placeByCoordinates
  split
  · exact same_placeBox _ _ box
  · exact same_placeInCells focus area allocate column row box
  · exact .refuse _ _ _

omit [Layout.KeptByCommands P] in
theorem same_groupBox (name : String) : Same P (groupBox rule name) (groupBox rule' name) := by
  refine Action.follows_layout fun l p _ _ => ?_
  rw [show (l.recording p).group? name = l.group? name from rfl]
  cases l.group? name with
  | none => exact .stop _ _
  | some group =>
    dsimp only
    cases group.box? with
    | some box => exact .pure rfl
    | none => exact .refuse _ _ _

/-- The box of a group is that of a finished one. -/
theorem sourced_groupBox {name : String} {setting : Setting} {s t : Session} {box : ContentBox Float}
    (hrun : (groupBox rule name).runWith setting s = (.ok box, t)) : t.layout.Sourced box := by
  rw [groupBox, Action.layout_bind] at hrun
  cases hgroup : s.layout.group? name with
  | none =>
    rw [hgroup] at hrun
    cases hrun
  | some group =>
    rw [hgroup] at hrun
    dsimp only at hrun
    cases hbox : group.box? with
    | none =>
      rw [hbox] at hrun
      cases hrun
    | some b =>
      rw [hbox] at hrun
      cases hrun
      exact .inr ⟨group, List.mem_of_find?_eq_some hgroup, hbox⟩

omit [Layout.KeptByCommands P] in
theorem same_singleBox (items : Items) : Same P (singleBox rule items) (singleBox rule' items) := by
  rw [singleBox, singleBox]
  split
  · exact .pure rfl
  · exact .refuse _ _ _

/-- The only box of plain items has nothing in it. -/
theorem sourced_singleBox {items : Items} (hitems : items.Plain) {setting : Setting} {s t : Session}
    {box : ContentBox Float} (hrun : (singleBox rule items).runWith setting s = (.ok box, t)) :
    t.layout.Sourced box := by
  rw [singleBox] at hrun
  split at hrun
  · next hboxes =>
    cases hrun
    exact .inl (hitems _ (by rw [hboxes]; exact .head _))
  · cases hrun

include h in
/-- **What is placed** is the box of a finished group, or one that the rules below make and that has
nothing in it. -/
theorem sameItems_placeObject (hc : ChildrenAlike P children children') :
    SameItems P (placeObject children rule focus) (placeObject children' rule' focus) := by
  refine (same_textOr h _ focus _).bind fun area => (same_flag h _ focus _).bind fun allocate =>
    (same_position? h _ focus).bind fun column => (same_position? h _ focus).bind fun row =>
      (same_length? h _ focus).bind fun x => (same_length? h _ focus).bind fun y =>
        (same_text? h _ focus).bind fun name => ?_
  have hplace (box : ContentBox Float) :
      Follows (fun l => P l ∧ l.Sourced box) (fun items items' => items = items' ∧ Items.Plain items)
        (do
          Action.ensureTarget focus
          placeByCoordinates rule focus area allocate column row box x y
          return ([] : Items))
        (do
          Action.ensureTarget focus
          placeByCoordinates rule' focus area allocate column row box x y
          return ([] : Items)) :=
    (Action.same_ensureTarget focus).bind fun _ =>
      (same_placeByCoordinates focus area allocate column row box x y).bind fun _ => .nil
  cases name with
  | some name =>
    refine Follows.bind_of (Q := fun box l => l.Sourced box) (same_groupBox name)
      (fun _ _ _ _ _ => sourced_groupBox) ?_
    rintro box _ rfl
    exact hplace box
  | none =>
    refine (hc.alike h focus).bind fun items hitems =>
      Follows.bind_of (Q := fun box l => l.Sourced box) (same_singleBox items)
        (fun _ _ _ _ _ => sourced_singleBox hitems) ?_
    rintro box _ rfl
    exact hplace box

include h in
omit [Layout.KeptByCommands P] in
theorem sameItems_nextRow [Layout.KeptByPages P] (children children' : Children) :
    SameItems P (nextRow children rule focus) (nextRow children' rule' focus) := by
  have hleave (grid : Grid Float) (moved : Bool) : SameItems P
      (do
        Action.setTargetGrid grid
        if !moved && !(← Action.layout).inGroup then Action.finishPage
        return ([] : Items))
      (do
        Action.setTargetGrid grid
        if !moved && !(← Action.layout).inGroup then Action.finishPage
        return ([] : Items)) := by
    refine (Action.same_setTargetGrid grid).bind fun _ => Action.follows_layout fun l p _ _ => ?_
    rw [show (l.recording p).inGroup = l.inGroup from rfl]
    exact .ite (Action.same_finishPage.bind fun _ => .nil) .nil
  refine (same_textOr h _ focus _).bind fun area => (same_cells? h _ focus).bind fun rows =>
    (Action.same_ensureTarget focus).bind fun _ => (Action.same_targetGrid _ _).bind fun grid =>
      (Action.same_ofExcept _ _ _).bind fun found => ?_
  obtain ⟨next, moved⟩ := found
  dsimp only
  split
  · exact hleave next true
  · exact (Action.same_ofExcept _ _ _).bind fun advanced => hleave advanced.1 advanced.2

end Command

/-! ### Rules -/

open PageGrid.Action (Same Follows SameItems)
open Rule (Matching)

variable {P : Layout → Prop}

theorem CommandName.mem_names {name : String} {command : CommandName}
    (h : ofName? name = some command) : (name, command) ∈ names := by
  obtain ⟨⟨found, _⟩, hfind, rfl⟩ := Option.map_eq_some_iff.mp h
  obtain rfl : found = name := by simpa using List.find?_some hfind
  exact List.mem_of_find?_eq_some hfind

theorem CommandName.sameItems_run [Layout.KeptByCommands P] {children children' : Command.Children}
    (hc : Command.ChildrenAlike P children children') {rule rule' : Rule} (h : rule.Alike rule')
    {command : CommandName} (hcommand : ofName? rule.name = some command) (focus : Focus) :
    SameItems P (command.run children rule focus) (command.run children' rule' focus) := by
  have hname := mem_names hcommand
  cases command with
  | recordRule => exact Command.sameItems_recordRule h focus children children'
  | processNode => exact Command.sameItems_processNode h focus hc
  | pageType =>
    exact Command.sameItems_declarePageType h focus (by simpa [names] using hname) children children'
  | value => exact Command.sameItems_value h focus hc (by simpa [names] using hname)
  | copyOf => exact Command.sameItems_copyOf h focus children children'
  | paragraph => exact Command.sameItems_paragraph h focus hc
  | textblock => exact Command.sameItems_textblock h focus hc
  | image => exact Command.sameItems_image h focus children children'
  | box => exact Command.sameItems_filledBox h focus children children'
  | message => exact Command.sameItems_message h focus hc
  | placeObject => exact Command.sameItems_placeObject h focus hc
  | newPage => exact Command.sameItems_newPage focus children children'
  | nextRow => exact Command.sameItems_nextRow h focus children children'
  | setGrid => exact Command.sameItems_setGrid h focus children children'
  | group => exact Command.sameItems_group h focus (by simpa [names] using hname) hc
  | contents => exact hc.alike h focus
  | mark => exact Command.sameItems_mark h focus children children'
  | setVariable => exact Command.sameItems_setVariable h focus hc
  | forAll => exact Command.sameItems_forAll h focus hc
  | loop => exact Command.sameItems_loop h focus hc
  | choose => exact Command.sameItems_choose h focus hc (by simpa [names] using hname)

namespace Interpreter

/-- Lists of rules that match, where what is not seen is skipped on either side. -/
theorem sameItems_executeAll {parent : String} {apply apply' : Rule → Focus → Action Items}
    (focus : Focus) {rules rules' : List Rule} (h : Matching parent rules rules')
    (hboth : ∀ r r', r.Alike r' → SameItems P (apply r focus) (apply' r' focus))
    (hleft : ∀ r, r.isLayout = false → SameItems P (apply r focus) (pure []))
    (hright : ∀ r, r.isLayout = false → SameItems P (pure []) (apply' r focus)) :
    SameItems P (executeAll apply focus rules) (executeAll apply' focus rules') := by
  induction h with
  | nil => exact .nil
  | @left r rs rs' hr _ ih =>
    rw [executeAll, ← Action.nothing_append (executeAll apply' focus rs')]
    exact (hleft r (Rule.isLayout_of_isSeen_eq_false hr)).append ih
  | @right r' rs rs' hr _ ih =>
    rw [executeAll.eq_2 apply' focus r' rs', ← Action.nothing_append (executeAll apply focus rs)]
    exact (hright r' (Rule.isLayout_of_isSeen_eq_false hr)).append ih
  | @both r r' _ _ hr _ ih => exact (hboth r r' hr).append ih

/-- What is not in the layout namespace is skipped, if there is a level left for it. -/
theorem sameItems_skipped_left (depth : Nat) {rule : Rule} (h : rule.isLayout = false)
    (focus : Focus) : SameItems P (execute depth rule focus) (pure []) := by
  cases depth with
  | zero => exact Follows.reporting_left (.refuse _ _ _) _
  | succ depth =>
    rw [execute, h]
    exact Follows.warn_left .nil

theorem sameItems_skipped_right (depth : Nat) {rule : Rule} (h : rule.isLayout = false)
    (focus : Focus) : SameItems P (pure []) (execute (depth + 1) rule focus) := by
  rw [execute, h]
  exact Follows.warn_right .nil

/-- Child elements that match are applied alike, if rules that are alike are. -/
theorem sameItems_executeChildren_of {depth further : Nat}
    (hexecute : ∀ {r r' : Rule}, r.Alike r' → ∀ focus,
      SameItems P (execute depth r focus) (execute (further + 1) r' focus))
    {parent : String} {rule rule' : Rule} (h : Matching parent rule.elements rule'.elements)
    (focus : Focus) :
    SameItems P (executeChildren depth rule focus) (executeChildren (further + 1) rule' focus) :=
  sameItems_executeAll focus h (fun _ _ hr => hexecute hr focus)
    (fun _ hr => sameItems_skipped_left depth hr focus)
    fun _ hr => sameItems_skipped_right further hr focus

variable [Layout.KeptByCommands P]

/-- **Rules that are alike are applied alike**, where the second application has more levels at hand. -/
theorem sameItems_execute {depth further : Nat} (hdepth : depth ≤ further) {rule rule' : Rule}
    (h : rule.Alike rule') (focus : Focus) :
    SameItems P (execute depth rule focus) (execute (further + 1) rule' focus) := by
  induction depth generalizing further rule rule' focus with
  | zero => exact Follows.reporting_left (.refuse _ _ _) _
  | succ depth ih =>
    obtain ⟨further, rfl⟩ := Nat.exists_eq_add_of_le' (Nat.lt_of_lt_of_le (Nat.succ_pos _) hdepth)
    have hexecute {r r' : Rule} (hr : r.Alike r') (focus : Focus) :
        SameItems P (execute depth r focus) (execute (further + 1) r' focus) :=
      ih (Nat.le_of_succ_le_succ hdepth) hr focus
    have hc : Command.ChildrenAlike P (executeChildren depth) (executeChildren (further + 1)) := by
      refine ⟨fun focus hmatch => sameItems_executeChildren_of hexecute hmatch focus,
        fun focus hempty => ?_, fun focus hempty => ?_⟩
      · rw [executeChildren, hempty, executeAll]
      · rw [executeChildren, hempty, executeAll]
    rw [execute, execute.eq_2, h.isLayout_eq, h.name_eq]
    refine .ite ((Action.same_warn _ _).bind fun _ => .nil) ?_
    cases hcommand : CommandName.ofName? rule.name with
    | none => exact (Action.same_warn _ _).bind fun _ => .nil
    | some command =>
      exact ((command.sameItems_run hc h hcommand focus).reporting_left _).reporting_right _

/-- The rules below rules that are alike are applied alike. -/
theorem sameItems_executeChildren {depth further : Nat} (hdepth : depth ≤ further) {rule rule' : Rule}
    (h : rule.Alike rule') (focus : Focus) :
    SameItems P (executeChildren depth rule focus) (executeChildren (further + 1) rule' focus) :=
  sameItems_executeChildren_of (sameItems_execute hdepth) h.matching focus

end Interpreter

/-- **Programs of rules that are alike** do the same. -/
theorem Job.same_program [Layout.KeptByCommands P] {depth further : Nat} (hdepth : depth ≤ further)
    {rules rules' : Rule} (h : rules.Alike rules') (rootName : String) :
    Same P (program depth rules rootName) (program (further + 1) rules' rootName) := by
  refine (Interpreter.sameItems_executeChildren hdepth h _).bind fun _ _ =>
    Action.follows_layout fun l p _ hp => ?_
  have hrecorded : (l.patterns.lookup? rootName "").map Rule.core =
      ((l.recording p).patterns.lookup? rootName "").map Rule.core :=
    hp rootName ""
  cases hr : l.patterns.lookup? rootName "" with
  | none => exact .stop _ _
  | some recorded =>
    rw [hr] at hrecorded
    obtain ⟨recorded', hr', halike⟩ := Option.map_eq_some_iff.mp hrecorded.symm
    rw [hr']
    exact (Interpreter.sameItems_executeChildren hdepth halike.symm _).bind fun _ _ =>
      Action.same_finishPage

end PageGrid
