import PageGrid.Proofs.Indifference

/-!
# Commands are indifferent to another beginning

One lemma for each command: if the application of the rules below is indifferent to a variation, so is
the command. The application of rules is then indifferent by induction on the depth.

The items that a command yields are the same up to the numbers of destinations in boxes. There are two
commands that look into items, and both see what they would have seen: a block of text takes the texts of
paragraphs, and a placed object the size of its box. The one command that makes a number, the marker,
takes the next one, which is higher by the same amount.

## Main results

* `renumbered_placeObject`, `renumbered_group`, `renumbered_mark` — the commands that meet numbers;
* `renumbered_execute` — the application of a rule, at every depth.
-/

namespace PageGrid

variable {v : Variation}

/-- The action does the same with another beginning, and its items are the same up to the numbers of
destinations. -/
abbrev Action.Renumbered (v : Variation) (x : Action Items) : Prop :=
  Indifferent v (Items.renumber v.offset) x x

namespace Command

open PageGrid.Action (Steady Indifferent Renumbered)
open Attributes

/-! ### Readers of commands -/

theorem steady_imageSource (file : String) (width height : Option Float) :
    Steady v (imageSource file width height) := by
  refine Action.indifferent_read fun setting => ?_
  have hfind : (setting.vary v).files.find? (setting.vary v).searchPaths file =
      setting.files.find? setting.searchPaths file :=
    (v.sameImages setting.files).find? _ _
  have hsize (path : String) : ImageFile.size? (setting.vary v).files path ImageFile.pointResolution =
      ImageFile.size? setting.files path ImageFile.pointResolution :=
    (v.sameImages setting.files).size? _ _
  rw [hfind]
  dsimp only
  split
  · exact .pure rfl
  · split
    · exact .stop _
    · rw [hsize]
      split
      · exact .stop _
      · exact .pure rfl

theorem steady_marginsOf (rule : Rule) (focus : Focus) (defaults : Margins Float) :
    Steady v (marginsOf rule focus defaults) :=
  (steady_read? rule _ focus _).bind fun _ => (steady_length? rule _ focus).bind fun _ =>
    (steady_length? rule _ focus).bind fun _ => (steady_length? rule _ focus).bind fun _ =>
      (steady_length? rule _ focus).bind fun _ => .pure rfl

theorem steady_framesOf (focus : Focus) (frames : List Rule) : Steady v (framesOf focus frames) := by
  induction frames with
  | nil => exact .pure rfl
  | cons frame rest ih =>
    refine .ite ?_ ((Action.steady_warn _).bind fun _ => ih)
    exact (steady_cells frame _ focus).bind fun _ => (steady_cells frame _ focus).bind fun _ =>
      (steady_cells frame _ focus).bind fun _ => (steady_cells frame _ focus).bind fun _ =>
        ih.bind fun _ => .pure rfl

theorem steady_areaOf (rule : Rule) (focus : Focus) : Steady v (areaOf rule focus) := by
  refine (steady_text rule _ focus).bind fun name => (steady_framesOf focus _).bind fun frames => ?_
  dsimp only
  split
  · exact Steady.bind (.stop _) fun _ => .pure rfl
  · exact .pure rfl

theorem steady_pageTypeParts (focus : Focus) (margins : Margins Float) (parts : List Rule) :
    Steady v (pageTypeParts focus margins parts) := by
  induction parts generalizing margins with
  | nil => exact .pure rfl
  | cons part rest ih =>
    refine .ite ((steady_marginsOf part focus margins).bind fun m => ih m) (.ite ?_ ?_)
    · exact (steady_areaOf part focus).bind fun _ => (ih margins).bind fun _ => .pure rfl
    · exact (Action.steady_warn _).bind fun _ => ih margins

variable {children : Children} (hc : ∀ rule focus, Renumbered v (children rule focus))
variable (rule : Rule) (focus : Focus)

/-! ### Values -/

include hc in
theorem renumbered_value : Renumbered v (value children rule focus) := by
  rw [value]
  cases rule.attribute? "select" with
  | some select =>
    exact (Action.steady_evaluate select focus).bind fun value =>
      .pure (Items.renumber_ofValue v.offset value)
  | none => exact .ite (hc rule focus) (.pure (by split <;> rfl))

theorem renumbered_copyOf (children : Children) : Renumbered v (copyOf children rule focus) :=
  (steady_expression rule _).bind fun _ => (Action.steady_evaluate _ focus).bind fun value =>
    .pure (Items.renumber_ofValue v.offset value)

/-- The text of items does not depend on numbers. -/
theorem indifferent_textOfItems {α : Type} {f : α → α} (items : Items) {k k' : String → Action α}
    (hk : ∀ text, Indifferent v f (k text) (k' text)) :
    Indifferent v f (textOfItems items >>= k) (textOfItems (items.renumber v.offset) >>= k') := by
  refine Indifferent.bind (f := id) (Action.indifferent_read fun setting => ?_) hk
  exact .pure (items.toText_renumber v.offset setting.data).symm

include hc in
theorem renumbered_paragraph : Renumbered v (paragraph children rule focus) :=
  (hc rule focus).bind fun items => indifferent_textOfItems items fun _ => .pure rfl

include hc in
theorem renumbered_message : Renumbered v (message children rule focus) := by
  have hlog (text : String) : Renumbered v (do
      Action.log [.info s!"Message: {Text.trim text}"]
      return ([] : Items)) :=
    (Action.steady_log _).bind fun _ => .pure rfl
  rw [message]
  cases rule.attribute? "select" with
  | some select =>
    exact (Action.steady_evaluate select focus).bind fun value =>
      (Action.steady_textOf value).bind hlog
  | none =>
    dsimp only
    split
    · exact (hc rule focus).bind fun items => indifferent_textOfItems items hlog
    · exact Steady.bind (.pure rfl) hlog

include hc in
theorem renumbered_setVariable : Renumbered v (setVariable children rule focus) := by
  have hassign (name : String) (value : Value) :
      Renumbered v (do Action.modifyScopes (·.assign name value); return ([] : Items)) :=
    (Action.steady_modifyScopes _).bind fun _ => .pure rfl
  refine (steady_text rule _ focus).bind fun name => ?_
  cases rule.attribute? "select" with
  | some select => exact (Action.steady_evaluate select focus).bind (hassign name)
  | none =>
    refine (hc rule focus).bind fun items => Action.indifferent_read fun setting => ?_
    rw [Items.toValue_renumber]
    exact Steady.bind (.pure rfl) (hassign name)

/-! ### Boxes -/

theorem steady_defaultWidth : Steady v (defaultWidth rule focus) :=
  (Action.steady_ensureTarget focus).bind fun _ => (Action.steady_targetGrid rule).bind fun _ =>
    (Action.steady_ofExcept _ _).bind fun _ => .pure rfl

/-- A block of text has no destinations in it. -/
theorem map_renumber_setText (k : Nat) (advance : Float) (paragraphs : List String) (width : Float)
    (format : TextFormat) :
    (setText advance paragraphs width format).map (ContentBox.renumber k) =
      setText advance paragraphs width format := by
  rw [setText]
  split
  · rfl
  · dsimp only
    split <;> rfl

include hc in
theorem renumbered_textblock : Renumbered v (textblock children rule focus) := by
  refine (steady_length? rule _ focus).bind fun fontSize =>
    (steady_length? rule _ focus).bind fun leading => Action.indifferent_read fun setting =>
      (hc rule focus).bind fun items => ?_
  rw [Items.boxNotices_renumber, Items.paragraphs_renumber]
  refine (Action.steady_log _).bind fun _ => (steady_lengths rule focus _).bind fun widths => ?_
  have hset (width : Float) : Renumbered v (do
      let box ← Action.ofExcept .typeset
        (setText setting.advance (items.paragraphs setting.data) width
          (textFormat setting.format fontSize leading))
      return [Item.box box]) := by
    have hbox := Action.indifferent_ofExcept (v := v) (f := ContentBox.renumber v.offset) .typeset
      (setText setting.advance (items.paragraphs setting.data) width
        (textFormat setting.format fontSize leading))
    rw [map_renumber_setText] at hbox
    exact hbox.bind fun _ => .pure rfl
  dsimp only
  split
  · exact Steady.bind (.pure rfl) hset
  · exact (steady_defaultWidth rule focus).bind hset

theorem renumbered_image (children : Children) : Renumbered v (image children rule focus) :=
  (steady_text rule _ focus).bind fun _ => (steady_length? rule _ focus).bind fun _ =>
    (steady_length? rule _ focus).bind fun _ => (steady_imageSource _ _ _).bind fun _ =>
      (steady_lengths rule focus _).bind fun _ => (steady_flag rule _ focus _).bind fun _ =>
        .pure rfl

theorem renumbered_filledBox (children : Children) : Renumbered v (filledBox children rule focus) := by
  refine (steady_text? rule _ focus).bind fun _ => (steady_lengths rule focus _).bind fun sides => ?_
  split
  · exact .pure rfl
  · exact .stop _
  · exact .stop _

/-! ### Page types and grids -/

theorem renumbered_declarePageType (children : Children) :
    Renumbered v (declarePageType children rule focus) := by
  refine (steady_text rule _ focus).bind fun _ => (steady_expression rule _).bind fun _ =>
    (Action.steady_ofExcept _ _).bind fun _ => Action.indifferent_layout.bind fun _ =>
      (steady_pageTypeParts focus _ _).bind fun _ =>
        (Action.indifferent_modifyLayout fun _ => ?_).bind fun _ => .pure rfl
  rfl

theorem renumbered_setGrid (children : Children) : Renumbered v (setGrid children rule focus) := by
  refine (steady_length? rule _ focus).bind fun _ => (steady_length? rule _ focus).bind fun _ =>
    (steady_cells? rule _ focus).bind fun _ => (steady_cells? rule _ focus).bind fun _ =>
      (steady_length? rule _ focus).bind fun _ => (steady_length? rule _ focus).bind fun _ =>
        Action.indifferent_layout.bind fun l => ?_
  have hset (settings : GridSettings Float) :
      Renumbered v (do
        Action.modifyLayout fun l => { l with gridSettings := settings }
        return ([] : Items)) := by
    refine (Action.indifferent_modifyLayout fun _ => ?_).bind fun _ => .pure rfl
    rfl
  exact .ite (Steady.bind (.refuse _ _) fun _ => hset _) (hset _)

theorem renumbered_newPage (children : Children) : Renumbered v (newPage children rule focus) := by
  refine Action.indifferent_layout.bind fun l => ?_
  rw [Layout.inGroup_vary]
  refine .ite ((Action.steady_warn _).bind fun _ => .pure rfl) ?_
  exact (Action.steady_ensureTarget focus).bind fun _ =>
    Action.steady_finishPage.bind fun _ => .pure rfl

/-! ### Groups and markers -/

include hc in
theorem renumbered_group : Renumbered v (group children rule focus) := by
  refine (steady_text rule _ focus).bind fun name => ?_
  cases rule.child? "Contents" with
  | none => exact .refuse _ _
  | some contents =>
    refine Action.indifferent_layout.bind fun l => ?_
    rw [Layout.startGroup_vary]
    refine (Action.indifferent_ofExcept _ _).bind fun started =>
      (Action.indifferent_setLayout started).bind fun _ => ?_
    refine Indifferent.bind (Indifferent.followedBy (hc contents focus) ?_) fun _ => .pure rfl
    exact Action.indifferent_modifyLayout fun l => l.endGroup_vary v

theorem renumbered_mark (children : Children) : Renumbered v (mark children rule focus) := by
  refine (steady_expression rule _).bind fun select =>
    (Action.steady_evaluate select focus).bind fun _ =>
      (Action.steady_textOf _).bind fun name => ?_
  have hset : Renumbered v (do
      let isTarget ← flag rule "pdftarget" focus false
      let shift ← length? rule "shift" focus
      Action.modifyLayout fun l => (l.setMarker name isTarget shift).2
      return ([] : Items)) :=
    (steady_flag rule _ focus _).bind fun isTarget => (steady_length? rule _ focus).bind fun shift =>
      (Action.indifferent_modifyLayout fun l => l.setMarker_vary v name isTarget shift).bind
        fun _ => .pure rfl
  exact .ite (Steady.bind (.refuse _ _) fun _ => hset) hset

/-! ### Selection and repetition -/

theorem renumbered_inScope {x : Action Items} (hx : Renumbered v x) : Renumbered v (inScope x) :=
  (Action.steady_modifyScopes _).bind fun _ => hx.followedBy (Action.steady_modifyScopes _)

theorem renumbered_forNodes {round : Focus → Action Items} (hr : ∀ focus, Renumbered v (round focus))
    (size position : Nat) (nodes : List Xml.Address) :
    Renumbered v (forNodes round size position nodes) := by
  induction nodes generalizing position with
  | nil => exact .pure rfl
  | cons a rest ih =>
    exact (hr _).bind fun items => (ih (position + 1)).bind fun others =>
      .pure (Items.renumber_append v.offset items others)

theorem renumbered_repeated {round : Nat → Action Items} (hr : ∀ i, Renumbered v (round i))
    (first rounds : Nat) : Renumbered v (repeated round first rounds) := by
  induction rounds generalizing first with
  | zero => exact .pure rfl
  | succ rounds ih =>
    exact (hr first).bind fun items => (ih (first + 1)).bind fun others =>
      .pure (Items.renumber_append v.offset items others)

include hc in
theorem renumbered_forAll : Renumbered v (forAll children rule focus) :=
  (steady_nodes rule _ focus).bind fun nodes =>
    renumbered_forNodes (fun focus => renumbered_inScope (hc rule focus)) nodes.length 1 nodes

include hc in
theorem renumbered_loop : Renumbered v (loop children rule focus) := by
  refine (steady_expression rule _).bind fun select =>
    (Action.steady_evaluate select focus).bind fun value =>
      Action.indifferent_read fun setting => ?_
  change Indifferent v _ _ (let count := value.toNumber setting.data; _)
  have hrounds (count : Float) : Renumbered v (do
      let counter ← textOr rule "variable" focus loopCounter
      repeated (fun i => inScope do
        Action.modifyScopes (·.bind counter (.number (Float.ofNat i)))
        children rule focus) 1 (rounds count)) :=
    (steady_textOr rule _ focus _).bind fun counter =>
      renumbered_repeated (fun _ => renumbered_inScope
        ((Action.steady_modifyScopes _).bind fun _ => hc rule focus)) 1 (rounds count)
  exact .ite (Steady.bind (.refuse _ _) fun _ => hrounds _) (hrounds _)

include hc in
theorem renumbered_firstBranch (branches : List Rule) :
    Renumbered v (firstBranch children focus branches) := by
  induction branches with
  | nil => exact .pure rfl
  | cons branch rest ih =>
    refine .ite ?_ (.ite (hc branch focus) ((Action.steady_warn _).bind fun _ => ih))
    exact (steady_expression branch _).bind fun test =>
      (Action.steady_evaluate test focus).bind fun _ => .ite (hc branch focus) ih

theorem renumbered_recordRule (children : Children) :
    Renumbered v (recordRule children rule focus) := by
  refine (steady_text rule _ focus).bind fun _ => (steady_textOr rule _ focus _).bind fun _ =>
    (Action.indifferent_modifyLayout fun _ => ?_).bind fun _ => .pure rfl
  rfl

include hc in
theorem renumbered_processNode : Renumbered v (processNode children rule focus) := by
  refine (steady_textOr rule _ focus _).bind fun mode => (steady_nodes rule _ focus).bind fun nodes =>
    renumbered_forNodes (fun focus => ?_) nodes.length 1 nodes
  refine Action.indifferent_read fun setting => ?_
  rw [Setting.data_vary]
  cases elementName? setting.data focus.node with
  | none => exact .pure rfl
  | some name =>
    refine Action.indifferent_layout.bind fun l => ?_
    rw [Layout.patterns_vary]
    cases l.patterns.lookup? name mode with
    | some recorded => exact hc recorded focus
    | none => exact (Action.steady_warn _).bind fun _ => .pure rfl

/-! ### Placement -/

theorem steady_flowOnTarget (area : String) (columns rows : Nat) :
    Steady v (flowOnTarget rule area columns rows) :=
  (Action.steady_targetGrid rule).bind fun _ => (Action.steady_ofExcept _ _).bind fun _ =>
    (Action.steady_setTargetGrid _).bind fun _ => .pure rfl

theorem steady_overflow (area : String) (columns rows : Nat) :
    Steady v (overflow rule area columns rows) :=
  (Action.steady_targetGrid rule).bind fun _ => (Action.steady_ofExcept _ _).bind fun _ =>
    (Action.steady_warn _).bind fun _ => .pure rfl

theorem steady_flowPlace? (area : String) (columns rows : Nat) :
    Steady v (flowPlace? rule focus area columns rows) := by
  refine (steady_flowOnTarget rule area columns rows).bind fun place => ?_
  cases place with
  | some place => exact .pure rfl
  | none =>
    refine (Action.steady_targetGrid rule).bind fun _ =>
      (Action.steady_ofExcept _ _).bind fun atStart => Action.indifferent_layout.bind fun l => ?_
    rw [Layout.inGroup_vary]
    refine .ite (.pure rfl) ?_
    exact Action.steady_finishPage.bind fun _ =>
      (Action.steady_ensureTarget focus).bind fun _ => steady_flowOnTarget rule area columns rows

theorem steady_flowPosition (area : String) (columns rows : Nat) :
    Steady v (flowPosition rule focus area columns rows) := by
  refine (steady_flowPlace? rule focus area columns rows).bind fun place => ?_
  cases place with
  | some place => exact .pure rfl
  | none => exact steady_overflow rule area columns rows

theorem steady_cellFor (area : String) (column row : Option Int) (columns rows : Nat) :
    Steady v (cellFor rule focus area column row columns rows) := by
  refine .ite ?_ ((steady_flowPosition rule focus area columns rows).bind fun _ => .pure rfl)
  exact (Action.steady_targetGrid rule).bind fun _ => (Action.steady_ofExcept _ _).bind fun _ =>
    .pure rfl

theorem steady_markBlock (area : String) (x y : Int) (columns rows : Nat) :
    Steady v (markBlock rule area x y columns rows) :=
  (Action.steady_targetGrid rule).bind fun _ => (Action.steady_ofExcept _ _).bind fun _ =>
    (Action.steady_setTargetGrid _).bind fun _ => Action.steady_log _

/-- The one box that there is, with higher numbers. -/
theorem indifferent_singleBox (items : Items) :
    Indifferent v (ContentBox.renumber v.offset) (singleBox rule items)
      (singleBox rule (items.renumber v.offset)) := by
  rw [singleBox, singleBox, Items.boxes_renumber]
  rcases items.boxes with _ | ⟨box, _ | ⟨other, rest⟩⟩
  · exact .refuse _ _
  · exact .pure rfl
  · have hlength : ((box :: other :: rest).map (ContentBox.renumber v.offset)).length =
        (box :: other :: rest).length := List.length_map _
    simp only [List.map_cons] at hlength ⊢
    rw [hlength]
    exact .refuse _ _

theorem indifferent_groupBox (name : String) :
    Indifferent v (ContentBox.renumber v.offset) (groupBox rule name) (groupBox rule name) := by
  refine Action.indifferent_layout.bind fun l => ?_
  rw [Layout.group?_vary]
  cases l.group? name with
  | none => exact .stop _
  | some group =>
    dsimp only [Option.map_some]
    rw [Group.box?_renumber]
    cases group.box? with
    | some box => exact .pure rfl
    | none => exact .refuse _ _

theorem indifferent_placeBox (x y : Float) (box : ContentBox Float) :
    Indifferent v id (placeBox x y box) (placeBox x y (box.renumber v.offset)) := by
  refine Action.indifferent_modifyLayout fun l => ?_
  rw [Layout.place_vary]
  cases l.place x y box <;> rfl

theorem indifferent_placeAtCell (area : String) (allocate : Bool) (x y : Int) (columns rows : Nat)
    (box : ContentBox Float) :
    Indifferent v id (placeAtCell rule area allocate x y columns rows box)
      (placeAtCell rule area allocate x y columns rows (box.renumber v.offset)) := by
  refine (Action.steady_targetGrid rule).bind fun _ => (Action.steady_ofExcept _ _).bind fun left =>
    (Action.steady_ofExcept _ _).bind fun top => ?_
  have hplace := indifferent_placeBox (v := v) left top box
  exact .ite ((steady_markBlock rule area x y columns rows).bind fun _ => hplace) hplace

theorem indifferent_placeInCells (area : String) (allocate : Bool) (column row : Option Int)
    (box : ContentBox Float) :
    Indifferent v id (placeInCells rule focus area allocate column row box)
      (placeInCells rule focus area allocate column row (box.renumber v.offset)) := by
  refine (Action.steady_targetGrid rule).bind fun grid => ?_
  have hcells : cellsOf grid (box.renumber v.offset) = cellsOf grid box := by
    rw [cellsOf, ContentBox.width_renumber, ContentBox.height_renumber, cellsOf]
  rw [hcells]
  exact (steady_cellFor rule focus area column row _ _).bind fun _ =>
    indifferent_placeAtCell rule area allocate _ _ _ _ box

theorem indifferent_placeByCoordinates (area : String) (allocate : Bool) (column row : Option Int)
    (box : ContentBox Float) (x y : Option Float) :
    Indifferent v id (placeByCoordinates rule focus area allocate column row box x y)
      (placeByCoordinates rule focus area allocate column row (box.renumber v.offset) x y) := by
  unfold placeByCoordinates
  split
  · exact indifferent_placeBox _ _ box
  · exact indifferent_placeInCells rule focus area allocate column row box
  · exact .refuse _ _

include hc in
theorem renumbered_placeObject : Renumbered v (placeObject children rule focus) := by
  refine (steady_textOr rule _ focus _).bind fun area =>
    (steady_flag rule _ focus _).bind fun allocate =>
      (steady_position? rule _ focus).bind fun column =>
        (steady_position? rule _ focus).bind fun row =>
          (steady_length? rule _ focus).bind fun x => (steady_length? rule _ focus).bind fun y =>
            (steady_text? rule _ focus).bind fun name => ?_
  have hplace (box : ContentBox Float) : Indifferent v (Items.renumber v.offset)
      (do
        Action.ensureTarget focus
        placeByCoordinates rule focus area allocate column row box x y
        return ([] : Items))
      (do
        Action.ensureTarget focus
        placeByCoordinates rule focus area allocate column row (box.renumber v.offset) x y
        return ([] : Items)) :=
    (Action.steady_ensureTarget focus).bind fun _ =>
      (indifferent_placeByCoordinates rule focus area allocate column row box x y).bind
        fun _ => .pure rfl
  cases name with
  | some name => exact (indifferent_groupBox rule name).bind hplace
  | none =>
    exact (hc rule focus).bind fun items => (indifferent_singleBox rule items).bind hplace

theorem renumbered_nextRow (children : Children) : Renumbered v (nextRow children rule focus) := by
  have hleave (grid : Grid Float) (moved : Bool) : Renumbered v (do
      Action.setTargetGrid grid
      if !moved && !(← Action.layout).inGroup then Action.finishPage
      return ([] : Items)) := by
    refine (Action.steady_setTargetGrid grid).bind fun _ =>
      Action.indifferent_layout.bind fun l => ?_
    rw [Layout.inGroup_vary]
    exact .ite (Action.steady_finishPage.bind
      fun _ => .pure rfl) (.pure rfl)
  refine (steady_textOr rule _ focus _).bind fun area =>
    (steady_cells? rule _ focus).bind fun rows => (Action.steady_ensureTarget focus).bind fun _ =>
      (Action.steady_targetGrid rule).bind fun grid => (Action.steady_ofExcept _ _).bind fun found => ?_
  obtain ⟨next, moved⟩ := found
  dsimp only
  split
  · exact hleave next true
  · exact (Action.steady_ofExcept _ _).bind fun advanced => hleave advanced.1 advanced.2

end Command

/-! ### Rules -/

open PageGrid.Action (Renumbered)

theorem CommandName.renumbered_run {children : Command.Children}
    (hc : ∀ rule focus, Renumbered v (children rule focus)) (command : CommandName) (rule : Rule)
    (focus : Focus) : Renumbered v (command.run children rule focus) := by
  cases command with
  | recordRule => exact Command.renumbered_recordRule rule focus children
  | processNode => exact Command.renumbered_processNode hc rule focus
  | pageType => exact Command.renumbered_declarePageType rule focus children
  | value => exact Command.renumbered_value hc rule focus
  | copyOf => exact Command.renumbered_copyOf rule focus children
  | paragraph => exact Command.renumbered_paragraph hc rule focus
  | textblock => exact Command.renumbered_textblock hc rule focus
  | image => exact Command.renumbered_image rule focus children
  | box => exact Command.renumbered_filledBox rule focus children
  | message => exact Command.renumbered_message hc rule focus
  | placeObject => exact Command.renumbered_placeObject hc rule focus
  | newPage => exact Command.renumbered_newPage rule focus children
  | nextRow => exact Command.renumbered_nextRow rule focus children
  | setGrid => exact Command.renumbered_setGrid rule focus children
  | group => exact Command.renumbered_group hc rule focus
  | contents => exact hc rule focus
  | mark => exact Command.renumbered_mark rule focus children
  | setVariable => exact Command.renumbered_setVariable hc rule focus
  | forAll => exact Command.renumbered_forAll hc rule focus
  | loop => exact Command.renumbered_loop hc rule focus
  | choose => exact Command.renumbered_firstBranch hc focus rule.elements

namespace Interpreter

theorem renumbered_executeAll {apply : Rule → Focus → Action Items}
    (h : ∀ rule focus, Renumbered v (apply rule focus)) (focus : Focus) (rules : List Rule) :
    Renumbered v (executeAll apply focus rules) := by
  induction rules with
  | nil => exact .pure rfl
  | cons rule rest ih =>
    exact (h rule focus).bind fun items => ih.bind fun others =>
      .pure (Items.renumber_append v.offset items others)

/-- **Applying a rule** is indifferent to another beginning, whatever rules are below it. -/
theorem renumbered_execute (depth : Nat) (rule : Rule) (focus : Focus) :
    Renumbered v (execute depth rule focus) := by
  induction depth generalizing rule focus with
  | zero => exact Action.Indifferent.reporting (.refuse _ _) _
  | succ depth ih =>
    rw [execute]
    have hc (rule : Rule) (focus : Focus) : Renumbered v (executeChildren depth rule focus) :=
      renumbered_executeAll ih focus rule.elements
    refine .ite ((Action.steady_warn _).bind fun _ => .pure rfl) ?_
    cases CommandName.ofName? rule.name with
    | none => exact (Action.steady_warn _).bind fun _ => .pure rfl
    | some command => exact Action.Indifferent.reporting (command.renumbered_run hc rule focus) _

end Interpreter

end PageGrid
