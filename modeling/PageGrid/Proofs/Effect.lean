import PageGrid.Proofs.Closed

/-!
# What rules do to a session

Rules apply the rules below them, recorded rules apply rules from elsewhere in the document, and any
of them may stop with a fault in the middle. What all of this can do to a session is still little,
and `Session.Effect` lists it: remarks in the log, assignments, single changes of the layout, and
the two brackets, scopes and groups, which are closed on every way out. A fault comes from an action
that stops, passes all brackets on its way, and may be logged there, once.

`tame_execute` shows that the application of any rule is such an effect. So a property of runs
needs no look at the commands: it follows by induction on the effect, where a bracket is one case
with what happens inside as its hypothesis.

## Main definitions

* `Session.Effect` — what rules can do to a session, and the fault with which they stop;
* `Action.Tame` — an action does to a session what rules can do.

## Main results

* `Effect.reaches` — an effect is made of steps of the layout;
* `tame_ensureTarget` — so is the opening of a page.
-/

namespace PageGrid

namespace Session

variable {reports : Prop} {s t : Session} {fault : Option Fault}

/-- What rules can do to a session, and the fault if they stop. Whether faults may be logged on the
way is a parameter: rules do that, and what a rule does on its own does not. -/
inductive Effect (reports : Prop) : Session → Option Fault → Session → Prop
  | refl (s : Session) : Effect reports s none s
  | stop (s : Session) {cause : FaultCause} :
      s.layout.Explains cause → Effect reports s (some (.ofCause cause)) s
  | trans {s t u : Session} {fault : Option Fault} :
      Effect reports s none t → Effect reports t fault u → Effect reports s fault u
  | log (s : Session) {entries : List LogEntry} : Remarks entries →
      Effect reports s none (s.logging entries)
  | assign (s : Session) (name : String) (v : Value) :
      Effect reports s none { s with scopes := s.scopes.assign name v }
  | change {s : Session} {l : Layout} : s.layout.Change l →
      Effect reports s none { s with layout := l }
  | scope {s t : Session} {fault : Option Fault} (scope : Scope) :
      Effect reports { s with scopes := ⟨scope :: s.scopes.inner, s.scopes.outermost⟩ } fault t →
        Effect reports s fault { t with scopes := t.scopes.pop }
  | group {s t : Session} {fault : Option Fault} {name : String} {l : Layout} :
      s.layout.startGroup name = .ok l → Effect reports { s with layout := l } fault t →
        Effect reports s fault { t with layout := t.layout.endGroup.2 }
  | report {s t : Session} {fault : Fault} (text : String) : reports →
      fault.isReported = false → Effect reports s (some fault) t →
        Effect reports s (some { fault with isReported := true }) (t.logging [.error text])

instance : Sequential (Effect reports) where
  refl := .refl
  stop s _ h := .stop s (Layout.explains h)
  trans := .trans

theorem Remarked.effect (h : Remarked s t) : Effect reports s none t := by
  obtain ⟨entries, hentries, rfl⟩ := h
  exact .log s hentries

theorem Asked.effect (h : Asked s fault t) : Effect reports s fault t := by
  cases fault with
  | none => exact h.remarked.effect
  | some f =>
    obtain ⟨cause, hcause, rfl⟩ := h.fresh f rfl
    exact h.remarked.effect.trans (.stop t (Layout.explains hcause))

/-- An effect is made of steps of the layout. -/
theorem Effect.reaches (h : Effect reports s fault t) : s.layout.Reaches t.layout := by
  induction h with
  | refl | stop | log | assign => exact .refl
  | trans _ _ ih ih' => exact ih.trans ih'
  | change h => exact .single (.change h)
  | scope _ _ ih | report _ _ _ _ ih => exact ih
  | group h _ ih => exact .head (.startGroup h) (ih.tail (.endGroup _))

end Session

namespace Action

open Session (Effect)

variable {α β ε : Type} {reports : Prop} {setting : Setting} {s : Session}

/-- The action does to a session what rules can do. -/
abbrev Tame (reports : Prop) (x : Action α) : Prop := Within (Effect reports) x

theorem Quiet.tame {x : Action α} (h : Quiet x) : Tame reports x := h.mono Session.Asked.effect

theorem Tame.reaches {x : Action α} (h : Tame False x) {r : Except Fault α} {t : Session}
    (hx : x.runWith setting s = (r, t)) : s.layout.Reaches t.layout := by
  have ht := (h setting s).reaches
  rwa [hx] at ht

/-- The effect of the action on one session. -/
abbrev EffectOf (reports : Prop) (x : Action α) (setting : Setting) (s : Session) : Prop :=
  Effect reports s (faultOf (x.runWith setting s).1) (x.runWith setting s).2

end Action

/-! ### Setting the grid -/

theorem Command.tame_setGrid {reports : Prop} (children : Children) (rule : Rule) (focus : Focus) :
    Action.Tame reports (setGrid children rule focus) := by
  refine (Attributes.quiet_length? rule _ focus).tame.bind fun _ =>
    (Attributes.quiet_length? rule _ focus).tame.bind fun _ =>
      (Attributes.quiet_cells? rule _ focus).tame.bind fun _ =>
        (Attributes.quiet_cells? rule _ focus).tame.bind fun _ =>
          (Attributes.quiet_length? rule _ focus).tame.bind fun _ =>
            (Attributes.quiet_length? rule _ focus).tame.bind fun _ =>
              Action.quiet_layout.tame.bind fun _ => ?_
  have hset (settings : GridSettings Float) : Action.Tame reports (do
      Action.modifyLayout fun l => { l with gridSettings := settings }
      return ([] : Items)) :=
    fun _ s => .change (.setGrid s.layout settings)
  dsimp only
  split
  · exact (Action.Within.refuse _ _).bind fun _ => hset _
  · exact hset _

instance {reports : Prop} : Session.Closed (Session.Effect reports) where
  asked := Session.Asked.effect
  explained := .stop _
  assign := .assign
  change h _ := .change h
  setGrid := Command.tame_setGrid
  scope := .scope
  group := .group

instance : Session.Reporting (Session.Effect True) where
  report text := .report text trivial

theorem Action.tame_ensureTarget {reports : Prop} (focus : Focus) :
    Tame reports (ensureTarget focus) :=
  within_ensureTarget focus

/-! ### A small layout

Statements about single runs are about pages of ten columns and ten rows. -/

/-- No data but a root element, and no files. -/
def Setting.bare : Setting :=
  { data := ⟨⟨⟨"data", none, [], 1⟩, []⟩⟩, files := ⟨[], []⟩, searchPaths := [], advance := 0.5
    format := ⟨10, 10⟩ }

/-- The sink that refuses every page. -/
def PageSink.full : PageSink := ⟨fun _ _ => false⟩

/-- The same with pages that are refused. -/
def Setting.refusing : Setting := { Setting.bare with sink := .full }

/-- The focus on the root element. -/
def Focus.root : Focus := .single Xml.Document.rootElement

/-- A layout rule with the given attributes and the rules below it. -/
def Rule.bare (name : String) (attributes : List (String × String)) (children : List Rule) : Rule :=
  ⟨⟨name, some Rule.layoutNamespace, attributes.map fun (name, value) => ⟨name, none, value⟩, 1⟩,
    children.map Xml.Element.toNode⟩

/-- The start of a layout with pages of ten columns and ten rows. -/
def Layout.tenByTen : Layout :=
  .start ⟨120, 120⟩ (.all 10) ⟨⟨10, 0, none⟩, ⟨10, 0, none⟩⟩ (.start none) false 1

/-- A session of this layout with its first page. -/
def Session.firstPage : Session :=
  ((Action.ensureTarget .root).runWith .bare (.start .tenByTen)).2

theorem Layout.reachable_tenByTen : Layout.tenByTen.Reachable := ⟨_, _, _, _, _, _, .refl⟩

theorem Layout.reachable_firstPage : Session.firstPage.layout.Reachable := by
  rw [Session.firstPage]
  have htame : Action.Tame False (Action.ensureTarget .root) := Action.tame_ensureTarget .root
  exact reachable_tenByTen.trans (htame .bare (.start .tenByTen)).reaches

end PageGrid
