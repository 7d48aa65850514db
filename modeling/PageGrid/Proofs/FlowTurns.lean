import PageGrid.Proofs.Grid.Search
import PageGrid.Proofs.UntouchedPage

/-!
# Turns of the search for a place

The search for the place of an object takes one frame at a turn. After a frame without room it goes on with
the next frame; after the last one it gives up, or hands the page out and goes on with a new page, from which
it does not go on to a third. There is nothing that counts the turns: on the old page the frames run out, and
that the page is a new one is known from one turn to the next. Which areas a new page has is known only when
it is there, since its type depends on tests, and these can fail.

`Turns` repeats `turn` with no bound on the number of turns, so that it is a statement that they come to an
end. `flow_turns_bounded` says that they do, with the outcome of `flowPosition`, and how many there are: no
more than the frames that are left on the old page and those of the new one. It also says that one page at
most is handed out and one at most is opened, and none while a group is open.

## Main definitions

* `Command.turn` — one turn;
* `Command.Turns` — the turns up to the end of the search, and how many of them are completed;
* `Layout.framesLeft`, `Layout.framesOpened` — the frames of the old page and of the new one.

## Main results

* `turns_of_flow` — the turns on one page are the search through its frames;
* `Turns.unique` — there is one way for the search to go;
* `flow_turns_bounded` — the search ends, with bounds on its turns and pages.
-/

namespace PageGrid

namespace Layout

/-- The area of a name on the grid that content goes to. -/
def targetArea? (l : Layout) (name : String) : Option Area := l.targetGrid?.bind (·.area? name)

/-- The number of frames of an area from the active one on. -/
def framesLeft (l : Layout) (name : String) : Nat :=
  (l.targetArea? name).elim 0 fun a => a.later.length + 1

/-- The number of frames of an area. -/
def frameCount (l : Layout) (name : String) : Nat := (l.targetArea? name).elim 0 (·.frames.length)

/-- The number of frames of an area on the page that has been opened between two layouts, if one has. -/
def framesOpened (l l' : Layout) (name : String) : Nat :=
  if l'.pageCount = l.pageCount then 0 else l'.frameCount name

variable {l : Layout} {g : Grid Float} {name : String}

theorem targetArea?_of_targetGrid? (hg : l.targetGrid? = some g) : l.targetArea? name = g.area? name := by
  rw [targetArea?, hg]
  rfl

theorem framesLeft_le_frameCount (l : Layout) (name : String) : l.framesLeft name ≤ l.frameCount name := by
  rw [framesLeft, frameCount]
  cases l.targetArea? name with
  | none => exact Nat.le_refl 0
  | some a => simp [Area.frames]

theorem exists_targetGrid? (h : l.hasTarget = true) : ∃ g, l.targetGrid? = some g := by
  cases ho : l.openGroups with
  | nil =>
    obtain ⟨page, hp⟩ := Option.isSome_iff_exists.mp (by simpa [hasTarget, inGroup, ho] using h)
    exact ⟨page.grid, targetGrid?_of_page ho hp⟩
  | cons group outer => exact ⟨group.grid, by rw [targetGrid?, ho]⟩

end Layout

namespace Command

variable {setting : Setting} {rule : Rule} {focus : Focus} {s t : Session} {area : String}
  {columns rows : Nat} {freshPage : Bool} {g g' : Grid Float}

/-! ### One turn -/

/-- How a turn ends: with a place, or so that the search goes on, on a page that is new or not. -/
inductive Turn where
  | found (place : Nat × Nat)
  | goOn (freshPage : Bool)
  deriving DecidableEq, Repr

/-- The end of a turn in the last frame: the object overflows, or the page is handed out. -/
def leave (rule : Rule) (focus : Focus) (area : String) (columns rows : Nat) (freshPage : Bool) :
    Action Turn := do
  let grid ← Action.targetGrid rule
  let atStart ← Action.ofExcept .grid (grid.atFlowStart area)
  if (← Action.layout).inGroup || freshPage || atStart then
    return .found (← overflow rule area columns rows)
  else
    Action.finishPage
    Action.ensureTarget focus
    return .goOn true

/-- One turn: the search in the active frame, and the way on if there is no room. -/
def turn (rule : Rule) (focus : Focus) (area : String) (columns rows : Nat) (freshPage : Bool) :
    Action Turn := do
  let grid ← Action.targetGrid rule
  let (grid, place) ← Action.ofExcept .grid (grid.flowInFrame columns rows area)
  Action.setTargetGrid grid
  match place with
  | some place => return .found place
  | none =>
    let (grid, advanced) ← Action.ofExcept .grid (grid.advanceFrame area)
    Action.setTargetGrid grid
    if advanced then return .goOn freshPage else leave rule focus area columns rows freshPage

/-- The session with another grid for the content. -/
def onGrid (s : Session) (g : Grid Float) : Session := { s with layout := s.layout.setTargetGrid g }

theorem onGrid_onGrid (s : Session) (g g' : Grid Float) : onGrid (onGrid s g) g' = onGrid s g' := by
  simp [onGrid, Layout.setTargetGrid_setTargetGrid]

theorem targetGrid?_onGrid (g' : Grid Float) (hg : s.layout.targetGrid? = some g) :
    (onGrid s g').layout.targetGrid? = some g' :=
  Layout.targetGrid?_setTargetGrid g' hg

theorem runWith_setTargetGrid (g : Grid Float) :
    (Action.setTargetGrid g).runWith setting s = (.ok (), onGrid s g) := rfl

/-- There is room in the frame. -/
theorem turn_eq_found {place : Nat × Nat} (hg : s.layout.targetGrid? = some g)
    (h : g.flowInFrame columns rows area = .ok (g', some place)) :
    (turn rule focus area columns rows freshPage).runWith setting s =
      (.ok (.found place), onGrid s g') := by
  rw [turn, Action.runWith_bind_of_ok (Action.runWith_targetGrid_eq_ok.mpr ⟨hg, rfl⟩),
    Action.runWith_bind_of_ok (Action.runWith_ofExcept_eq_ok.mpr ⟨h, rfl⟩)]
  rfl

/-- There is none, but there is another frame. -/
theorem turn_eq_goOn {g₁ : Grid Float} (hg : s.layout.targetGrid? = some g)
    (h : g.flowInFrame columns rows area = .ok (g₁, none))
    (hnext : g₁.advanceFrame area = .ok (g', true)) :
    (turn rule focus area columns rows freshPage).runWith setting s =
      (.ok (.goOn freshPage), onGrid s g') := by
  rw [turn, Action.runWith_bind_of_ok (Action.runWith_targetGrid_eq_ok.mpr ⟨hg, rfl⟩),
    Action.runWith_bind_of_ok (Action.runWith_ofExcept_eq_ok.mpr ⟨h, rfl⟩)]
  dsimp only
  rw [Action.runWith_bind_of_ok (runWith_setTargetGrid g₁),
    Action.runWith_bind_of_ok (Action.runWith_ofExcept_eq_ok.mpr ⟨hnext, rfl⟩), ← onGrid_onGrid s g₁ g']
  rfl

/-- There is none, and the frame is the last one. -/
theorem turn_eq_leave (hg : s.layout.targetGrid? = some g)
    (h : g.flowInFrame columns rows area = .ok (g', none))
    (hnext : g'.advanceFrame area = .ok (g', false)) :
    (turn rule focus area columns rows freshPage).runWith setting s =
      (leave rule focus area columns rows freshPage).runWith setting (onGrid s g') := by
  rw [turn, Action.runWith_bind_of_ok (Action.runWith_targetGrid_eq_ok.mpr ⟨hg, rfl⟩),
    Action.runWith_bind_of_ok (Action.runWith_ofExcept_eq_ok.mpr ⟨h, rfl⟩)]
  dsimp only
  rw [Action.runWith_bind_of_ok (runWith_setTargetGrid g'),
    Action.runWith_bind_of_ok (Action.runWith_ofExcept_eq_ok.mpr ⟨hnext, rfl⟩)]
  change (leave rule focus area columns rows freshPage).runWith setting (onGrid (onGrid s g') g') = _
  rw [onGrid_onGrid]

/-- There is no such area. -/
theorem turn_eq_error (hg : s.layout.targetGrid? = some g) (ha : g.area? area = none) :
    (turn rule focus area columns rows freshPage).runWith setting s =
      (.error (.ofCause (.grid (.unknownArea area))), s) := by
  have h : g.flowInFrame columns rows area = .error (.unknownArea area) := by
    rw [Grid.flowInFrame, Grid.frame, Grid.area, ha]
    rfl
  rw [turn, Action.runWith_bind_of_ok (Action.runWith_targetGrid_eq_ok.mpr ⟨hg, rfl⟩), h]
  rfl

/-! ### Turns up to the end -/

/-- The turns that follow one that has ended in some way, with their number and the outcome. The number is
that of the turns that are completed, the first one included: a turn that a fault stops is not. -/
inductive Turns (rule : Rule) (focus : Focus) (area : String) (columns rows : Nat) (setting : Setting) :
    Except Fault Turn × Session → Nat → Except Fault (Nat × Nat) × Session → Prop
  | stopped {e : Fault} {t : Session} :
      Turns rule focus area columns rows setting (.error e, t) 0 (.error e, t)
  | found {place : Nat × Nat} {t : Session} :
      Turns rule focus area columns rows setting (.ok (.found place), t) 1 (.ok place, t)
  | goOn {freshPage : Bool} {t : Session} {n : Nat} {outcome : Except Fault (Nat × Nat) × Session} :
      Turns rule focus area columns rows setting
        ((turn rule focus area columns rows freshPage).runWith setting t) n outcome →
      Turns rule focus area columns rows setting (.ok (.goOn freshPage), t) (n + 1) outcome

/-- **There is one way for the search to go.** -/
theorem Turns.unique {first : Except Fault Turn × Session} {n m : Nat}
    {outcome outcome' : Except Fault (Nat × Nat) × Session}
    (h : Turns rule focus area columns rows setting first n outcome)
    (h' : Turns rule focus area columns rows setting first m outcome') : m = n ∧ outcome' = outcome := by
  induction h generalizing m with
  | stopped =>
    cases h'
    exact ⟨rfl, rfl⟩
  | found =>
    cases h'
    exact ⟨rfl, rfl⟩
  | goOn _ ih =>
    cases h' with
    | goOn h' =>
      obtain ⟨rfl, rfl⟩ := ih h'
      exact ⟨rfl, rfl⟩

/-- **Turns on one page.** Where the search through the frames of the area gives a place, the turns end with
it. Where it gives none, they come to the end of the turn in the last frame. -/
theorem turns_of_flowThrough {a : Area} {fuel : Nat} {place : Option (Nat × Nat)}
    (hg : s.layout.targetGrid? = some g) (ha : g.area? area = some a) (hl : a.later.length = fuel)
    (h : Grid.flowThrough columns rows area fuel g = .ok (g', place)) :
    (∀ p, place = some p → ∃ n, n ≤ fuel + 1 ∧ Turns rule focus area columns rows setting
      ((turn rule focus area columns rows freshPage).runWith setting s) n (.ok p, onGrid s g')) ∧
    (place = none → ∀ n outcome, Turns rule focus area columns rows setting
        ((leave rule focus area columns rows freshPage).runWith setting (onGrid s g')) n outcome →
      Turns rule focus area columns rows setting
        ((turn rule focus area columns rows freshPage).runWith setting s) (fuel + n) outcome) := by
  induction fuel generalizing s g a with
  | zero =>
    cases place with
    | some p =>
      refine ⟨fun _ hp => ?_, nofun⟩
      cases hp
      rw [turn_eq_found hg h]
      exact ⟨1, Nat.le_refl 1, .found⟩
    | none =>
      refine ⟨nofun, fun _ n outcome hturns => ?_⟩
      obtain ⟨b, hb, -, hlater⟩ := (Grid.flowInFrame_eq_ok h).1.area? ha
      have hnext : g'.advanceFrame area = .ok (g', false) := by
        rw [Grid.advanceFrame, Grid.area_eq_ok.mpr hb, Except.map,
          Area.advance?_eq_none.mpr (hlater ▸ List.length_eq_zero_iff.mp hl)]
      rw [turn_eq_leave hg h hnext, Nat.zero_add]
      exact hturns
  | succ fuel ih =>
    obtain ⟨⟨g₁, found⟩, hfirst, h⟩ := bind_eq_ok.mp h
    cases found with
    | some p =>
      cases h
      refine ⟨fun _ hp => ?_, nofun⟩
      cases hp
      rw [turn_eq_found hg hfirst]
      exact ⟨1, by omega, .found⟩
    | none =>
      obtain ⟨b, hb, -, hlater⟩ := (Grid.flowInFrame_eq_ok hfirst).1.area? ha
      obtain ⟨⟨g₂, advanced⟩, hnext, h⟩ := bind_eq_ok.mp h
      cases advanced with
      | false =>
        obtain ⟨b', hb', ⟨hnone, -⟩ | ⟨_, -, htrue, -⟩⟩ := Grid.advanceFrame_eq_ok hnext
        · obtain rfl := Option.some.inj (hb.symm.trans hb')
          rw [← hlater, Area.advance?_eq_none.mp hnone] at hl
          cases hl
        · cases htrue
      | true =>
        obtain ⟨c, hc, -, hless⟩ := Grid.area?_of_advanceFrame hb hnext
        obtain ⟨hsome, hnone⟩ := ih (targetGrid?_onGrid g₂ hg) hc (by rw [hlater] at hless; omega) h
        rw [turn_eq_goOn hg hfirst hnext]
        rw [onGrid_onGrid] at hsome hnone
        refine ⟨fun p hp => ?_, fun hp n outcome hturns => ?_⟩
        · obtain ⟨n, hn, hturns⟩ := hsome p hp
          exact ⟨n + 1, by omega, .goOn hturns⟩
        · rw [Nat.add_right_comm]
          exact .goOn (hnone hp n outcome hturns)

theorem turns_of_flow {a : Area} {place : Option (Nat × Nat)} (hg : s.layout.targetGrid? = some g)
    (ha : g.area? area = some a) (h : g.flow columns rows area = .ok (g', place)) :
    (∀ p, place = some p → ∃ n, n ≤ a.later.length + 1 ∧ Turns rule focus area columns rows setting
      ((turn rule focus area columns rows freshPage).runWith setting s) n (.ok p, onGrid s g')) ∧
    (place = none → ∀ n outcome, Turns rule focus area columns rows setting
        ((leave rule focus area columns rows freshPage).runWith setting (onGrid s g')) n outcome →
      Turns rule focus area columns rows setting
        ((turn rule focus area columns rows freshPage).runWith setting s) (a.later.length + n) outcome) := by
  obtain ⟨a', ha', h⟩ := bind_eq_ok.mp h
  obtain rfl := Option.some.inj (ha.symm.trans (Grid.area_eq_ok.mp ha'))
  exact turns_of_flowThrough hg ha rfl h

/-! ### The end of the turn in the last frame -/

/-- There is a place to overflow from in an area that there is. -/
theorem exists_overflow {a : Area} (hg : s.layout.targetGrid? = some g) (ha : g.area? area = some a) :
    ∃ place t, (overflow rule area columns rows).runWith setting s = (.ok place, t) ∧
      t.layout = s.layout := by
  have hcursor : g.cursor area = .ok (a.active.cursorColumn, a.active.cursorRow) := by
    rw [Grid.cursor, Grid.frame_eq_ok.mpr ⟨a, ha, rfl⟩]
    rfl
  rw [overflow, Action.runWith_bind_of_ok (Action.runWith_targetGrid_eq_ok.mpr ⟨hg, rfl⟩),
    Action.runWith_bind_of_ok (Action.runWith_ofExcept_eq_ok.mpr ⟨hcursor, rfl⟩)]
  exact ⟨_, _, rfl, rfl⟩

theorem leave_eq_found (focus : Focus) {place : Nat × Nat} {atStart : Bool}
    (hg : s.layout.targetGrid? = some g) (hstart : g.atFlowStart area = .ok atStart)
    (hover : (s.layout.inGroup || freshPage || atStart) = true)
    (h : (overflow rule area columns rows).runWith setting s = (.ok place, t)) :
    (leave rule focus area columns rows freshPage).runWith setting s = (.ok (.found place), t) := by
  rw [leave, Action.runWith_bind_of_ok (Action.runWith_targetGrid_eq_ok.mpr ⟨hg, rfl⟩),
    Action.runWith_bind_of_ok (Action.runWith_ofExcept_eq_ok.mpr ⟨hstart, rfl⟩), Action.layout_bind,
    if_pos hover, Action.runWith_bind_of_ok h]
  rfl

theorem leave_eq_goOn (rule : Rule) (focus : Focus) {atStart : Bool} (hg : s.layout.targetGrid? = some g)
    (hstart : g.atFlowStart area = .ok atStart)
    (hover : (s.layout.inGroup || freshPage || atStart) = false) :
    (leave rule focus area columns rows freshPage).runWith setting s =
      (Action.finishPage >>= fun _ => Action.ensureTarget focus >>= fun _ =>
        pure (.goOn true)).runWith setting s := by
  rw [leave, Action.runWith_bind_of_ok (Action.runWith_targetGrid_eq_ok.mpr ⟨hg, rfl⟩),
    Action.runWith_bind_of_ok (Action.runWith_ofExcept_eq_ok.mpr ⟨hstart, rfl⟩), Action.layout_bind,
    if_neg (by simp [hover])]

/-- Where the page is handed out, the turns go on from a new page. -/
theorem turns_of_goOn {a : Area} {atStart : Bool} {n : Nat}
    {outcome : Except Fault (Nat × Nat) × Session} (hg : s.layout.targetGrid? = some g)
    (ha : g.area? area = some a) (h : g.flow columns rows area = .ok (g', none))
    (hstart : g'.atFlowStart area = .ok atStart)
    (hover : (s.layout.inGroup || freshPage || atStart) = false)
    (hturns : Turns rule focus area columns rows setting
      ((Action.finishPage >>= fun _ => Action.ensureTarget focus >>= fun _ =>
        pure (.goOn true)).runWith setting (onGrid s g')) n outcome) :
    Turns rule focus area columns rows setting
      ((turn rule focus area columns rows freshPage).runWith setting s) (a.later.length + n) outcome := by
  refine (turns_of_flow hg ha h).2 rfl n outcome ?_
  rw [leave_eq_goOn rule focus (targetGrid?_onGrid g' hg) hstart (by simpa [onGrid] using hover)]
  exact hturns

/-! ### The search as a whole -/

/-- The search on a page from which it does not go on to another one. -/
def lastSearch (rule : Rule) (area : String) (columns rows : Nat) : Action (Nat × Nat) := do
  match ← flowOnTarget rule area columns rows with
  | some place => return place
  | none => overflow rule area columns rows

theorem flowOnTarget_of_flow {place : Option (Nat × Nat)} (hg : s.layout.targetGrid? = some g)
    (h : g.flow columns rows area = .ok (g', place)) :
    (flowOnTarget rule area columns rows).runWith setting s = (.ok place, onGrid s g') :=
  flowOnTarget_eq_ok.mpr ⟨g, g', hg, h, rfl⟩

theorem flowOnTarget_eq_error (hg : s.layout.targetGrid? = some g) (ha : g.area? area = none) :
    (flowOnTarget rule area columns rows).runWith setting s =
      (.error (.ofCause (.grid (.unknownArea area))), s) := by
  rw [flowOnTarget, Action.runWith_bind_of_ok (Action.runWith_targetGrid_eq_ok.mpr ⟨hg, rfl⟩), Grid.flow,
    Grid.area, ha]
  rfl

theorem flowPosition_of_some {place : Nat × Nat} (hg : s.layout.targetGrid? = some g)
    (h : g.flow columns rows area = .ok (g', some place)) :
    (flowPosition rule focus area columns rows).runWith setting s = (.ok place, onGrid s g') := by
  rw [flowPosition, flowPlace?, bind_assoc, Action.runWith_bind_of_ok (flowOnTarget_of_flow hg h)]
  rfl

theorem flowPosition_of_none {atStart : Bool} (hg : s.layout.targetGrid? = some g)
    (h : g.flow columns rows area = .ok (g', none)) (hstart : g'.atFlowStart area = .ok atStart) :
    (flowPosition rule focus area columns rows).runWith setting s =
      if s.layout.inGroup || atStart then (overflow rule area columns rows).runWith setting (onGrid s g')
      else (Action.finishPage >>= fun _ => Action.ensureTarget focus >>= fun _ =>
        lastSearch rule area columns rows).runWith setting (onGrid s g') := by
  rw [flowPosition, flowPlace?, bind_assoc, Action.runWith_bind_of_ok (flowOnTarget_of_flow hg h)]
  dsimp only
  rw [bind_assoc, Action.runWith_bind_of_ok
    (Action.runWith_targetGrid_eq_ok.mpr ⟨targetGrid?_onGrid g' hg, rfl⟩), bind_assoc,
    Action.runWith_bind_of_ok (Action.runWith_ofExcept_eq_ok.mpr ⟨hstart, rfl⟩), bind_assoc,
    Action.layout_bind]
  simp only [onGrid, Layout.inGroup_setTargetGrid]
  split
  · rfl
  · simp only [bind_assoc]
    rfl

/-! ### Where the search ends on the page -/

/-- The search ends on the page where it begins: no page is handed out and none is opened, and there are no
more turns than frames that are left. A turn that is stopped is one of them, unless it is stopped for want of
the area. -/
structure EndsHere (area : String) (s : Session) (n : Nat) (outcome : Except Fault (Nat × Nat) × Session) :
    Prop where
  finished : outcome.2.layout.finished = s.layout.finished
  pageCount : outcome.2.layout.pageCount = s.layout.pageCount
  frameCount : outcome.2.layout.frameCount area = s.layout.frameCount area
  turns : n ≤ s.layout.framesLeft area
  stopped : ∀ e, outcome.1 = .error e →
    e = .ofCause (.grid (.unknownArea area)) ∨ n < s.layout.framesLeft area

theorem endsHere_of_missing :
    EndsHere area s 0 (.error (.ofCause (.grid (.unknownArea area))), s) := by
  refine ⟨rfl, rfl, rfl, Nat.zero_le _, fun e he => .inl ?_⟩
  cases he
  rfl

theorem frameCount_onGrid (hg : s.layout.targetGrid? = some g) (h : Grid.FlowMoved g g') :
    (onGrid s g').layout.frameCount area = s.layout.frameCount area := by
  have hlength (a b : Area) (h : a.specs = b.specs) : a.frames.length = b.frames.length := by
    simpa [Area.specs] using congrArg List.length h
  have hspecs := h.specs area
  rw [Layout.frameCount, Layout.frameCount, Layout.targetArea?_of_targetGrid? hg,
    Layout.targetArea?_of_targetGrid? (targetGrid?_onGrid g' hg)]
  cases ha : g.area? area <;> cases ha' : g'.area? area <;> simp [ha, ha'] at hspecs ⊢
  exact hlength _ _ hspecs

theorem endsHere_of_flow {a : Area} {place : Option (Nat × Nat)} {p : Nat × Nat} {n : Nat}
    (hg : s.layout.targetGrid? = some g) (ha : g.area? area = some a)
    (h : g.flow columns rows area = .ok (g', place)) (ht : t.layout = (onGrid s g').layout)
    (hn : n ≤ a.later.length + 1) : EndsHere area s n (.ok p, t) := by
  refine ⟨?_, ?_, ?_, ?_, nofun⟩
  · rw [ht]
    exact Layout.finished_setTargetGrid g'
  · rw [ht]
    exact Layout.pageCount_setTargetGrid g'
  · rw [ht]
    exact frameCount_onGrid hg (Grid.flow_eq_ok h).1
  · rw [Layout.framesLeft, Layout.targetArea?_of_targetGrid? hg, ha]
    exact hn

/-- Where the flow gives no place and the search does not go on to another page, the turns end with that in
the last frame. -/
theorem exists_turns_overflow (rule : Rule) (focus : Focus) {a : Area} {atStart : Bool}
    (hg : s.layout.targetGrid? = some g) (ha : g.area? area = some a)
    (h : g.flow columns rows area = .ok (g', none)) (hstart : g'.atFlowStart area = .ok atStart)
    (hover : (s.layout.inGroup || freshPage || atStart) = true) :
    ∃ n, Turns rule focus area columns rows setting
        ((turn rule focus area columns rows freshPage).runWith setting s) n
        ((overflow rule area columns rows).runWith setting (onGrid s g')) ∧
      EndsHere area s n ((overflow rule area columns rows).runWith setting (onGrid s g')) := by
  have hg' := targetGrid?_onGrid g' hg
  obtain ⟨b, hb, -⟩ := Grid.atFlowStart_eq_ok.mp hstart
  obtain ⟨place, t, hplace, ht⟩ := exists_overflow hg' hb
  rw [hplace]
  refine ⟨a.later.length + 1, (turns_of_flow hg ha h).2 rfl 1 _ ?_,
    endsHere_of_flow hg ha h ht (Nat.le_refl _)⟩
  rw [leave_eq_found focus hg' hstart (by simpa [onGrid] using hover) hplace]
  exact .found

theorem exists_atFlowStart (h : g.flow columns rows area = .ok (g', none)) :
    ∃ atStart, g'.atFlowStart area = .ok atStart := by
  obtain ⟨b, hb, -⟩ := Grid.later_of_flow h
  exact ⟨b.atStart, Grid.atFlowStart_eq_ok.mpr ⟨b, hb, rfl⟩⟩

/-- On a new page the search comes to an end. -/
theorem exists_turns_lastSearch (setting : Setting) (rule : Rule) (focus : Focus) (area : String)
    (columns rows : Nat) (hs : s.layout.hasTarget = true) :
    ∃ n, Turns rule focus area columns rows setting
        ((turn rule focus area columns rows true).runWith setting s) n
        ((lastSearch rule area columns rows).runWith setting s) ∧
      EndsHere area s n ((lastSearch rule area columns rows).runWith setting s) := by
  obtain ⟨g, hg⟩ := Layout.exists_targetGrid? hs
  cases ha : g.area? area with
  | none =>
    rw [lastSearch, Action.runWith_bind, flowOnTarget_eq_error hg ha, turn_eq_error hg ha]
    exact ⟨0, .stopped, endsHere_of_missing⟩
  | some a =>
    obtain ⟨⟨g', place⟩, hflow⟩ := Grid.exists_flow ha columns rows
    rw [lastSearch, Action.runWith_bind_of_ok (flowOnTarget_of_flow hg hflow)]
    cases place with
    | some place =>
      obtain ⟨n, hn, hturns⟩ := (turns_of_flow hg ha hflow).1 place rfl
      exact ⟨n, hturns, endsHere_of_flow hg ha hflow rfl hn⟩
    | none =>
      obtain ⟨atStart, hstart⟩ := exists_atFlowStart hflow
      exact exists_turns_overflow rule focus hg ha hflow hstart (by simp)

/-- From a page the search comes to an end there, or it has gone through the frames of the area, and the page
is handed out. -/
theorem exists_turns_flowPosition (setting : Setting) (rule : Rule) (focus : Focus) (area : String)
    (columns rows : Nat) (hs : s.layout.hasTarget = true) :
    (∃ n, Turns rule focus area columns rows setting
        ((turn rule focus area columns rows false).runWith setting s) n
        ((flowPosition rule focus area columns rows).runWith setting s) ∧
      EndsHere area s n ((flowPosition rule focus area columns rows).runWith setting s)) ∨
    ∃ page a g', s.layout.inGroup = false ∧ s.layout.page = some page ∧ page.grid.area? area = some a ∧
      page.grid.flow columns rows area = .ok (g', none) ∧ g'.atFlowStart area = .ok false := by
  obtain ⟨g, hg⟩ := Layout.exists_targetGrid? hs
  cases ha : g.area? area with
  | none =>
    rw [flowPosition, flowPlace?, bind_assoc, Action.runWith_bind, flowOnTarget_eq_error hg ha,
      turn_eq_error hg ha]
    exact .inl ⟨0, .stopped, endsHere_of_missing⟩
  | some a =>
    obtain ⟨⟨g', place⟩, hflow⟩ := Grid.exists_flow ha columns rows
    cases place with
    | some place =>
      obtain ⟨n, hn, hturns⟩ := (turns_of_flow hg ha hflow).1 place rfl
      rw [flowPosition_of_some hg hflow]
      exact .inl ⟨n, hturns, endsHere_of_flow hg ha hflow rfl hn⟩
    | none =>
      obtain ⟨atStart, hstart⟩ := exists_atFlowStart hflow
      cases hover : s.layout.inGroup || atStart with
      | true =>
        rw [flowPosition_of_none hg hflow hstart, if_pos hover]
        exact .inl (exists_turns_overflow rule focus hg ha hflow hstart (by simpa using hover))
      | false =>
        obtain ⟨hgroup, rfl⟩ := Bool.or_eq_false_iff.mp hover
        obtain ⟨page, hp, rfl⟩ := Layout.page_of_targetGrid? (Layout.inGroup_eq_false.mp hgroup) hg
        exact .inr ⟨page, a, g', hgroup, hp, ha, hflow, hstart⟩

/-! ### Where the search goes on to a new page -/

/-- The bounds of a search with `n` completed turns and an outcome, on the layout where it begins. There are
no more turns than frames left on the old page and frames on the new one. If a fault stops a turn then that
turn is within the bound too, unless it has no frame to search in because the page has no such area. Either no
page is taken by the sink and none is opened, or, outside groups, the open page is taken, and then one page is
opened at most. -/
structure SearchBounds (area : String) (l : Layout) (n : Nat)
    (outcome : Except Fault (Nat × Nat) × Session) : Prop where
  turns : n ≤ l.framesLeft area + l.framesOpened outcome.2.layout area
  stopped : ∀ e, outcome.1 = .error e → e = .ofCause (.grid (.unknownArea area)) ∨
    n < l.framesLeft area + l.framesOpened outcome.2.layout area
  pages : outcome.2.layout.finished = l.finished ∧ outcome.2.layout.pageCount = l.pageCount ∨
    l.inGroup = false ∧ ∃ page, l.page = some page ∧
      outcome.2.layout.finished = l.finished ++ [page.finish] ∧
      (outcome.2.layout.pageCount = l.pageCount ∨ outcome.2.layout.pageCount = l.pageCount + 1)

theorem EndsHere.searchBounds {n : Nat} {outcome : Except Fault (Nat × Nat) × Session}
    (h : EndsHere area s n outcome) : SearchBounds area s.layout n outcome := by
  have hopened : s.layout.framesOpened outcome.2.layout area = 0 := if_pos h.pageCount
  refine ⟨Nat.le_trans h.turns (Nat.le_add_right _ _), fun e he => ?_, .inl ⟨h.finished, h.pageCount⟩⟩
  rw [hopened, Nat.add_zero]
  exact h.stopped e he

/-- What happens on a page that has been opened since then. -/
theorem EndsHere.searchBounds_of_opened {l : Layout} {page : Page Float} {m n : Nat}
    {outcome : Except Fault (Nat × Nat) × Session} (h : EndsHere area t m outcome)
    (hgroup : l.inGroup = false) (hp : l.page = some page)
    (hfinished : t.layout.finished = l.finished ++ [page.finish])
    (hcount : t.layout.pageCount = l.pageCount + 1) (hn : n ≤ l.framesLeft area + m) :
    SearchBounds area l n outcome := by
  have hopened : l.framesOpened outcome.2.layout area = t.layout.frameCount area := by
    rw [Layout.framesOpened, if_neg (by rw [h.pageCount]; omega), h.frameCount]
  have hle := t.layout.framesLeft_le_frameCount area
  have hturns := h.turns
  refine ⟨by omega, fun e he => ?_, .inr ⟨hgroup, page, hp, h.finished.trans hfinished,
    .inr (h.pageCount.trans hcount)⟩⟩
  exact (h.stopped e he).imp_right fun hlt => by omega

/-- Once the page is handed out, the turns end with the search on the new page, or there is no new page. -/
theorem exists_turns_newPage (setting : Setting) (rule : Rule) (focus : Focus) {page : Page Float}
    (hgroup : s.layout.inGroup = false) (hp : s.layout.page = some page)
    (ht : t.layout =
      { s.layout with page := none, finished := s.layout.finished ++ [page.finish] }) :
    ∃ m, Turns rule focus area columns rows setting
        ((Action.ensureTarget focus >>= fun _ => pure (.goOn true)).runWith setting t) m
        ((Action.ensureTarget focus >>= fun _ => lastSearch rule area columns rows).runWith setting t) ∧
      ∀ n < s.layout.framesLeft area, SearchBounds area s.layout (n + m)
        ((Action.ensureTarget focus >>= fun _ => lastSearch rule area columns rows).runWith setting t) := by
  have hnone : t.layout.hasTarget = false := by
    rw [ht]
    exact Layout.hasTarget_eq_false.mpr ⟨Layout.inGroup_eq_false.mp hgroup, rfl⟩
  rw [Action.runWith_bind, Action.runWith_bind]
  have hexit := Action.ensureTarget_exit focus setting t
  generalize (Action.ensureTarget focus).runWith setting t = x at hexit ⊢
  obtain ⟨r, u⟩ := x
  cases hexit with
  | present htarget => exact absurd htarget (Bool.eq_false_iff.mp hnone)
  | opened _ _ hopen hu =>
    obtain ⟨new, -, rfl⟩ := Layout.openPage_eq_ok.mp hopen
    have hu := hu.logged.layout_eq
    simp only [ht] at hu
    have htarget : u.layout.hasTarget = true := by simp [hu, Layout.hasTarget]
    obtain ⟨m, hm, hends⟩ := exists_turns_lastSearch setting rule focus area columns rows htarget
    refine ⟨m + 1, .goOn hm, fun n hn => hends.searchBounds_of_opened hgroup hp ?_ ?_ (by omega)⟩
    · rw [hu]
    · rw [hu]
  | failed _ _ hu =>
    have hu : u.layout = t.layout := hu.logged.layout_eq
    rw [ht] at hu
    have hpages : u.layout.finished = s.layout.finished ++ [page.finish] ∧
        u.layout.pageCount = s.layout.pageCount := by
      rw [hu]
      exact ⟨rfl, rfl⟩
    exact ⟨0, .stopped, fun n hn => ⟨by omega, fun _ _ => .inr (by omega),
      .inr ⟨hgroup, page, hp, hpages.1, .inl hpages.2⟩⟩⟩

/-- Where the search comes to the end of the page, the turns end on the new page, or with the page if it is
refused. -/
theorem exists_turns_nextPage (setting : Setting) (rule : Rule) (focus : Focus) {page : Page Float}
    {a : Area} (hgroup : s.layout.inGroup = false) (hp : s.layout.page = some page)
    (ha : page.grid.area? area = some a) (hflow : page.grid.flow columns rows area = .ok (g', none))
    (hstart : g'.atFlowStart area = .ok false) :
    ∃ n, Turns rule focus area columns rows setting
        ((turn rule focus area columns rows false).runWith setting s) n
        ((flowPosition rule focus area columns rows).runWith setting s) ∧
      SearchBounds area s.layout n ((flowPosition rule focus area columns rows).runWith setting s) := by
  have ho := Layout.inGroup_eq_false.mp hgroup
  have hg := Layout.targetGrid?_of_page ho hp
  have hleft : s.layout.framesLeft area = a.later.length + 1 := by
    rw [Layout.framesLeft, Layout.targetArea?_of_targetGrid? hg, ha]
    rfl
  have hturns (n : Nat) (outcome : Except Fault (Nat × Nat) × Session)
      (h : Turns rule focus area columns rows setting
        ((Action.finishPage >>= fun _ => Action.ensureTarget focus >>= fun _ =>
          pure (.goOn true)).runWith setting (onGrid s g')) n outcome) :
      Turns rule focus area columns rows setting
        ((turn rule focus area columns rows false).runWith setting s) (a.later.length + n) outcome :=
    turns_of_goOn hg ha hflow hstart (by simpa using hgroup) h
  rw [flowPosition_of_none hg hflow hstart, if_neg (by simp [hgroup])]
  cases htaken : (onGrid s g').layout.isTaken setting.sink with
  | false =>
    simp only [Action.runWith_bind, Action.runWith_finishPage_of_refused htaken] at hturns ⊢
    exact ⟨_, hturns 0 _ .stopped, by omega, fun _ _ => .inr (by omega),
      .inl ⟨Layout.finished_setTargetGrid g', Layout.pageCount_setTargetGrid g'⟩⟩
  | true =>
    have hfinish := Action.runWith_finishPage_of_taken htaken
    rw [Action.runWith_bind_of_ok hfinish]
    obtain ⟨m, hm, hbounds⟩ := exists_turns_newPage
      (t := { onGrid s g' with layout := (onGrid s g').layout.finishPage }) setting rule focus hgroup hp
      (Layout.finishPage_setTargetGrid ho hp g')
    refine ⟨_, hturns m _ ?_, hbounds _ (by omega)⟩
    rw [Action.runWith_bind_of_ok hfinish]
    exact hm

/-- **The search for a place ends.** While a page or a group is open, and whatever page type comes next and
whatever areas it has, the turns of the search come to an end in one way, which is what `flowPosition` does,
and their number and that of the pages that are handed out and opened are bounded. -/
theorem flow_turns_bounded (setting : Setting) (rule : Rule) (focus : Focus) (area : String)
    (columns rows : Nat) (s : Session) (hs : s.layout.hasTarget = true) :
    let outcome := (flowPosition rule focus area columns rows).runWith setting s
    ∃ n, (∀ m r, Turns rule focus area columns rows setting
          ((turn rule focus area columns rows false).runWith setting s) m r ↔ m = n ∧ r = outcome) ∧
      SearchBounds area s.layout n outcome := by
  intro outcome
  obtain ⟨n, hturns, hbounds⟩ : ∃ n, Turns rule focus area columns rows setting
      ((turn rule focus area columns rows false).runWith setting s) n outcome ∧
        SearchBounds area s.layout n outcome := by
    obtain ⟨n, hturns, hends⟩ | ⟨page, a, g', hgroup, hp, ha, hflow, hstart⟩ :=
      exists_turns_flowPosition setting rule focus area columns rows hs
    · exact ⟨n, hturns, hends.searchBounds⟩
    · exact exists_turns_nextPage setting rule focus hgroup hp ha hflow hstart
  refine ⟨n, fun m r => ⟨hturns.unique, ?_⟩, hbounds⟩
  rintro ⟨rfl, rfl⟩
  exact hturns

/-- The search with an object that is too wide for the two columns of a page, and for those of the next one. -/
def tooWide : Except Fault (Nat × Nat) × Session :=
  (flowPosition (.bare "PlaceObject" [] []) .root "text" 6 1).runWith .bare columnsPage

theorem flow_turns_bounded_columnsPage :
    columnsPage.layout.hasTarget = true ∧
    ∃ n page, Turns (.bare "PlaceObject" [] []) .root "text" 6 1 .bare
        ((turn (.bare "PlaceObject" [] []) .root "text" 6 1 false).runWith .bare columnsPage) n tooWide ∧
      n ≤ 2 + 2 ∧ tooWide.2.layout.finished = columnsPage.layout.finished ++ [page] ∧
      tooWide.2.layout.pageCount = columnsPage.layout.pageCount + 1 := by
  have hs : columnsPage.layout.hasTarget = true := by decide +kernel
  have hframes : columnsPage.layout.framesLeft "text" = 2 ∧
      columnsPage.layout.framesOpened tooWide.2.layout "text" = 2 := by
    decide +kernel
  have hcount : tooWide.2.layout.pageCount = columnsPage.layout.pageCount + 1 := by decide +kernel
  obtain ⟨n, hturns, hbounds⟩ := flow_turns_bounded .bare (.bare "PlaceObject" [] []) .root "text" 6 1
    columnsPage hs
  change SearchBounds "text" columnsPage.layout n tooWide at hbounds
  have hle := hbounds.turns
  rw [hframes.1, hframes.2] at hle
  obtain ⟨-, hkept⟩ | ⟨-, page, -, hfinished, -⟩ := hbounds.pages
  · omega
  · exact ⟨hs, n, page.finish, (hturns n tooWide).mpr ⟨rfl, rfl⟩, hle, hfinished, hcount⟩

end Command

end PageGrid
