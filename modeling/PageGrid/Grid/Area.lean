/-!
# Areas and their frames

An area is a named region of a grid made of one or more frames, and the flow of content moves from
one frame to the next. A frame is a rectangle of cells with a flow cursor. All coordinates of cells
count from one; the cursor is relative to its frame.

## Design

An area is a list of frames with one of them active, kept as the frames before it, the frame itself
and the frames after it. So an area cannot be without frames and always has an active one.

## Main definitions

* `FrameSpec`, `Frame` — a rectangle of cells, without and with its cursor;
* `Area` — a name and the frames, one of them active;
* `Area.advance` — the step to the next frame.
-/

namespace PageGrid

/-- The name of the area that covers the whole grid unless a page type declares it otherwise. -/
def pageArea : String := "_page"

/-- A rectangle of cells. -/
structure FrameSpec where
  column : Nat
  row : Nat
  width : Nat
  height : Nat
  deriving DecidableEq, Repr

/-- A rectangle of cells with a flow cursor, relative to its top left cell. -/
structure Frame extends FrameSpec where
  cursorColumn : Nat := 1
  cursorRow : Nat := 1
  deriving DecidableEq, Repr

namespace Frame

/-- The frame with its cursor at the top left. -/
def ofSpec (spec : FrameSpec) : Frame := { toFrameSpec := spec }

/-- The grid column of a column of the frame. -/
def absoluteColumn (f : Frame) (column : Int) : Int := f.column + column - 1

/-- The grid row of a row of the frame. -/
def absoluteRow (f : Frame) (row : Int) : Int := f.row + row - 1

/-- The frame with its cursor moved. -/
def withCursor (f : Frame) (column row : Nat) : Frame :=
  { f with cursorColumn := column, cursorRow := row }

/-- The frame with its cursor at the top left. -/
def reset (f : Frame) : Frame := f.withCursor 1 1

end Frame

/-- A named region: the frames the flow has left, most recent first, the active frame, and the frames
to come. -/
structure Area where
  name : String
  earlier : List Frame
  active : Frame
  later : List Frame
  deriving DecidableEq, Repr

namespace Area

/-- The area of the given frames with the first one active, if there is one. -/
def ofFrames? (name : String) : List FrameSpec → Option Area
  | [] => none
  | f :: fs => some ⟨name, [], .ofSpec f, fs.map .ofSpec⟩

/-- The area of a single frame. -/
def single (name : String) (frame : FrameSpec) : Area := ⟨name, [], .ofSpec frame, []⟩

/-- All frames in the order of the flow. -/
def frames (a : Area) : List Frame := a.earlier.reverse ++ a.active :: a.later

/-- The place of the active frame among all frames, from zero. -/
def current (a : Area) : Nat := a.earlier.length

/-- Whether the flow has not moved: the first frame is active, with its cursor at the top left. -/
def atStart (a : Area) : Bool :=
  a.current == 0 && a.active.cursorColumn == 1 && a.active.cursorRow == 1

/-- The area with its active frame changed. -/
def updateActive (a : Area) (f : Frame → Frame) : Area := { a with active := f a.active }

/-- The area with the flow in its next frame, at the top left, if there is a next frame. -/
def advance? (a : Area) : Option Area :=
  match a.later with
  | [] => none
  | f :: fs => some { a with earlier := a.active :: a.earlier, active := f.reset, later := fs }

theorem current_lt_length_frames (a : Area) : a.current < a.frames.length := by
  simp [current, frames]

theorem length_frames_of_advance? {a b : Area} (h : a.advance? = some b) :
    b.frames.length = a.frames.length ∧ b.current = a.current + 1 := by
  unfold advance? at h
  split at h
  · cases h
  · next f fs hl =>
    cases h
    simp [frames, current, hl]

end Area

end PageGrid
