import PageGrid.Decimal.Notation
import PageGrid.Geometry
import PageGrid.Grid.Area
import PageGrid.Grid.Occupancy

/-!
# Grids

A grid divides the part of a page inside its margins into equal cells, separated by gaps, along two
axes. It knows which cells are marked and holds the named areas that content flows through. A group
has a grid of its own with the page's cells and columns, no margins and no bottom.

## The axes

Both axes have one theory: `Axis.span` is the length of a run of cells with the gaps between them,
and `Axis.cellsFor` counts the cells that a length needs, with a tolerance of five thousandths of a
pitch. `Axis.resolve` builds an axis from the available length: either a number of cells is asked
for, and the cell size follows, or a cell size, and the number follows.

## Main definitions

* `Axis`, `AxisSettings` — cells along one direction, and what is asked for;
* `Grid`, `GridSettings` — the same in two directions, with areas and marks;
* `Grid.forPage`, `Grid.groupGrid` — the two ways to build a grid;
* `Grid.defineArea`, `Grid.area` — named areas;
* `Grid.posX`, `Grid.posY` — where a cell is on the page;
* `GridError` — why an operation is refused, with its wording in `GridError.message`.
-/

namespace PageGrid

/-- The two directions of a grid. -/
inductive Direction where
  | horizontal
  | vertical
  deriving DecidableEq, Repr

/-- What a line of cells across this direction is called. -/
def Direction.line : Direction → String
  | .horizontal => "column"
  | .vertical => "row"

/-- Why an operation on grids, pages or groups is refused. -/
inductive GridError (α : Type) where
  | unknownArea (name : String)
  /-- Margins leave no room, or not even one cell fits. -/
  | noRoom (width height : α)
  /-- No cells at all are asked for. -/
  | zeroCount (direction : Direction)
  /-- The gaps between the cells asked for leave no room for the cells. -/
  | countTooLarge (direction : Direction) (count : Nat) (gap available : α)
  /-- The cell size is zero or negative. -/
  | cellNotPositive (direction : Direction)
  | noFrames (area : String)
  | frameOutside (area : String) (frame : FrameSpec) (columns rows : Nat)
  | unknownGroup (name : String)
  deriving DecidableEq, Repr

/-- The wording of a refusal. -/
def GridError.message : GridError Float → String
  | .unknownArea name => s!"Unknown area '{name}'"
  | .noRoom width height =>
    s!"The page leaves no room for a grid cell: {Decimal.twoPlaces width}pt x " ++
      s!"{Decimal.twoPlaces height}pt available."
  | .zeroCount direction => s!"Invalid grid setting: {direction.line} count must be at least 1"
  | .countTooLarge direction count gap available =>
    s!"Invalid grid setting: {count} {direction.line}s with a gap of {Decimal.twoPlaces gap}pt " ++
      s!"do not fit into {Decimal.twoPlaces available}pt"
  | .cellNotPositive direction => s!"Invalid grid setting: {direction.line} size must be positive"
  | .noFrames area => s!"Invalid grid setting: area '{area}' has no frames"
  | .frameOutside area frame columns rows =>
    s!"Frame {frame.column},{frame.row} ({frame.width}x{frame.height}) lies outside the " ++
      s!"{columns}x{rows} grid of area '{area}'."
  | .unknownGroup name => s!"Group '{name}' is not defined"

/-! ### Axes -/

/-- The cells along one direction: their size, the gap between neighbours and their number. -/
structure Axis (α : Type) where
  cell : α
  gap : α
  count : Nat
  deriving DecidableEq, Repr

/-- What is asked for along one direction. A number of cells overrides the cell size. -/
structure AxisSettings (α : Type) where
  cell : α
  gap : α
  count : Option Nat
  deriving DecidableEq, Repr

namespace Axis

variable {α : Type} [Scalar α]

/-- The distance from a cell to its neighbour. -/
def pitch (a : Axis α) : α := a.cell + a.gap

/-- The length of a run of cells with the gaps between them. -/
def span (a : Axis α) (cells : Nat) : α :=
  if cells = 0 then 0 else Scalar.ofNat cells * a.cell + Scalar.ofNat (cells - 1) * a.gap

/-- The number of cells that a length needs. It may overhang its last cell by the gap and the
tolerance. -/
def cellsFor (a : Axis α) (length : α) : Nat :=
  if length ≤ 0 then 0 else Scalar.ceilCount (length / a.pitch - Scalar.tolerance)

/-- The length that an extent in cells stands for, which need not be a whole number of them. -/
def extentLength (a : Axis α) (cells : α) : α :=
  cells * a.cell + Scalar.larger (cells - 1) 0 * a.gap

/-- The offset of a cell from the first one. -/
def offset (a : Axis α) (absolute : Int) : α := Scalar.ofInt (absolute - 1) * a.pitch

/-- The cells along a direction with the given available length. -/
def resolve (direction : Direction) (settings : AxisSettings α) (available : α) :
    Except (GridError α) (Axis α) :=
  match settings.count with
  | some 0 => .error (.zeroCount direction)
  | some (n + 1) =>
    let cell := (available - Scalar.ofNat n * settings.gap) / Scalar.ofNat (n + 1)
    if cell ≤ 0 then .error (.countTooLarge direction (n + 1) settings.gap available)
    else .ok ⟨cell, settings.gap, n + 1⟩
  | none =>
    if settings.cell ≤ 0 then .error (.cellNotPositive direction)
    else
      .ok ⟨settings.cell, settings.gap,
        Scalar.floorCount
          ((available + settings.gap) / (settings.cell + settings.gap) + Scalar.tolerance)⟩

end Axis

/-! ### Grids -/

/-- The grid that pages are asked to have. -/
structure GridSettings (α : Type) where
  horizontal : AxisSettings α
  vertical : AxisSettings α
  deriving DecidableEq, Repr

/-- The cells of a page or a group, with their marks and areas. -/
structure Grid (α : Type) where
  horizontal : Axis α
  vertical : Axis α
  margins : Margins α
  occupancy : Occupancy
  areas : List Area
  /-- Whether this is the grid of a group. -/
  groupScoped : Bool
  deriving DecidableEq, Repr

namespace Grid

variable {α : Type}

/-- The number of columns. -/
def columns (g : Grid α) : Nat := g.horizontal.count

/-- The number of rows. -/
def rows (g : Grid α) : Nat := g.vertical.count

/-- The number of rows of a group grid, which has no bottom. -/
def groupRows : Nat := 10000

/-- A grid without marks whose only area is the one that covers it. -/
def build (horizontal vertical : Axis α) (margins : Margins α) (groupScoped : Bool) : Grid α :=
  { horizontal, vertical, margins, groupScoped
    occupancy := .empty
    areas := [.single pageArea ⟨1, 1, horizontal.count, vertical.count⟩] }

/-- The grid of a page of the given size. -/
def forPage [Scalar α] (page : Size α) (margins : Margins α) (settings : GridSettings α) :
    Except (GridError α) (Grid α) := do
  let width := page.width - margins.left - margins.right
  let height := page.height - margins.top - margins.bottom
  if width ≤ 0 ∨ height ≤ 0 then throw (.noRoom width height)
  let horizontal ← Axis.resolve .horizontal settings.horizontal width
  let vertical ← Axis.resolve .vertical settings.vertical height
  if horizontal.count = 0 ∨ vertical.count = 0 then throw (.noRoom width height)
  return build horizontal vertical margins false

/-- The grid of a group on this grid: the same cells and columns, no margins and no bottom. -/
def groupGrid [Scalar α] (g : Grid α) : Grid α :=
  build g.horizontal { g.vertical with count := groupRows } .zero true

/-! ### Areas of a grid -/

/-- Whether `cells` cells from `start` on, at least one, end within `limit`. -/
def spansWithin (start cells limit : Nat) : Bool :=
  decide (start + max cells 1 - 1 ≤ limit)

/-- Whether the frame has cells and lies inside a grid of the given number of columns and rows. -/
def holdsFrame (g : Grid α) (f : FrameSpec) : Bool :=
  decide (1 ≤ f.column ∧ 1 ≤ f.row ∧ 1 ≤ f.width ∧ 1 ≤ f.height) &&
    spansWithin f.column f.width g.columns && spansWithin f.row f.height g.rows

/-- Adds an area, in place of one of the same name. All its frames must lie inside the grid. -/
def defineArea (g : Grid α) (name : String) (frames : List FrameSpec) :
    Except (GridError α) (Grid α) :=
  match Area.ofFrames? name frames with
  | none => .error (.noFrames name)
  | some area =>
    match frames.find? (!g.holdsFrame ·) with
    | some f => .error (.frameOutside name f g.columns g.rows)
    | none => .ok { g with areas := area :: g.areas.filter (·.name ≠ name) }

/-- The area of the given name. -/
def area? (g : Grid α) (name : String) : Option Area := g.areas.find? (·.name = name)

/-- The area of the given name; it is an error if there is none. -/
def area (g : Grid α) (name : String) : Except (GridError α) Area :=
  match g.area? name with
  | some a => .ok a
  | none => .error (.unknownArea name)

/-- The active frame of an area. -/
def frame (g : Grid α) (name : String) : Except (GridError α) Frame :=
  (·.active) <$> g.area name

/-- The grid with every area of that name changed. -/
def updateArea (g : Grid α) (name : String) (f : Area → Area) : Grid α :=
  { g with areas := g.areas.map fun a => if a.name = name then f a else a }

/-- The grid with the active frame of an area changed. -/
def updateFrame (g : Grid α) (name : String) (f : Frame → Frame) : Grid α :=
  g.updateArea name (·.updateActive f)

/-- The flow cursor of an area, column and row, relative to its active frame. -/
def cursor (g : Grid α) (name : String) : Except (GridError α) (Nat × Nat) :=
  (fun f => (f.cursorColumn, f.cursorRow)) <$> g.frame name

/-- Moves the flow cursor of an area; coordinates below one count as one. -/
def setCursor (g : Grid α) (name : String) (column row : Nat) : Except (GridError α) (Grid α) :=
  (fun _ => g.updateFrame name (·.withCursor (max column 1) (max row 1))) <$> g.area name

/-- Whether the flow of an area has not moved on this grid. -/
def atFlowStart (g : Grid α) (name : String) : Except (GridError α) Bool :=
  Area.atStart <$> g.area name

/-- The width of the active frame of an area, in cells. -/
def frameWidth (g : Grid α) (name : String) : Except (GridError α) Nat :=
  (·.width) <$> g.frame name

/-- Moves the flow of an area to its next frame; the answer is `false`, and the grid unchanged, if
there is none. -/
def advanceFrame (g : Grid α) (name : String) : Except (GridError α) (Grid α × Bool) :=
  g.area name |>.map fun a =>
    match a.advance? with
    | some b => (g.updateArea name fun _ => b, true)
    | none => (g, false)

/-! ### Positions -/

variable [Scalar α]

/-- The offset of a column of an area's active frame from the left edge of the page. -/
def posX (g : Grid α) (column : Int) (name : String) : Except (GridError α) α :=
  (fun f => g.margins.left + g.horizontal.offset (f.absoluteColumn column)) <$> g.frame name

/-- The offset of a row of an area's active frame from the top edge of the page. -/
def posY (g : Grid α) (row : Int) (name : String) : Except (GridError α) α :=
  (fun f => g.margins.top + g.vertical.offset (f.absoluteRow row)) <$> g.frame name

end Grid

end PageGrid
