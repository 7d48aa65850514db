/-!
# Markers

A marker is a name for a place in the output: the page it is on and the number of the destination that
the placed object carries. The markers of a run resolve references in later runs, so a run starts with
the markers of the one before it.

## Main definitions

* `Marker`, `JobRecord` — a marker, and what a run leaves for the next one;
* `References` — the markers of this run, sorted by name, over those of the previous run;
* `References.resolve?` — the marker that a reference means.
-/

namespace PageGrid

/-- The greatest page number. -/
def pageLimit : Nat := Nat.pow 2 32 - 1

/-- The greatest number of a destination. -/
def idLimit : Nat := Nat.pow 2 64 - 1

/-- A named place in the output. -/
structure Marker where
  name : String
  page : Nat
  /-- The number of the destination. -/
  id : Nat
  /-- Whether the place is a link target of its own. -/
  isTarget : Bool
  shift : Option Float
  deriving Repr

/-- What a run leaves for the next one. -/
structure JobRecord where
  lastPage : Nat
  markers : List Marker
  deriving Repr

/-- The markers set so far in this run, sorted by name with every name once, and the previous run. -/
structure References where
  current : List Marker
  previous : Option JobRecord
  deriving Repr

namespace References

/-- The references of a run after the given one, if there was one. -/
def start (previous : Option JobRecord) : References := ⟨[], previous⟩

/-- Puts a marker into a list sorted by name, in place of one of the same name. -/
def insert (m : Marker) : List Marker → List Marker
  | [] => [m]
  | n :: ns =>
    if m.name < n.name then m :: n :: ns
    else if m.name = n.name then m :: ns
    else n :: insert m ns

/-- Records a marker of this run. A marker of the same name is replaced. -/
def set (r : References) (m : Marker) : References := { r with current := insert m r.current }

/-- The marker of this run with a name. -/
def current? (r : References) (name : String) : Option Marker := r.current.find? (·.name = name)

/-- The marker of the previous run with a name; of several the last one counts. -/
def previous? (r : References) (name : String) : Option Marker :=
  r.previous.bind fun record => record.markers.reverse.find? (·.name = name)

/-- The marker that a name refers to: that of this run if it is set already, else the previous one. -/
def resolve? (r : References) (name : String) : Option Marker :=
  (r.current? name).or (r.previous? name)

/-- Moves a marker of this run to a page. -/
def move (r : References) (name : String) (page : Nat) : References :=
  { r with current := r.current.map fun m => if m.name = name then { m with page } else m }

/-- The number of pages of the previous run. -/
def previousLastPage (r : References) : Option Nat := r.previous.map (·.lastPage)

/-- What this run leaves for the next one. -/
def record (r : References) (lastPage : Nat) : JobRecord := ⟨lastPage, r.current⟩

end References

end PageGrid
