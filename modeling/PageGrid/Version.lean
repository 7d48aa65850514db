import PageGrid.Decimal.Reader
import PageGrid.Text.Blank

/-!
# Version requirements

Layout rules may name the engine version they need. A version is a list of components separated by
points, of which the first three count and missing ones are zero. A requirement is met unless it is
greater than the engine's version in lexicographic order. Two cases pass without comparison: an empty
requirement, and an engine whose third component is not a number, which is a development build.
-/

namespace PageGrid

namespace Version

/-- The version of this engine. -/
def engine : String := "0.1.0"

/-- A requirement the engine does not meet. -/
structure Mismatch where
  required : String
  engine : String
  deriving DecidableEq, Repr

/-- The wording of a mismatch. -/
def Mismatch.message (m : Mismatch) : String :=
  s!"Layout requires version {m.required}, but this engine is version {m.engine}"

/-- The greatest component: sixty-four bits. -/
def componentLimit : Nat := Nat.pow 2 64 - 1

/-- Cuts a text at every point. -/
def split : List Char → List (List Char)
  | [] => [[]]
  | c :: cs =>
    if c = '.' then [] :: split cs
    else
      match split cs with
      | [] => [[c]]
      | part :: parts => (c :: part) :: parts

/-- The component at a place: zero if it is missing, `none` if it is not a whole number. -/
def component (parts : List (List Char)) (index : Nat) : Option Nat :=
  match parts[index]? with
  | some part => Decimal.readNat componentLimit (Text.trimChars part)
  | none => some 0

/-- Lexicographic order on lists of equal length. -/
def atMost : List Nat → List Nat → Bool
  | w :: ws, h :: hs => if h < w then false else if w < h then true else atMost ws hs
  | _, _ => true

/-- Whether the engine meets the requirement; the answer carries the trimmed requirement if not. -/
def check (required engine : String) : Except Mismatch Unit :=
  let wanted := Text.trimChars required.toList
  let mismatch : Except Mismatch Unit := .error ⟨String.ofList wanted, engine⟩
  let offered := split (Text.trimChars engine.toList)
  let parts := split wanted
  if wanted.isEmpty then .ok ()
  else
    match component offered 2 with
    | none => .ok ()
    | some patch =>
      match component parts 0, component parts 1, component parts 2,
          component offered 0, component offered 1 with
      | some a, some b, some c, some x, some y =>
        if atMost [a, b, c] [x, y, patch] then .ok () else mismatch
      | _, _, _, _, _ => mismatch

end Version

end PageGrid
