import PromptCanvas.Geometry

set_option autoImplicit false
set_option relaxedAutoImplicit false

namespace PromptCanvas.Placement

/-- A cell of the grid: its column and row from the anchor. -/
structure Cell where
  gx : Int
  gy : Int
  deriving Repr, DecidableEq

/-- The ring of a cell: how many steps it is away on the axis where it is farther. -/
def Cell.ring (c : Cell) : Nat := max c.gx.natAbs c.gy.natAbs

def minRings : Nat := 26

def maxRings : Nat := 256

def span (n : Nat) : List Int := (List.range (2 * n + 1)).map fun i => Int.ofNat i - Int.ofNat n

def ringCells (ring : Nat) : List Cell :=
  let r : Int := ring
  if ring = 0 then [⟨0, 0⟩]
  else
    (span ring).map (fun g => ⟨g, -r⟩) ++ (span ring).map (fun g => ⟨g, r⟩) ++
      (span (ring - 1)).map (fun g => ⟨-r, g⟩) ++ (span (ring - 1)).map (fun g => ⟨r, g⟩)

variable {α : Type} [Scalar α]

@[specialize] def gridStep : α := 48.0

@[specialize] def clearance : α := 18.0

/-- How many rings are searched for a box among existing ones, in a view of the given extent. -/
@[specialize] def rings (existing : List (Rect α)) (w h viewW viewH : α) : Nat :=
  let largest := (existing.map fun r => Scalar.larger r.w r.h).foldl Scalar.larger 0.0
  let steps := (Scalar.larger viewW viewH + largest + Scalar.larger w h) / gridStep
  if Scalar.isFinite steps && (0.0 : α) < steps then
    min (max (Scalar.ceiling steps) minRings) maxRings
  else minRings

@[specialize] def Cell.offset (c : Cell) : Point α :=
  ⟨Scalar.ofInt c.gx * gridStep, Scalar.ofInt c.gy * gridStep⟩

structure Candidate (α : Type) where
  cell : Cell
  distance : α
  deriving Repr, DecidableEq

@[specialize] def Cell.candidate (c : Cell) : Candidate α := ⟨c, c.offset.length⟩

/-- The order in which cells at one distance are tried: by ring, row and column. -/
def Cell.notAfter (c d : Cell) : Bool :=
  if c.ring ≠ d.ring then c.ring < d.ring
  else if c.gy ≠ d.gy then c.gy < d.gy
  else c.gx ≤ d.gx

/-- The order in which candidates are tried: by distance, then by cell. -/
@[specialize] def Candidate.notAfter (a b : Candidate α) : Bool :=
  if a.distance < b.distance then true
  else if b.distance < a.distance then false
  else a.cell.notAfter b.cell

@[specialize] def ringCandidates (ring : Nat) : List (Candidate α) :=
  ((ringCells ring).map Cell.candidate).mergeSort Candidate.notAfter

/-- The first fitting candidate among those left over from the rings before `ring`, and those of
the rings from `ring` on.  The candidates left over are in the order in which they are tried. -/
@[specialize] def searchFrom (fits : Cell → Bool) (last ring : Nat)
    (pending : List (Candidate α)) : Option Cell :=
  let pending := pending.merge (ringCandidates ring) Candidate.notAfter
  if last ≤ ring then (pending.find? fun c => fits c.cell).map Candidate.cell
  else
    let settled := Scalar.ofNat (ring + 1) * gridStep
    match (pending.takeWhile fun c => c.distance < settled).find? fun c => fits c.cell with
    | some found => some found.cell
    | none =>
      searchFrom fits last (ring + 1) (pending.dropWhile fun c => c.distance < settled)
termination_by last - ring

@[specialize] def isClear (existing : List (Rect α)) (box : Rect α) : Bool :=
  existing.all fun r => !box.overlapsPadded r clearance

/-- The top-left corner for a box of `w` by `h` that is centred nearest to `anchor` and keeps
clear of the existing boxes; centred on the anchor itself where the search finds none. -/
@[specialize] def nearestFree (existing : List (Rect α)) (w h : α) (anchor : Point α)
    (viewW viewH : α) : Point α :=
  let origin : Point α := ⟨anchor.x - w / 2.0, anchor.y - h / 2.0⟩
  let place (c : Cell) : Point α := origin.add c.offset
  let fits (c : Cell) : Bool := isClear existing ⟨(place c).x, (place c).y, w, h⟩
  match searchFrom (α := α) fits (rings existing w h viewW viewH) 0 [] with
  | some c => place c
  | none => origin

example : (ringCells 2).length = 16 := by decide

end PromptCanvas.Placement
