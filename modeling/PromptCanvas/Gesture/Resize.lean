import PromptCanvas.Geometry

set_option autoImplicit false
set_option relaxedAutoImplicit false

namespace PromptCanvas

/-- A corner of a box. -/
inductive Corner where
  | topLeft
  | topRight
  | bottomLeft
  | bottomRight
  deriving Repr, DecidableEq

namespace Corner

def all : List Corner := [topLeft, topRight, bottomLeft, bottomRight]

def isRight : Corner → Bool
  | topRight | bottomRight => true
  | topLeft | bottomLeft => false

def isBottom : Corner → Bool
  | bottomLeft | bottomRight => true
  | topLeft | topRight => false

variable {α : Type} [Scalar α]

@[specialize] def point (c : Corner) (r : Rect α) : Point α :=
  ⟨if c.isRight then r.right else r.x, if c.isBottom then r.bottom else r.y⟩

@[specialize] def anchor (c : Corner) (r : Rect α) : Point α :=
  ⟨if c.isRight then r.x else r.right, if c.isBottom then r.y else r.bottom⟩

end Corner

namespace Resize

variable {α : Type} [Scalar α]

@[specialize] def minSide : α := 40.0

/-- Half the opening of the cone in which a locked box shrinks, in degrees. -/
@[specialize] def coneDegrees : α := 25.0

/-- Whether a movement lies in the cone around the corner's inward diagonal. -/
@[specialize] def isShrinking (baseline : Rect α) (corner : Corner) (movement : Point α) : Bool :=
  match ((corner.anchor baseline).sub (corner.point baseline)).normalize, movement.normalize with
  | some inward, some direction =>
    Scalar.cosDegrees (coneDegrees : α) ≤ Scalar.clamp (direction.dot inward) (-1.0) 1.0
  | _, _ => false

@[specialize] def enlarged (w h : α) : α × α :=
  if w < minSide ∨ h < minSide then
    let s := Scalar.larger (minSide / w) (minSide / h)
    (w * s, h * s)
  else (w, h)

/-- The sides of a box locked to a ratio: the side that changes more drives the other. -/
@[specialize] def lockedSides (baseline : Rect α) (rawW rawH ratio : α) : α × α :=
  let w := Scalar.larger rawW 1.0
  let h := Scalar.larger rawH 1.0
  if Scalar.abs (h - baseline.h) ≤ Scalar.abs (w - baseline.w) then enlarged w (w / ratio)
  else enlarged (h * ratio) h

/-- The box of the given sides whose corner opposite to `corner` is at `anchor`. -/
@[specialize] def boxAt (corner : Corner) (anchor : Point α) (sides : α × α) : Rect α :=
  ⟨if corner.isRight then anchor.x else anchor.x - sides.1,
    if corner.isBottom then anchor.y else anchor.y - sides.2, sides.1, sides.2⟩

@[specialize] def usable? (lock : Option α) : Option α :=
  lock.filter fun ratio => Scalar.isFinite ratio && (0.0 : α) < ratio

/-- The box that dragging `corner` of `baseline` from `press` to `pointer` makes. -/
@[specialize] def box (baseline : Rect α) (corner : Corner) (press pointer : Point α)
    (lock : Option α) : Rect α :=
  let anchor := corner.anchor baseline
  let movement := pointer.sub press
  let moved := (corner.point baseline).add movement
  let rawW := (if corner.isRight then 1.0 else -1.0) * (moved.x - anchor.x)
  let rawH := (if corner.isBottom then 1.0 else -1.0) * (moved.y - anchor.y)
  match usable? lock with
  | none => boxAt corner anchor (Scalar.larger rawW minSide, Scalar.larger rawH minSide)
  | some ratio =>
    let sides := lockedSides baseline rawW rawH ratio
    if sides.1 * sides.2 < baseline.w * baseline.h && !isShrinking baseline corner movement then
      baseline
    else boxAt corner anchor sides

end Resize

end PromptCanvas
