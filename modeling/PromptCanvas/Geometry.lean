import PromptCanvas.Scalar

set_option autoImplicit false
set_option relaxedAutoImplicit false

namespace PromptCanvas

/-- A point of the plane, or a vector. -/
structure Point (α : Type) where
  x : α
  y : α
  deriving Repr, DecidableEq

/-- An axis-aligned rectangle: its top-left corner and its size. -/
structure Rect (α : Type) where
  x : α
  y : α
  w : α
  h : α
  deriving Repr, DecidableEq

def Rect.origin {α : Type} (r : Rect α) : Point α := ⟨r.x, r.y⟩

variable {α : Type} [Scalar α]

namespace Point

@[specialize] def zero : Point α := ⟨0.0, 0.0⟩

@[specialize] def add (p q : Point α) : Point α := ⟨p.x + q.x, p.y + q.y⟩

@[specialize] def sub (p q : Point α) : Point α := ⟨p.x - q.x, p.y - q.y⟩

@[specialize] def scale (p : Point α) (s : α) : Point α := ⟨p.x * s, p.y * s⟩

@[specialize] def length (p : Point α) : α := Scalar.hypot p.x p.y

@[specialize] def dot (p q : Point α) : α := p.x * q.x + p.y * q.y

/-- The length at or below which a vector has no direction: the gap between one and the next
binary floating-point number. -/
@[specialize] def negligible : α := 2.220446049250313e-16

@[specialize] def normalize (p : Point α) : Option (Point α) :=
  if negligible < p.length then some (p.scale (1.0 / p.length)) else none

/-- The point at parameter `t` of the line that is at `p` for zero and at `q` for one. -/
@[specialize] def lerp (p q : Point α) (t : α) : Point α := p.add ((q.sub p).scale t)

end Point

namespace Rect

@[specialize] def ofCorners (p q : Point α) : Rect α :=
  ⟨Scalar.smaller p.x q.x, Scalar.smaller p.y q.y, Scalar.abs (p.x - q.x), Scalar.abs (p.y - q.y)⟩

@[specialize] def right (r : Rect α) : α := r.x + r.w

@[specialize] def bottom (r : Rect α) : α := r.y + r.h

@[specialize] def center (r : Rect α) : Point α := ⟨r.x + r.w / 2.0, r.y + r.h / 2.0⟩

@[specialize] def contains (r : Rect α) (p : Point α) : Bool :=
  r.x ≤ p.x && p.x ≤ r.right && r.y ≤ p.y && p.y ≤ r.bottom

@[specialize] def intersects (r s : Rect α) : Bool :=
  r.x ≤ s.right && s.x ≤ r.right && r.y ≤ s.bottom && s.y ≤ r.bottom

/-- Whether two rectangles come closer than `padding` on both axes. -/
@[specialize] def overlapsPadded (r s : Rect α) (padding : α) : Bool :=
  r.x < s.right + padding && s.x < r.right + padding &&
    r.y < s.bottom + padding && s.y < r.bottom + padding

@[specialize] def union (r s : Rect α) : Rect α :=
  let x := Scalar.smaller r.x s.x
  let y := Scalar.smaller r.y s.y
  ⟨x, y, Scalar.larger r.right s.right - x, Scalar.larger r.bottom s.bottom - y⟩

/-- The smallest rectangle that contains every one of a list, none for the empty list. -/
@[specialize] def bounding : List (Rect α) → Option (Rect α)
  | [] => none
  | r :: rest => some (rest.foldl union r)

end Rect

end PromptCanvas
