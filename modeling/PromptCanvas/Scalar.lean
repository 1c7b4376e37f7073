set_option autoImplicit false
set_option relaxedAutoImplicit false

namespace PromptCanvas

/-- A type of measurements: arithmetic, comparison, and the few functions the canvas needs. -/
class Scalar (α : Type) extends Add α, Sub α, Mul α, Div α, Neg α, LE α, LT α, OfScientific α where
  decidableLE : DecidableLE α
  decidableLT : DecidableLT α
  /-- Equality of measurements, which an undefined measurement fails even against itself. -/
  agrees : α → α → Bool
  ofInt : Int → α
  truncate : α → Nat
  isFinite : α → Bool
  hypot : α → α → α
  exp : α → α
  cosDegrees : α → α

attribute [reducible, instance] Scalar.decidableLE Scalar.decidableLT

namespace Scalar

section Generic

variable {α : Type} [Scalar α]

@[specialize] def ofNat (n : Nat) : α := ofInt (Int.ofNat n)

@[specialize] def isUndefined (x : α) : Bool := !agrees x x

/-- The larger of two measurements; an undefined one gives way to the other. -/
@[specialize] def larger (x y : α) : α :=
  if isUndefined x then y else if isUndefined y then x else if x < y then y else x

/-- The smaller of two measurements; an undefined one gives way to the other. -/
@[specialize] def smaller (x y : α) : α :=
  if isUndefined x then y else if isUndefined y then x else if y < x then y else x

/-- The measurement brought into the range from `lo` to `hi`; an undefined one stays undefined. -/
@[specialize] def clamp (x lo hi : α) : α :=
  let y := if x < lo then lo else x
  if hi < y then hi else y

@[specialize] def abs (x : α) : α := if x < 0.0 then -x else x

@[specialize] def ceiling (x : α) : Nat :=
  let whole := truncate x
  if (ofNat whole : α) < x then whole + 1 else whole

/-- The product of `seed` and the `n`-th power of `base`, by repeated squaring. -/
@[specialize] def timesPower (seed base : α) (n : Nat) : α :=
  let seed := if n % 2 = 1 then seed * base else seed
  if n < 2 then seed else timesPower seed (base * base) (n / 2)
termination_by n
decreasing_by omega

/-- An integer power; a negative exponent is the reciprocal of the positive power. -/
@[specialize] def power (x : α) (n : Int) : α :=
  let magnitude := timesPower 1.0 x n.natAbs
  if n < 0 then 1.0 / magnitude else magnitude

end Generic

def floatHuge : Float := Float.ofNat (1 <<< 511)

def floatTiny : Float := 1.0 / Float.ofNat (1 <<< 459)

/-- The power of two by which components are scaled to keep their squares in range. -/
def floatRescale : Float := Float.ofNat (1 <<< 600)

/-- The ratio of two components beyond which the smaller one does not count. -/
def floatApart : Float := Float.ofNat (1 <<< 54)

/-- By how much the square of `h` exceeds `x * x + y * y`, where `y ≤ x` and `h` is close to the
length.  The terms are arranged so that rounding hardly disturbs them. -/
def floatExcess (h x y : Float) : Float :=
  if h ≤ 2.0 * y then
    let d := h - y
    x * (2.0 * d - x) + (d - 2.0 * (x - y)) * d
  else
    let d := h - x
    2.0 * d * (x - 2.0 * y) + ((4.0 * d - y) * y + d * d)

/-- The length of a vector with `y ≤ x` whose squares are in range: the root of the sum of squares,
corrected once. -/
def floatLength (x y : Float) : Float :=
  let h := Float.sqrt (x * x + y * y)
  h - floatExcess h x y / (2.0 * h)

/-- The length of a vector in binary floating point, scaled so that no square leaves its range. -/
def floatHypot (a b : Float) : Float :=
  if a.isInf || b.isInf then 1.0 / 0.0
  else if a.isNaN || b.isNaN then a + b
  else
    let x := if a.abs < b.abs then b.abs else a.abs
    let y := if a.abs < b.abs then a.abs else b.abs
    if x > floatHuge then
      if y * floatApart ≤ x then x + y
      else floatLength (x / floatRescale) (y / floatRescale) * floatRescale
    else if y < floatTiny then
      if x ≥ y * floatApart then x + y
      else floatLength (x * floatRescale) (y * floatRescale) / floatRescale
    else if y * floatApart ≤ x then x + y
    else floatLength x y

def floatRadiansPerDegree : Float := 3.14159265358979323846264338327950288 / 180.0

instance : Scalar Float where
  decidableLE := fun x y => Float.decLe x y
  decidableLT := fun x y => Float.decLt x y
  agrees := fun x y => Float.beq x y
  ofInt := Float.ofInt
  truncate := fun x => x.toUInt64.toNat
  isFinite := Float.isFinite
  hypot := floatHypot
  exp := Float.exp
  cosDegrees := fun x => Float.cos (x * floatRadiansPerDegree)

end Scalar

end PromptCanvas
