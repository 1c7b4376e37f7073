import PromptCanvas.Scalar

set_option autoImplicit false
set_option relaxedAutoImplicit false

namespace PromptCanvas

/-- How often a write is attempted, and how long to wait in between, in milliseconds. -/
structure RetryPolicy (α : Type) where
  maxAttempts : Nat
  initialDelay : Nat
  maxDelay : Nat
  multiplier : α
  deriving Repr, DecidableEq

namespace RetryPolicy

variable {α : Type} [Scalar α]

/-- Four attempts, starting at a fifth of a second and doubling up to five seconds. -/
def standard : RetryPolicy α := ⟨4, 200, 5000, 2.0⟩

def attempts {α : Type} (p : RetryPolicy α) : Nat := max p.maxAttempts 1

/-- The exponent of an attempt number: numbers from `2 ^ 31` on count down to zero. -/
def exponent (attempt : Nat) : Int := Int.bmod attempt 0x100000000

/-- The delay behind an attempt, counted from zero, in whole milliseconds. -/
def delay (p : RetryPolicy α) (attempt : Nat) : Nat :=
  Scalar.truncate
    (Scalar.smaller (Scalar.ofNat p.initialDelay * Scalar.power p.multiplier (exponent attempt))
      (Scalar.ofNat p.maxDelay))

/-- The delay behind an attempt that failed, counted from zero, if another one is to follow. -/
def delayAfter? (p : RetryPolicy α) (attempt : Nat) (retryable : Bool) : Option Nat :=
  if retryable && attempt + 1 < p.attempts then some (p.delay attempt) else none

end RetryPolicy

end PromptCanvas
