set_option autoImplicit false
set_option relaxedAutoImplicit false

namespace PromptCanvas

/-- How long triggers are waited out, in milliseconds. -/
structure Timing where
  quiet : Nat
  spacing : Nat
  deriving Repr, DecidableEq

/-- What a debouncer is told; `ι` names those who wait for a flush. -/
inductive Signal (ι : Type) where
  | trigger
  | flush (waiter : ι)
  deriving Repr, DecidableEq

inductive Ending (ι : Type) where
  | resume
  | acknowledge (waiter : ι)
  | stop
  deriving Repr, DecidableEq

/-- What a debouncer is doing. -/
inductive Phase (ι : Type) where
  | waiting
  | running (ending : Ending ι)
  | stopped
  deriving Repr, DecidableEq

structure Debouncer (ι : Type) where
  timing : Timing
  inbox : List (Signal ι)
  closed : Bool
  lastRun : Option Nat
  deadline : Option Nat
  phase : Phase ι
  acknowledged : List ι
  deriving Repr, DecidableEq

namespace Debouncer

variable {ι : Type}

def idle (timing : Timing) : Debouncer ι := ⟨timing, [], false, none, none, .waiting, []⟩

def send (d : Debouncer ι) (signal : Signal ι) : Debouncer ι :=
  if d.closed then d else { d with inbox := d.inbox ++ [signal] }

def close (d : Debouncer ι) : Debouncer ι := { d with closed := true }

def dueAfter (d : Debouncer ι) (now : Nat) : Nat :=
  let quietAt := now + d.timing.quiet
  match d.lastRun with
  | some start => max quietAt (start + d.timing.spacing)
  | none => quietAt

def start (d : Debouncer ι) (now : Nat) (ending : Ending ι) : Debouncer ι :=
  { d with
    lastRun := some now
    deadline := none
    phase := .running ending }

def acknowledge (d : Debouncer ι) (waiter : ι) : Debouncer ι :=
  { d with acknowledged := d.acknowledged ++ [waiter] }

def receive (d : Debouncer ι) (now : Nat) : Signal ι → Debouncer ι
  | .trigger => { d with deadline := some (d.dueAfter now) }
  | .flush waiter =>
    if d.deadline.isSome then d.start now (.acknowledge waiter) else d.acknowledge waiter

/-- Winds up: a run that is still due takes place, and is the last one. -/
def windUp (d : Debouncer ι) (now : Nat) : Debouncer ι :=
  if d.deadline.isSome then d.start now .stop else { d with phase := .stopped }

def isDue (d : Debouncer ι) (now : Nat) : Bool := d.deadline.any (· ≤ now)

def isWaiting (d : Debouncer ι) : Bool :=
  match d.phase with
  | .waiting => true
  | _ => false

/-- The next step of a waiting debouncer, if there is one to take now. -/
def advance? (d : Debouncer ι) (now : Nat) : Option (Debouncer ι) :=
  if d.isWaiting then
    if d.isDue now then some (d.start now .resume)
    else
      match d.inbox with
      | signal :: rest => some ({ d with inbox := rest }.receive now signal)
      | [] => if d.closed then some (d.windUp now) else none
  else none

def finishRun (d : Debouncer ι) : Debouncer ι :=
  match d.phase with
  | .running .resume => { d with phase := .waiting }
  | .running (.acknowledge waiter) => { d with phase := .waiting }.acknowledge waiter
  | .running .stop => { d with phase := .stopped }
  | .waiting | .stopped => d

def isRunning (d : Debouncer ι) : Bool :=
  match d.phase with
  | .running _ => true
  | _ => false

def isStopped (d : Debouncer ι) : Bool :=
  match d.phase with
  | .stopped => true
  | _ => false

end Debouncer

end PromptCanvas
