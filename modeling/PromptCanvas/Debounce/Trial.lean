import PromptCanvas.Debounce

set_option autoImplicit false
set_option relaxedAutoImplicit false

namespace PromptCanvas.Debouncer

/-- A debouncer, the time, and the starts of its runs; flushes are numbered. -/
structure Trial where
  now : Nat
  work : Nat
  debouncer : Debouncer Nat
  runEnd : Option Nat
  starts : List Nat
  flushes : Nat
  deriving Repr, DecidableEq

namespace Trial

def fresh (timing : Timing) (work : Nat) : Trial := ⟨0, work, idle timing, none, [], 0⟩

def send (t : Trial) (signal : Signal Nat) : Trial :=
  { t with debouncer := t.debouncer.send signal }

/-- A new state of the debouncer; a run that begins in it is written down. -/
def become (t : Trial) (debouncer : Debouncer Nat) : Trial :=
  if debouncer.isRunning then
    { t with
      debouncer
      runEnd := some (t.now + t.work)
      starts := t.starts ++ [t.now] }
  else { t with debouncer }

def nextTime? (t : Trial) : Option Nat := t.runEnd.or t.debouncer.deadline

/-- The next step up to a time: the end of a run, a step of the debouncer, or a jump. -/
def step? (t : Trial) (limit : Nat) : Option Trial :=
  if t.runEnd.any (· ≤ t.now) then
    some { t with debouncer := t.debouncer.finishRun, runEnd := none }
  else
    match t.debouncer.advance? t.now with
    | some debouncer => some (t.become debouncer)
    | none =>
      match t.nextTime? with
      | some time => if t.now < time ∧ time ≤ limit then some { t with now := time } else none
      | none => none

/-- Takes steps up to a time until one satisfies the condition, at most as many as `steps`. -/
def runUntil (finished : Trial → Bool) (limit : Nat) : Nat → Trial → Trial
  | 0, t => t
  | steps + 1, t =>
    if finished t then t
    else
      match t.step? limit with
      | some t => runUntil finished limit steps t
      | none => t

def stepBound (t : Trial) : Nat := 8 * (t.debouncer.inbox.length + 2)

def sleep (t : Trial) (duration : Nat) : Trial :=
  if duration = 0 then t
  else
    let wake := t.now + duration
    { t.runUntil (fun _ => false) wake t.stepBound with now := wake }

def flush (t : Trial) : Trial :=
  let ticket := t.flushes
  let t := { t with flushes := ticket + 1 }.send (.flush ticket)
  let acknowledged (t : Trial) : Bool := ticket ∈ t.debouncer.acknowledged
  let t := t.runUntil acknowledged (t.now + 2 * t.work) t.stepBound
  t.runUntil (fun _ => false) t.now t.stepBound

def drop (t : Trial) : Trial := { t with debouncer := t.debouncer.close }

end Trial

end PromptCanvas.Debouncer
