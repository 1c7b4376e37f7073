import PromptCanvas.Autosave

set_option autoImplicit false
set_option relaxedAutoImplicit false

namespace PromptCanvas

structure Timer where
  time : Nat
  party : Party
  deriving Repr, DecidableEq

/-- The time, the line of tasks that can go on, and the timers in the order of their setting. -/
structure Agenda where
  now : Nat
  ready : List Nat
  timers : List Timer
  deriving Repr, DecidableEq

namespace Agenda

def start : Agenda := ⟨0, [], []⟩

def wake (a : Agenda) (task : Nat) : Agenda :=
  if task ∈ a.ready then a else { a with ready := a.ready ++ [task] }

def wakeAll (a : Agenda) (tasks : List Nat) : Agenda := tasks.foldl wake a

def rest (a : Agenda) (task : Nat) : Agenda :=
  { a with ready := a.ready.filter fun id => id ≠ task }

def setTimer (a : Agenda) (party : Party) (time : Nat) : Agenda :=
  if (⟨time, party⟩ : Timer) ∈ a.timers then a
  else { a with timers := a.timers ++ [⟨time, party⟩] }

def setTimers (a : Agenda) (party : Party) (times : List Nat) : Agenda :=
  times.foldl (fun a time => a.setTimer party time) a

def dropTimers (a : Agenda) (party : Party) : Agenda :=
  { a with timers := a.timers.filter fun t => t.party ≠ party }

def nextTime? (a : Agenda) : Option Nat := (a.timers.map Timer.time).min?

def taskOf? : Party → Option Nat
  | .task id => some id
  | .call _ => none

/-- Lets the clock jump to the next timer, and wakes the tasks whose timers go off. -/
def jump? (a : Agenda) : Option Agenda :=
  match a.nextTime? with
  | none => none
  | some time =>
    let now := max a.now time
    let due := a.timers.filter fun t => t.time ≤ now
    some ({ a with
      now
      timers := a.timers.filter fun t => ¬ t.time ≤ now }.wakeAll
        (due.filterMap fun (t : Timer) => taskOf? t.party))

end Agenda

end PromptCanvas
