import PromptCanvas.Debounce
import PromptCanvas.Process.Save
import PromptCanvas.Settings

set_option autoImplicit false
set_option relaxedAutoImplicit false

namespace PromptCanvas

/-- Someone who works in a session. -/
inductive Party where
  | task (id : Nat)
  | call (id : Nat)
  deriving Repr, DecidableEq

/-- Who saves the scene, and who waits to, the longest first. -/
structure SaveLock where
  holder : Option Party
  waiting : List Party
  deriving Repr, DecidableEq

namespace SaveLock

def free : SaveLock := ⟨none, []⟩

def request (l : SaveLock) (party : Party) : Bool × SaveLock :=
  match l.holder with
  | none => (true, { l with holder := some party })
  | some holder =>
    if holder = party then (true, l)
    else if party ∈ l.waiting then (false, l)
    else (false, { l with waiting := l.waiting ++ [party] })

def release (l : SaveLock) : SaveLock := ⟨l.waiting.head?, l.waiting.tail⟩

end SaveLock

/-- A debouncer, the task that runs it, and whether the next signal wakes that task. -/
structure Outlet where
  debouncer : Debouncer Nat
  task : Nat
  listening : Bool
  deriving Repr, DecidableEq

structure Autosaver where
  armed : Bool
  lock : SaveLock
  scene : Outlet
  view : Outlet
  deriving Repr, DecidableEq

namespace Autosaver

def sceneTiming {α : Type} (settings : Settings α) : Timing :=
  ⟨settings.autosaveQuiet, settings.autosaveSpacing⟩

def viewTiming {α : Type} (settings : Settings α) : Timing :=
  ⟨settings.viewQuiet, settings.viewQuiet⟩

def ofSettings {α : Type} (settings : Settings α) (sceneTask viewTask : Nat) : Autosaver :=
  { armed := true
    lock := SaveLock.free
    scene := ⟨.idle (sceneTiming settings), sceneTask, false⟩
    view := ⟨.idle (viewTiming settings), viewTask, false⟩ }

def outlet (a : Autosaver) : SaveKind → Outlet
  | .scene => a.scene
  | .view => a.view

def setOutlet (a : Autosaver) (kind : SaveKind) (outlet : Outlet) : Autosaver :=
  match kind with
  | .scene => { a with scene := outlet }
  | .view => { a with view := outlet }

def kindOf? : ChangeKind → Option SaveKind
  | .scene => some .scene
  | .viewport => some .view
  | .selection => none

def triggers (a : Autosaver) (announced : List Announcement) : List SaveKind :=
  if a.armed then announced.filterMap fun note => kindOf? note.kind else []

/-- Sends a signal to a debouncer: the task to wake, if there is one, and the autosaver. -/
def signal (a : Autosaver) (kind : SaveKind) (signal : Signal Nat) : Option Nat × Autosaver :=
  let o := a.outlet kind
  (if o.listening then some o.task else none,
    a.setOutlet kind { o with debouncer := o.debouncer.send signal, listening := false })

/-- Closes a debouncer: the task to wake, if there is one, and the autosaver. -/
def close (a : Autosaver) (kind : SaveKind) : Option Nat × Autosaver :=
  let o := a.outlet kind
  (if o.listening then some o.task else none,
    a.setOutlet kind { o with debouncer := o.debouncer.close, listening := false })

def isClosed (a : Autosaver) : Bool := a.scene.debouncer.closed

end Autosaver

end PromptCanvas
