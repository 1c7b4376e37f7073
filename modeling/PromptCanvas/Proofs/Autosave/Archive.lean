import PromptCanvas.Proofs.Autosave.Signals
import PromptCanvas.Proofs.Process.Save
import PromptCanvas.Proofs.Store.Announcements

set_option autoImplicit false
set_option relaxedAutoImplicit false

namespace PromptCanvas

/-- A save of the scene: who makes it, and how far it is. -/
structure SceneSave (α : Type) where
  party : Party
  stage : SaveStage α
  deriving Repr, DecidableEq

/-- A snapshot that a party took, and the scene that it took it of. -/
structure Capture (α : Type) where
  party : Party
  scene : Scene α
  snapshot : Snapshot α
  deriving Repr, DecidableEq

/-- A store, what saves it, and the history of its saves since changes became triggers. -/
structure Archive (α : Type) where
  bench : Workbench α
  saver : Autosaver
  saves : List (SceneSave α)
  origin : Scene α
  captured : List (Capture α)
  deriving Repr, DecidableEq

namespace SceneSave

variable {α : Type}

def opening (party : Party) : SceneSave α := ⟨party, .opening .scene⟩

/-- The snapshot that a save holds when it has gone on, if it held none before. -/
def captures (save : SceneSave α) (scene : Scene α) :
    Progress (SaveStage α) (SaveResult α) → List (Capture α)
  | .more next =>
    match save.stage.snapshot? with
    | none => next.snapshot?.toList.map fun snapshot => ⟨save.party, scene, snapshot⟩
    | some _ => []
  | .done _ => []

end SceneSave

namespace Archive

section Plain

variable {α : Type}

def scene (a : Archive α) : Scene α := a.bench.store.scene

def debouncer (a : Archive α) : Debouncer Nat := a.saver.scene.debouncer

def keeper (a : Archive α) : Party := .task a.saver.scene.task

/-- The scene captured last, or the one when changes became triggers. -/
def lastCaptured (a : Archive α) : Scene α := (a.captured.getLast?.map Capture.scene).getD a.origin

/-- A trigger waits in the inbox, or the deadline is set, or a save that the debouncer began has
still to capture the scene. -/
def Pending (a : Archive α) : Prop :=
  .trigger ∈ a.debouncer.inbox ∨ a.debouncer.deadline.isSome = true ∨ .opening a.keeper ∈ a.saves

/-- Another store in the place of the present one; what it announces becomes triggers. -/
def putStore (a : Archive α) (store : Store α) : Archive α :=
  { a with
    bench := { a.bench with store := store.collect.2 }
    saver := a.saver.hear store.collect.1 }

def putDebouncer (a : Archive α) (debouncer : Debouncer Nat) : Archive α :=
  { a with saver := a.saver.setOutlet .scene { a.saver.outlet .scene with debouncer } }

def beginSave (a : Archive α) (party : Party) : Archive α :=
  { a with saves := a.saves ++ [.opening party] }

/-- The debouncer has made a step; a run that starts is a save. -/
def advance (a : Archive α) (next : Debouncer Nat) : Archive α :=
  if next.isRunning then (a.putDebouncer next).beginSave a.keeper else a.putDebouncer next

def putLock (a : Archive α) (lock : SaveLock) : Archive α :=
  { a with saver := { a.saver with lock } }

/-- A save has ended; the debouncer learns of the end of its run. -/
def endSave (a : Archive α) (party : Party) : Archive α :=
  if party = a.keeper then a.putDebouncer a.debouncer.finishRun else a

/-- The save between `before` and `after` has another stage, or has ended. -/
def proceed (a : Archive α) (before : List (SceneSave α)) (save : SceneSave α)
    (after : List (SceneSave α)) : Progress (SaveStage α) (SaveResult α) → Archive α
  | .more stage => { a with saves := before ++ { save with stage } :: after }
  | .done _ => { a with saves := before ++ after }.endSave save.party

/-- What a party that asks may be answered at present; `lock` is the lock behind the answer. -/
inductive Answers (a : Archive α) (party : Party) : Ask α → SaveLock → Prop
  | lock {lock : SaveLock} :
      a.saver.lock.request party = (true, lock) → Answers a party .lock lock
  | unlock : Answers a party .unlock a.saver.lock.release
  | rest {wakes : List Nat} :
      (∃ wake ∈ wakes, wake ≤ a.bench.now) → Answers a party (.rest wakes) a.saver.lock
  | saveScene (snapshot : Snapshot α) : Answers a party (.saveScene snapshot) a.saver.lock
  | saveView (view : ViewState α) (key : String) :
      Answers a party (.saveView view key) a.saver.lock
  | go : Answers a party .go a.saver.lock

/-- The beginning: changes are triggers from now on, and the debouncer takes signals. -/
structure Start (a : Archive α) : Prop where
  armed : a.saver.armed = true
  isOpen : a.debouncer.closed = false
  origin : a.origin = a.scene
  captured : a.captured = []

end Plain

variable {α : Type} [Scalar α]

/-- A save has worked with an answer; a snapshot that it has taken is put down. -/
def work (policy : RetryPolicy α) (a : Archive α) (save : SceneSave α) (lock : SaveLock)
    (answer : save.stage.ask.Answer) : Archive α :=
  { a.putLock lock with
    bench := (save.stage.resume policy a.bench answer).2
    captured := a.captured ++ save.captures a.scene (save.stage.resume policy a.bench answer).1 }

/-- The save between `before` and `after` goes on with an answer. -/
def goOn (policy : RetryPolicy α) (a : Archive α) (before : List (SceneSave α))
    (save : SceneSave α) (after : List (SceneSave α)) (lock : SaveLock)
    (answer : save.stage.ask.Answer) : Archive α :=
  (a.work policy save lock answer).proceed before save after
    (save.stage.resume policy a.bench answer).1

/-- An operation on the store and its notification. -/
inductive Change : Archive α → Archive α → Prop
  | operate (a : Archive α) (operation : Store.Operation α) :
      Change a (a.putStore (operation.perform a.bench.store))
  /-- An operation that says itself what it changed, and says it all. -/
  | apply (a : Archive α) (operation : Canvas α → Effects × Canvas α) :
      (operation a.bench.store.canvas).1.Covers a.bench.store.canvas
        (operation a.bench.store.canvas).2 →
      Change a (a.putStore (a.bench.store.apply operation).2)

/-- One step of one party.  What the services answer is up to the world around. -/
inductive Step (policy : RetryPolicy α) : Archive α → Archive α → Prop
  | change {a b : Archive α} : Change a b → Step policy a b
  | flush (a : Archive α) (waiter : Nat) :
      Step policy a { a with saver := (a.saver.signal .scene (.flush waiter)).2 }
  | elapse (a : Archive α) (time : Nat) :
      a.bench.now ≤ time → Step policy a { a with bench := { a.bench with now := time } }
  | advance {a : Archive α} {next : Debouncer Nat} :
      a.debouncer.advance? a.bench.now = some next → Step policy a (a.advance next)
  | look {a : Archive α} {signal : Signal Nat} {rest : List (Signal Nat)} :
      a.debouncer.isWaiting = true → a.debouncer.inbox = signal :: rest →
        Step policy a (a.advance
          ({ a.debouncer with inbox := rest }.receive a.bench.now signal))
  | saveNow (a : Archive α) (party : Party) :
      party ≠ a.keeper → (∀ save ∈ a.saves, save.party ≠ party) →
        Step policy a (a.beginSave party)
  | await {a : Archive α} {before after : List (SceneSave α)} {save : SceneSave α}
      {lock : SaveLock} :
      a.saves = before ++ save :: after → save.stage.ask = .lock →
        a.saver.lock.request save.party = (false, lock) → Step policy a (a.putLock lock)
  | goOn {a : Archive α} {before after : List (SceneSave α)} {save : SceneSave α}
      {lock : SaveLock} (answer : save.stage.ask.Answer) :
      a.saves = before ++ save :: after → a.Answers save.party save.stage.ask lock →
        Step policy a (a.goOn policy before save after lock answer)
  /-- What happens elsewhere: others count and take names, views are saved, tasks wait. -/
  | elsewhere (a : Archive α) (metrics : Metrics) (issued : Nat) (view : Outlet)
      (listening : Bool) :
      Step policy a { a with
        bench := { a.bench with metrics, issued }
        saver := { a.saver with view, scene := { a.saver.scene with listening } } }

end Archive

end PromptCanvas
