import PromptCanvas.Metrics
import PromptCanvas.Service.Stream
import PromptCanvas.Run.Event

set_option autoImplicit false
set_option relaxedAutoImplicit false

namespace PromptCanvas

/-- A scene as it is sent to be saved. -/
structure Snapshot (α : Type) where
  revision : Nat
  document : Document α
  idempotencyKey : String
  deriving Repr, DecidableEq

inductive Ask (α : Type) where
  | go
  | lock
  | unlock
  | rest (wakes : List Nat)
  | upload (source : UploadSource)
  | saveScene (snapshot : Snapshot α)
  | saveView (view : ViewState α) (idempotencyKey : String)
  | createRun (request : RunRequest)
  | subscribe (runId : String)
  | next (stream : RunStream α)
  | leave (stream : RunStream α)

@[reducible] def Ask.Answer {α : Type} : Ask α → Type
  | .go | .lock | .unlock | .rest _ | .leave _ => Unit
  | .upload _ => Except ServiceError Asset
  | .saveScene _ | .saveView .. => Except ServiceError Unit
  | .createRun _ => Delayed (Except ServiceError RunHandle)
  | .subscribe _ => Delayed (Except ServiceError (RunStream α))
  | .next _ => StreamStep α

/-- What a process works on: the time, the store of its workspace, the metrics, and the number of
fresh names handed out so far. -/
structure Workbench (α : Type) where
  now : Nat
  store : Store α
  metrics : Metrics
  issued : Nat
  deriving Repr, DecidableEq

/-- Whether a process goes on with another stage or is done. -/
inductive Progress (σ ρ : Type) where
  | more (stage : σ)
  | done (result : ρ)
  deriving Repr, DecidableEq

def freshName (number : Nat) : String :=
  let digits := Nat.toDigits 16 number
  "00000000-0000-4000-8000-" ++
    String.ofList (List.replicate (12 - digits.length) '0' ++ digits)

namespace Workbench

variable {α : Type}

def count (b : Workbench α) (metric : Metric) : Workbench α :=
  { b with metrics := b.metrics.count metric }

def issue (b : Workbench α) : String × Workbench α :=
  (freshName b.issued, { b with issued := b.issued + 1 })

/-- Changes an image in its place; the store counts a change whenever the element is there. -/
def changeImage (b : Workbench α) (key : Key) (change : Image α → Image α) : Workbench α :=
  { b with store := (b.store.updateElement key fun e => e.mapImage change).toOption.getD b.store }

variable [Scalar α]

def fail (b : Workbench α) (key : Key) (message : String) : Applied × Workbench α :=
  let (applied, store) := b.store.fail key message
  (applied, { b with store })

def deliver (b : Workbench α) (key : Key) (event : RunEvent) : Applied × Workbench α :=
  let (applied, store) := b.store.deliver key event
  (applied, { b with store })

end Workbench

end PromptCanvas
