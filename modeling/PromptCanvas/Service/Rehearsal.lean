import PromptCanvas.Process.Generate
import PromptCanvas.Service.Memory

set_option autoImplicit false
set_option relaxedAutoImplicit false

namespace PromptCanvas

abbrev StreamScript (α : Type) := Except ServiceError (List (Cue α))

/-- The scripted answer to a run: an id or an error after a while, and the stream behind the id. -/
structure RunScript (α : Type) where
  delay : Nat
  answer : Except ServiceError (Option String)
  stream : Option (StreamScript α)

abbrev PlanScript := Delayed (Except ServiceError (List PlanStep))

structure Rehearsal (α : Type) where
  memory : Memory α
  offered : Offered
  runs : Option (List (RunScript α))
  streams : List (String × StreamScript α)
  /-- The workspaces and requests of the scripted runs, oldest first. -/
  requested : List (String × RunRequest)
  /-- The answer to every text that is to be planned, if it is scripted. -/
  plan : Option PlanScript
  sceneFaults : List (Option ServiceError)
  viewFaults : List (Option ServiceError)

namespace Rehearsal

variable {α : Type}

def ofMemory (memory : Memory α) : Rehearsal α :=
  { memory
    offered := ⟨true, true, true⟩
    runs := none
    streams := []
    requested := []
    plan := none
    sceneFaults := []
    viewFaults := [] }

/-- The streams with that of a scripted run, if it has both an id and a stream. -/
def withStream (r : Rehearsal α) (script : RunScript α) : List (String × StreamScript α) :=
  match script.answer, script.stream with
  | .ok (some id), some stream => (id, stream) :: r.streams
  | _, _ => r.streams

def createRun (r : Rehearsal α) (workspace : String) (request : RunRequest) :
    Delayed (Except ServiceError RunHandle) × Rehearsal α :=
  match r.runs with
  | none =>
    let (handle, memory) := r.memory.createRun request
    (.now (.ok handle), { r with memory })
  | some scripts =>
    let r := { r with requested := r.requested ++ [(workspace, request)] }
    match scripts with
    | [] => (.now (.ok ⟨none⟩), r)
    | script :: rest =>
      (⟨script.delay, script.answer.map RunHandle.mk⟩,
        { r with runs := some rest, streams := r.withStream script })

def subscribe (r : Rehearsal α) (runId : String) :
    Delayed (Except ServiceError (RunStream α)) × Rehearsal α :=
  match r.runs with
  | none =>
    let (stream, memory) := r.memory.subscribe runId
    (.now stream, { r with memory })
  | some _ => (.now (((r.streams.lookup runId).getD (.ok [])).map RunStream.ofCues), r)

def planFor (r : Rehearsal α) (text : String) : PlanScript :=
  r.plan.getD (.now (.ok (Memory.plan text)))

def saveScene [Scalar α] (r : Rehearsal α) (snapshot : Snapshot α) :
    Except ServiceError Unit × Rehearsal α :=
  let r' := { r with sceneFaults := r.sceneFaults.tail }
  match r.sceneFaults with
  | some e :: _ => (.error e, r')
  | none :: _ | [] =>
    let (result, memory) := r.memory.saveScene snapshot
    (result, { r' with memory })

def saveView (r : Rehearsal α) (view : ViewState α) (idempotencyKey : String) :
    Except ServiceError Unit × Rehearsal α :=
  let r' := { r with viewFaults := r.viewFaults.tail }
  match r.viewFaults with
  | some e :: _ => (.error e, r')
  | none :: _ | [] => (.ok (), { r' with memory := r.memory.saveView view idempotencyKey })

end Rehearsal

end PromptCanvas
