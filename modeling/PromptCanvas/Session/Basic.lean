import PromptCanvas.Service.Rehearsal
import PromptCanvas.Session.Agenda
import PromptCanvas.Workspace

/-!
A session: workspaces, the services behind them, and all the work that is going on.

Work in the background is a task.  A call is work that somebody outside waits for.
-/

set_option autoImplicit false
set_option relaxedAutoImplicit false

namespace PromptCanvas

inductive Task (α : Type) where
  | job (assignment : Assignment α) (stage : JobStage α)
  | follower (followed : Followed) (stage : FollowStage α)
  | saver (kind : SaveKind) (saving : Option (SaveStage α))

inductive SubmitStage where
  | checking
  | planning (admission : Admission)
  | planned (admission : Admission) (reply : Except ServiceError (List PlanStep)) (wake : Nat)

/-- Work that somebody outside waits for. -/
inductive Call (α : Type) where
  | sleep (wake : Nat)
  | save (workspace : Nat) (stage : SaveStage α)
  /-- The debouncer that is flushed, and the ticket under which it acknowledges. -/
  | flush (workspace : Nat) (kind : SaveKind) (ticket : Option Nat)
  | submit (workspace : Nat) (text : String) (stage : SubmitStage)
  | awaitJob (number : Nat)
  | awaitTasks (tasks : List Nat)

/-- What a call brought. -/
inductive CallResult where
  | done
  | saved (result : Except ServiceError SaveReport)
  | submitted (result : Except ServiceError (List Job))
  | outcome (outcome : JobOutcome)

structure TaskEntry (α : Type) where
  id : Nat
  workspace : Nat
  task : Task α

/-- A job that was accepted, and its result once it has one. -/
structure JobEntry where
  job : Job
  outcome : Option JobOutcome
  deriving Repr, DecidableEq

/-- A session. -/
structure Session (α : Type) where
  agenda : Agenda
  services : Rehearsal α
  metrics : Metrics
  issued : Nat
  workspaces : List (Workspace α)
  current : Option Nat
  tasks : List (TaskEntry α)
  calls : List (Nat × Call α)
  results : List (Nat × CallResult)
  jobs : List JobEntry
  numbered : Nat

namespace Session

section Plain

variable {α : Type}

def ofServices (services : Rehearsal α) : Session α :=
  { agenda := Agenda.start
    services
    metrics := Metrics.none
    issued := 0
    workspaces := []
    current := none
    tasks := []
    calls := []
    results := []
    jobs := []
    numbered := 0 }

def now (s : Session α) : Nat := s.agenda.now

def workspace? (s : Session α) : Option (Workspace α) := s.current.bind fun w => s.workspaces[w]?

def changeWorkspace (s : Session α) (w : Nat) (change : Workspace α → Workspace α) : Session α :=
  { s with workspaces := s.workspaces.modify w change }

def number (s : Session α) : Nat × Session α := (s.numbered, { s with numbered := s.numbered + 1 })

def spawn (s : Session α) (w : Nat) (task : Task α) : Nat × Session α :=
  let (id, s) := s.number
  (id, { s with
    tasks := s.tasks ++ [⟨id, w, task⟩]
    agenda := s.agenda.wake id })

def task? (s : Session α) (id : Nat) : Option (TaskEntry α) := s.tasks.find? fun t => t.id = id

def setTask (s : Session α) (id : Nat) (task : Task α) : Session α :=
  { s with tasks := s.tasks.map fun t => if t.id = id then { t with task } else t }

def endTask (s : Session α) (id : Nat) : Session α :=
  { s with
    tasks := s.tasks.filter fun t => t.id ≠ id
    agenda := (s.agenda.rest id).dropTimers (.task id) }

def wakeTask (s : Session α) (task : Option Nat) : Session α :=
  match task with
  | some id => { s with agenda := s.agenda.wake id }
  | none => s

def signal (s : Session α) (w : Nat) (kind : SaveKind) (signal : Signal Nat) : Session α :=
  match s.workspaces[w]? with
  | none => s
  | some workspace =>
    let (task, autosaver) := workspace.autosaver.signal kind signal
    (s.changeWorkspace w fun workspace => { workspace with autosaver }).wakeTask task

def announce (s : Session α) (w : Nat) : Session α :=
  match s.workspaces[w]? with
  | none => s
  | some workspace =>
    let (announced, store) := workspace.store.collect
    (workspace.autosaver.triggers announced).foldl (fun s kind => s.signal w kind .trigger)
      (s.changeWorkspace w fun workspace => { workspace with store })

/-- A store in the place of a workspace's store; what it announces becomes triggers. -/
def putStore (s : Session α) (w : Nat) (store : Store α) : Session α :=
  (s.changeWorkspace w fun workspace => { workspace with store }).announce w

def workbench? (s : Session α) (w : Nat) : Option (Workbench α) :=
  s.workspaces[w]?.map fun workspace => ⟨s.now, workspace.store, s.metrics, s.issued⟩

def putWorkbench (s : Session α) (w : Nat) (b : Workbench α) : Session α :=
  { s with
    metrics := b.metrics
    issued := b.issued }.putStore w b.store

def count (s : Session α) (metric : Metric) : Session α :=
  { s with metrics := s.metrics.count metric }

def measure (s : Session α) (queue : JobQueue) : Session α :=
  { s with
    metrics := (s.metrics.set .jobsRunning queue.running).set .jobsPending queue.pending.length }

end Plain

variable {α : Type} [Scalar α]

def startJobs (s : Session α) (w : Nat) (settings : Settings α) (jobs : List Job) : Session α :=
  jobs.foldl
    (fun s job =>
      let assignment : Assignment α :=
        ⟨job, s.services.offered, settings.streamTimeout, settings.retry⟩
      (s.spawn w (.job assignment .placing)).2)
    s

def putQueue (s : Session α) (w : Nat) (drained : JobQueue × List Job) : Session α :=
  match s.workspaces[w]? with
  | none => s
  | some workspace =>
    ((s.changeWorkspace w fun workspace => { workspace with queue := drained.1 }).measure
      drained.1).startJobs w workspace.settings drained.2

def isSaving {α : Type} (w : Nat) (t : TaskEntry α) : Bool :=
  match t.task with
  | .saver _ (some _) => t.workspace = w
  | .saver _ none | .job .. | .follower .. => false

def reap {α : Type} (s : Session α) (w : Nat) : Session α :=
  match s.workspaces[w]? with
  | none => s
  | some workspace =>
    if workspace.held || workspace.queue.running ≠ 0 || s.tasks.any (isSaving w) ||
        workspace.autosaver.isClosed then s
    else
      let (sceneTask, autosaver) := workspace.autosaver.close .scene
      let (viewTask, autosaver) := autosaver.close .view
      ((s.changeWorkspace w fun workspace => { workspace with autosaver }).wakeTask
        sceneTask).wakeTask viewTask

end Session

end PromptCanvas
