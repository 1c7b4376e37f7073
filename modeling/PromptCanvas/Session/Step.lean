import PromptCanvas.Session.Answer

/-!
The single steps of the tasks and calls of a session.

A step either goes on or leaves the party waiting; the truth value says which.  Waiting again
changes nothing that matters, so a party may be asked at any time whether it can go on.
-/

set_option autoImplicit false
set_option relaxedAutoImplicit false

namespace PromptCanvas.Session

variable {α : Type} [Scalar α]

/-- Lets a process of a workspace go on: its new stage or its result, unless it has to wait. -/
def drive {σ ρ : Type} (s : Session α) (w : Nat) (party : Party) (ask : Ask α)
    (resume : Workbench α → ask.Answer → Progress σ ρ × Workbench α) :
    Option (Progress σ ρ) × Session α :=
  match s.answer w party ask with
  | (none, s) => (none, s)
  | (some reply, s) =>
    match s.workbench? w with
    | none => (none, s)
    | some b =>
      let (progress, b) := resume b reply
      (some progress, s.putWorkbench w b)

def finishJob (s : Session α) (id w : Nat) (job : Job) (outcome : JobOutcome) : Session α :=
  let s := s.count (.jobsFinished (outcome.status = .done))
  let s := match s.workspaces[w]? with
    | none => s
    | some workspace => s.putQueue w (workspace.queue.release job)
  ({ s with
    jobs := s.jobs.modify job.number fun entry => { entry with outcome := some outcome } }.endTask
      id).reap w

def stepJob (s : Session α) (id w : Nat) (a : Assignment α) (stage : JobStage α) :
    Bool × Session α :=
  match s.drive w (.task id) (stage.ask a) fun b reply => stage.resume a b reply with
  | (none, s) => (false, s)
  | (some (.more stage), s) => (true, s.setTask id (.job a stage))
  | (some (.done outcome), s) => (true, s.finishJob id w a.job outcome)

def stepFollower (s : Session α) (id w : Nat) (f : Followed) (stage : FollowStage α) :
    Bool × Session α :=
  match s.drive w (.task id) (stage.ask f) fun b reply => stage.resume f b reply with
  | (none, s) => (false, s)
  | (some (.more stage), s) => (true, s.setTask id (.follower f stage))
  | (some (.done _), s) => (true, s.endTask id)

def putDebouncer {α : Type} (s : Session α) (w : Nat) (kind : SaveKind)
    (debouncer : Debouncer Nat) : Session α :=
  s.changeWorkspace w fun workspace =>
    { workspace with
      autosaver :=
        workspace.autosaver.setOutlet kind
          { workspace.autosaver.outlet kind with debouncer } }

/-- Lets the next signal wake the task of a debouncer, and the deadline, too. -/
def listen {α : Type} (s : Session α) (id w : Nat) (kind : SaveKind) (debouncer : Debouncer Nat) :
    Session α :=
  let s := s.changeWorkspace w fun workspace =>
    { workspace with
      autosaver :=
        workspace.autosaver.setOutlet kind
          { workspace.autosaver.outlet kind with listening := true } }
  { s with agenda := s.agenda.setTimers (.task id) debouncer.deadline.toList }

/-- A step of a waiting debouncer.  A run saves, unless nobody uses the workspace any more. -/
def stepDebouncer {α : Type} (s : Session α) (id w : Nat) (kind : SaveKind) : Bool × Session α :=
  match s.workspaces[w]? with
  | none => (false, s)
  | some workspace =>
    let debouncer := (workspace.autosaver.outlet kind).debouncer
    match debouncer.advance? s.now with
    | none => (false, s.listen id w kind debouncer)
    | some debouncer =>
      let s := { s with agenda := s.agenda.dropTimers (.task id) }
      if debouncer.isStopped then (true, (s.putDebouncer w kind debouncer).endTask id)
      else if debouncer.isRunning then
        if debouncer.closed then (true, s.putDebouncer w kind debouncer.finishRun)
        else
          (true, (s.putDebouncer w kind debouncer).setTask id (.saver kind (some (.opening kind))))
      else (true, s.putDebouncer w kind debouncer)

def finishSaving {α : Type} (s : Session α) (id w : Nat) (kind : SaveKind) : Session α :=
  match s.workspaces[w]? with
  | none => s
  | some workspace =>
    ((s.putDebouncer w kind (workspace.autosaver.outlet kind).debouncer.finishRun).setTask id
      (.saver kind none)).reap w

def retryPolicy (s : Session α) (w : Nat) : RetryPolicy α :=
  (s.workspaces[w]?.map fun workspace => workspace.settings.retry).getD RetryPolicy.standard

def stepSaving (s : Session α) (id w : Nat) (kind : SaveKind) (stage : SaveStage α) :
    Bool × Session α :=
  let policy := s.retryPolicy w
  match s.drive w (.task id) stage.ask fun b reply => stage.resume policy b reply with
  | (none, s) => (false, s)
  | (some (.more stage), s) => (true, s.setTask id (.saver kind (some stage)))
  | (some (.done _), s) => (true, s.finishSaving id w kind)

def stepTask (s : Session α) (t : TaskEntry α) : Bool × Session α :=
  match t.task with
  | .job assignment stage => s.stepJob t.id t.workspace assignment stage
  | .follower followed stage => s.stepFollower t.id t.workspace followed stage
  | .saver kind none => s.stepDebouncer t.id t.workspace kind
  | .saver kind (some stage) => s.stepSaving t.id t.workspace kind stage

def setCall {α : Type} (s : Session α) (id : Nat) (call : Call α) : Session α :=
  { s with calls := s.calls.map fun entry => if entry.1 = id then (id, call) else entry }

def finishCall {α : Type} (s : Session α) (id : Nat) (result : CallResult) : Session α :=
  { s with
    calls := s.calls.filter fun entry => entry.1 ≠ id
    results := s.results ++ [(id, result)]
    agenda := s.agenda.dropTimers (.call id) }

def stepSave (s : Session α) (id w : Nat) (stage : SaveStage α) : Bool × Session α :=
  let policy := s.retryPolicy w
  match s.drive w (.call id) stage.ask fun b reply => stage.resume policy b reply with
  | (none, s) => (false, s)
  | (some (.more stage), s) => (true, s.setCall id (.save w stage))
  | (some (.done result), s) =>
    match result.report? with
    | some report => (true, s.finishCall id (.saved report))
    | none => (true, s.finishCall id .done)

/-- What follows the flush of a debouncer: that of the other one, or the end. -/
def flushed {α : Type} (s : Session α) (id w : Nat) : SaveKind → Session α
  | .scene => s.setCall id (.flush w .view none)
  | .view => s.finishCall id .done

def stepFlush {α : Type} (s : Session α) (id w : Nat) (kind : SaveKind) (ticket : Option Nat) :
    Bool × Session α :=
  match s.workspaces[w]? with
  | none => (true, s.finishCall id .done)
  | some workspace =>
    let debouncer := (workspace.autosaver.outlet kind).debouncer
    match ticket with
    | none =>
      if debouncer.closed then (true, s.flushed id w kind)
      else
        let (ticket, s) := s.number
        (true, (s.signal w kind (.flush ticket)).setCall id (.flush w kind (some ticket)))
    | some ticket =>
      if ticket ∈ debouncer.acknowledged then (true, s.flushed id w kind) else (false, s)

def acceptJobs (s : Session α) (id w : Nat) (workspace : Workspace α) (admission : Admission)
    (prompts : List String) : Session α :=
  let (store, jobs) := Submission.accept workspace.store admission workspace.settings.defaultSize
    prompts s.jobs.length
  let s := s.putStore w store
  let s := jobs.foldl (fun s _ => s.count .jobsSubmitted) s
  let s := { s with jobs := s.jobs ++ jobs.map fun job => JobEntry.mk job none }
  let s := s.putQueue w (workspace.queue.submit jobs)
  s.finishCall id (.submitted (.ok jobs))

def checkPrompt (s : Session α) (id w : Nat) (workspace : Workspace α) (text : String) :
    Session α :=
  match Submission.check workspace.store.canvas s.services.offered.generation text with
  | .error (reason, e) =>
    (s.count (.jobsRejected reason)).finishCall id (.submitted (.error e))
  | .ok admission =>
    if workspace.settings.directPrompt || !s.services.offered.plan then
      s.acceptJobs id w workspace admission [admission.prompt.requestText]
    else s.setCall id (.submit w text (.planning admission))

def stepSubmit (s : Session α) (id w : Nat) (text : String) (stage : SubmitStage) :
    Bool × Session α :=
  match s.workspaces[w]? with
  | none => (true, s.finishCall id (.submitted (.error .noBackend)))
  | some workspace =>
    match stage with
    | .checking => (true, s.checkPrompt id w workspace text)
    | .planning admission =>
      let reply := s.services.planFor admission.prompt.requestText
      (true, s.setCall id (.submit w text (.planned admission reply.value (s.now + reply.delay))))
    | .planned admission reply wake =>
      match s.restUntil (.call id) [wake] with
      | (none, s) => (false, s)
      | (some (), s) =>
        match reply with
        | .error e => (true, s.finishCall id (.submitted (.error e)))
        | .ok steps =>
          (true, s.acceptJobs id w workspace admission
            (Submission.plannedPrompts admission.prompt steps))

def outcome? {α : Type} (s : Session α) (number : Nat) : Option JobOutcome :=
  s.jobs[number]?.bind JobEntry.outcome

def stepCall (s : Session α) (id : Nat) : Call α → Bool × Session α
  | .sleep wake =>
    match s.restUntil (.call id) [wake] with
    | (none, s) => (false, s)
    | (some (), s) => (true, s.finishCall id .done)
  | .save w stage => s.stepSave id w stage
  | .flush w kind ticket => s.stepFlush id w kind ticket
  | .submit w text stage => s.stepSubmit id w text stage
  | .awaitJob number =>
    match s.outcome? number with
    | none => (false, s)
    | some outcome => (true, s.finishCall id (.outcome outcome))
  | .awaitTasks tasks =>
    if tasks.any fun task => (s.task? task).isSome then (false, s)
    else (true, s.finishCall id .done)

end PromptCanvas.Session
