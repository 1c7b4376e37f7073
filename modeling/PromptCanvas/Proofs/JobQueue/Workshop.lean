import Mathlib.Data.List.Nodup
import PromptCanvas.Process.Generate
import PromptCanvas.Proofs.JobQueue.Drain
import PromptCanvas.Proofs.Submission

set_option autoImplicit false
set_option relaxedAutoImplicit false

namespace PromptCanvas

/-- A job at work, and the element that it has chosen. -/
structure Worker where
  job : Job
  target : Option Key
  deriving Repr, DecidableEq

/-- A queue and the history of its jobs. -/
structure Workshop where
  queue : JobQueue
  accepted : List Job
  started : List Job
  workers : List Worker
  /-- The outcomes of jobs that have left and are still to deliver them. -/
  undelivered : List (Job × JobOutcome)
  delivered : List (Job × JobOutcome)
  minted : List Key
  /-- The drains that submissions and leaving jobs have still to make. -/
  owed : Nat
  deriving Repr, DecidableEq

namespace Worker

def ofJob (job : Job) : Worker := ⟨job, none⟩

def minted? (worker : Worker) : Option Key :=
  if worker.target = worker.job.seed then none else worker.target

end Worker

namespace Workshop

def ofLimit (limit : Nat) : Workshop := ⟨JobQueue.ofLimit limit, [], [], [], [], [], [], 0⟩

def working (w : Workshop) : List Job := w.workers.map Worker.job

def released (w : Workshop) : List Job := (w.undelivered ++ w.delivered).map Prod.fst

def seeds (w : Workshop) : List Key := w.working.filterMap Job.seed

def targets (w : Workshop) : List Key := w.workers.filterMap Worker.target

def push (w : Workshop) (jobs : List Job) : Workshop :=
  { w with
    queue := w.queue.push jobs
    accepted := w.accepted ++ jobs
    owed := w.owed + 1 }

def begin (w : Workshop) (queue : JobQueue) (jobs : List Job) : Workshop :=
  { w with
    queue
    started := w.started ++ jobs
    workers := w.workers ++ jobs.map Worker.ofJob }

def drain (w : Workshop) : Workshop :=
  { w.begin w.queue.drain.1 w.queue.drain.2 with owed := w.owed - 1 }

/-- A job between `before` and `after` has chosen its element. -/
def place (w : Workshop) (before : List Worker) (worker : Worker) (after : List Worker)
    (key : Key) : Workshop :=
  { w with
    workers := before ++ { worker with target := some key } :: after
    minted := if worker.job.seed = some key then w.minted else w.minted ++ [key] }

/-- A job between `before` and `after` leaves with an outcome. -/
def vacate (w : Workshop) (before : List Worker) (worker : Worker) (after : List Worker)
    (outcome : JobOutcome) : Workshop :=
  { w with
    queue := w.queue.vacate worker.job
    workers := before ++ after
    undelivered := w.undelivered ++ [(worker.job, outcome)]
    owed := w.owed + 1 }

/-- The outcome between `before` and `after` is delivered. -/
def deliver (w : Workshop) (before : List (Job × JobOutcome)) (parcel : Job × JobOutcome)
    (after : List (Job × JobOutcome)) : Workshop :=
  { w with
    undelivered := before ++ after
    delivered := w.delivered ++ [parcel] }

/-- One step of one party.  New jobs bring numbers of their own.  What a job finds when it chooses
its element, and how it ends, is up to the world around it. -/
inductive Step (α : Type) [Scalar α] : Workshop → Workshop → Prop
  | push {w : Workshop} (jobs : List Job) :
      ((w.accepted ++ jobs).map Job.number).Nodup → Step α w (w.push jobs)
  | drain (w : Workshop) : Step α w w.drain
  | place {w : Workshop} {before after : List Worker} {worker : Worker} {key : Key}
      (b : Workbench α) :
      w.workers = before ++ worker :: after → worker.target = none →
      (JobStage.place worker.job b).1 = .ok key → Step α w (w.place before worker after key)
  | vacate {w : Workshop} {before after : List Worker} {worker : Worker} (outcome : JobOutcome) :
      w.workers = before ++ worker :: after → Step α w (w.vacate before worker after outcome)
  | deliver {w : Workshop} {before after : List (Job × JobOutcome)} {parcel : Job × JobOutcome} :
      w.undelivered = before ++ parcel :: after → Step α w (w.deliver before parcel after)

/-- A workshop that comes about by steps in some order. -/
inductive Reachable (α : Type) [Scalar α] (limit : Nat) : Workshop → Prop
  | start : Reachable α limit (ofLimit limit)
  | step {w w' : Workshop} : Reachable α limit w → Step α w w' → Reachable α limit w'

/-- The names of new elements are new: none was handed out before, and none is that of a seed.  A
seed is a generator that was there before its job, and what a job places is none. -/
def NewNames (w : Workshop) : Prop :=
  w.minted.Nodup ∧ ∀ key ∈ w.minted, ∀ job ∈ w.accepted, job.seed ≠ some key

theorem step_push_jobs {α : Type} [Scalar α] {w : Workshop} {first : Nat}
    (nodup : (w.accepted.map Job.number).Nodup) (below : ∀ job ∈ w.accepted, job.number < first)
    (admission : Admission) (size : Size) (prompts : List String) :
    Step α w (w.push (Submission.jobs admission size prompts first)) := by
  apply Step.push
  rw [List.map_append, Submission.map_number_jobs, List.nodup_append']
  refine ⟨nodup, List.nodup_range', ?_⟩
  intro number old new
  obtain ⟨job, mem, rfl⟩ := List.mem_map.mp old
  have lower := below job mem
  have upper := (List.mem_range'_1.mp new).1
  omega

theorem drain_push (w : Workshop) (jobs : List Job) :
    (w.push jobs).drain.queue = (w.queue.submit jobs).1 ∧
      (w.push jobs).drain.started = w.started ++ (w.queue.submit jobs).2 :=
  ⟨rfl, rfl⟩

theorem drain_vacate (w : Workshop) (before : List Worker) (worker : Worker) (after : List Worker)
    (outcome : JobOutcome) :
    (w.vacate before worker after outcome).drain.queue = (w.queue.release worker.job).1 ∧
      (w.vacate before worker after outcome).drain.started =
        w.started ++ (w.queue.release worker.job).2 :=
  ⟨rfl, rfl⟩

theorem begin_induction {P : Workshop → Prop} {w : Workshop} {jobs : List Job} {q : JobQueue}
    (chain : w.queue.Starts jobs q)
    (single : ∀ {v : Workshop} {job : Job} {q : JobQueue},
      P v → v.queue.startNext? = some (job, q) → P (v.begin q [job]))
    (holds : P w) : P (w.begin q jobs) := by
  obtain ⟨queue, eq⟩ : ∃ queue, queue = w.queue := ⟨_, rfl⟩
  rw [← eq] at chain
  induction chain generalizing w with
  | none => simpa [begin, eq] using holds
  | @next q q₁ q₂ job started next _ ih =>
    subst eq
    have later := ih (single holds next) rfl
    simpa [begin] using later

/-- Three jobs of two submissions: the first two ask for the same element, the last for none. -/
def threeJobs : List Job :=
  [⟨0, "fox", "fox", [], some ⟨"seed"⟩, Size.standard⟩,
    ⟨1, "owl", "owl", [], some ⟨"seed"⟩, Size.standard⟩,
    ⟨2, "elk", "elk", [], none, Size.standard⟩]

def threeInLine : Workshop := (ofLimit 2).push threeJobs

theorem reachable_threeInLine (α : Type) [Scalar α] : Reachable α 2 threeInLine :=
  .step .start (.push threeJobs (by decide))

theorem reachable_threeInLine_drain (α : Type) [Scalar α] : Reachable α 2 threeInLine.drain :=
  .step (reachable_threeInLine α) (.drain threeInLine)

end Workshop

end PromptCanvas
