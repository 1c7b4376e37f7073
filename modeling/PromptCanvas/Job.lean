import PromptCanvas.Error
import PromptCanvas.Size

set_option autoImplicit false
set_option relaxedAutoImplicit false

namespace PromptCanvas

/-- A generation that was asked for. -/
structure Job where
  number : Nat
  displayText : String
  requestText : String
  /-- The elements that serve as references, in the order of their mention. -/
  references : List Key
  seed : Option Key
  size : Size
  deriving Repr, DecidableEq

/-- How a job ended. -/
inductive JobStatus where
  | done
  | failed (message : String)
  deriving Repr, DecidableEq

/-- The result of a job. -/
structure JobOutcome where
  target : Option Key
  status : JobStatus
  size : Size
  deriving Repr, DecidableEq

namespace Job

def primaryReference? (job : Job) : Option Key := job.references.head?

end Job

/-- Jobs that wait, and what is known of those at work. -/
structure JobQueue where
  limit : Nat
  pending : List Job
  running : Nat
  busy : List Key
  deriving Repr, DecidableEq

namespace JobQueue

def ofLimit (limit : Nat) : JobQueue := ⟨max limit 1, [], 0, []⟩

def isFree (busy : List Key) (job : Job) : Bool := job.seed.all fun key => key ∉ busy

def takeFree? (busy : List Key) : List Job → Option (Job × List Job)
  | [] => none
  | job :: rest =>
    if isFree busy job then some (job, rest)
    else (takeFree? busy rest).map fun (found, others) => (found, job :: others)

def startJob (q : JobQueue) (job : Job) (others : List Job) : JobQueue :=
  { q with
    pending := others
    running := q.running + 1
    busy := job.seed.toList ++ q.busy }

/-- The first job that can start now, and the queue in which it has gone to work. -/
def startNext? (q : JobQueue) : Option (Job × JobQueue) :=
  if q.running < q.limit then
    (takeFree? q.busy q.pending).map fun (job, others) => (job, q.startJob job others)
  else none

def drainRounds : Nat → JobQueue → JobQueue × List Job
  | 0, q => (q, [])
  | rounds + 1, q =>
    match q.startNext? with
    | some (job, q) =>
      let (q, started) := drainRounds rounds q
      (q, job :: started)
    | none => (q, [])

/-- Starts the jobs that can start, in the order in which they start. -/
def drain (q : JobQueue) : JobQueue × List Job := drainRounds q.pending.length q

def push (q : JobQueue) (jobs : List Job) : JobQueue := { q with pending := q.pending ++ jobs }

def submit (q : JobQueue) (jobs : List Job) : JobQueue × List Job := (q.push jobs).drain

def vacate (q : JobQueue) (job : Job) : JobQueue :=
  { q with
    running := q.running - 1
    busy := q.busy.filter fun key => job.seed ≠ some key }

/-- Lets a job go that is no longer at work, and starts those that can start now. -/
def release (q : JobQueue) (job : Job) : JobQueue × List Job := (q.vacate job).drain

end JobQueue

end PromptCanvas
