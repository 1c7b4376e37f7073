import PromptCanvas.Session.Step

set_option autoImplicit false
set_option relaxedAutoImplicit false

namespace PromptCanvas.Session

variable {α : Type} [Scalar α]

/-- Lets a call go on until it has to wait or ends, at most the given number of steps; says whether
it went on at all. -/
def pursue (id : Nat) : Nat → Session α → Bool × Session α
  | 0, s => (false, s)
  | steps + 1, s =>
    match s.calls.lookup id with
    | none => (false, s)
    | some call =>
      match s.stepCall id call with
      | (false, s) => (false, s)
      | (true, s) => (true, (pursue id steps s).2)

def callSteps : Nat := 1000000

/-- Lets every call go on until it has to wait; says whether one went on at all. -/
def pursueAll (s : Session α) : Bool × Session α :=
  s.calls.foldl
    (fun (moved, s) entry =>
      let (went, s) := s.pursue entry.1 callSteps
      (moved || went, s))
    (false, s)

def turn? (s : Session α) : Option (Session α) :=
  match s.agenda.ready with
  | id :: _ =>
    match s.task? id with
    | none => some { s with agenda := s.agenda.rest id }
    | some entry =>
      match s.stepTask entry with
      | (true, s) => some s
      | (false, s) => some { s with agenda := s.agenda.rest id }
  | [] =>
    match s.pursueAll with
    | (true, s) => some s
    | (false, s) => s.agenda.jump?.map fun agenda => { s with agenda }

/-- Lets a session go on until it satisfies a condition, at most the given number of turns. -/
def runUntil (finished : Session α → Bool) : Nat → Session α → Session α
  | 0, s => s
  | turns + 1, s =>
    if finished s then s
    else
      match s.turn? with
      | some s => runUntil finished turns s
      | none => s

def turnLimit : Nat := 1000000000

def call (s : Session α) (work : Call α) : Nat × Session α :=
  let (id, s) := s.number
  (id, (pursue id callSteps { s with calls := s.calls ++ [(id, work)] }).2)

def result? {α : Type} (s : Session α) (id : Nat) : Option CallResult := s.results.lookup id

def waitAny (s : Session α) (ids : List Nat) : Session α :=
  s.runUntil (fun s => ids.any fun id => (s.result? id).isSome) turnLimit

def await (s : Session α) (id : Nat) : Option CallResult × Session α :=
  let s := s.waitAny [id]
  (s.result? id, { s with results := s.results.filter fun entry => entry.1 ≠ id })

def perform (s : Session α) (work : Call α) : Option CallResult × Session α :=
  let (id, s) := s.call work
  s.await id

def leaveWorkspace {α : Type} (s : Session α) : Session α :=
  match s.current with
  | none => s
  | some w =>
    ({ s with current := none }.changeWorkspace w fun workspace =>
      { workspace with held := false }).reap w

def enter (s : Session α) (settings : Settings α) (opened : Opened α) : Session α :=
  let w := s.workspaces.length
  let (sceneTask, s) := s.spawn w (.saver .scene none)
  let (viewTask, s) := s.spawn w (.saver .view none)
  let (followers, s) := opened.followed.foldl
    (fun (ids, s) followed =>
      let (id, s) := s.spawn w (.follower followed .subscribing)
      (ids ++ [id], s))
    ([], s)
  let workspace : Workspace α :=
    { settings
      store := opened.store
      queue := JobQueue.ofLimit settings.maxConcurrency
      autosaver := Autosaver.ofSettings settings sceneTask viewTask
      followers
      held := true }
  { ({ s with workspaces := s.workspaces ++ [workspace] }.announce w).leaveWorkspace with
    current := some w }

def openWorkspace (s : Session α) (settings : Settings α) :
    Except ServiceError LoadReport × Session α :=
  match s.services.memory.load with
  | .error e => (.error e, s)
  | .ok loaded =>
    let opened := Workspace.load settings s.services.offered.generation loaded
      s.services.memory.assets
    (.ok opened.report, s.enter settings opened)

def withStore {β : Type} {α : Type} (s : Session α) (work : Store α → β × Store α) :
    Option (β × Session α) :=
  match s.current, s.workspace? with
  | some w, some workspace =>
    let (result, store) := work workspace.store
    some (result, s.putStore w store)
  | _, _ => none

/-- The runs taken up by the workspace in use that were not waited for yet. -/
def takeFollowers {α : Type} (s : Session α) : List Nat × Session α :=
  match s.current, s.workspace? with
  | some w, some workspace =>
    (workspace.followers, s.changeWorkspace w fun workspace => { workspace with followers := [] })
  | _, _ => ([], s)

end PromptCanvas.Session
