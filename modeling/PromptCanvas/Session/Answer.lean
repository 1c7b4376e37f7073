import PromptCanvas.Session.Basic

set_option autoImplicit false
set_option relaxedAutoImplicit false

namespace PromptCanvas.Session

variable {α : Type}

def requestLock (s : Session α) (w : Nat) (party : Party) : Option Unit × Session α :=
  match s.workspaces[w]? with
  | none => (none, s)
  | some workspace =>
    let (granted, lock) := workspace.autosaver.lock.request party
    (if granted then some () else none,
      s.changeWorkspace w fun workspace =>
        { workspace with autosaver := { workspace.autosaver with lock } })

def releaseLock (s : Session α) (w : Nat) : Session α :=
  match s.workspaces[w]? with
  | none => s
  | some workspace =>
    let lock := workspace.autosaver.lock.release
    (s.changeWorkspace w fun workspace =>
      { workspace with autosaver := { workspace.autosaver with lock } }).wakeTask
        (lock.holder.bind Agenda.taskOf?)

def restUntil (s : Session α) (party : Party) (wakes : List Nat) : Option Unit × Session α :=
  if wakes.any (· ≤ s.now) then (some (), s)
  else (none, { s with agenda := s.agenda.setTimers party wakes })

def workspaceName (s : Session α) (w : Nat) : String :=
  (s.workspaces[w]?.map fun workspace => workspace.settings.workspace).getD ""

def answer [Scalar α] (s : Session α) (w : Nat) (party : Party) :
    (ask : Ask α) → Option ask.Answer × Session α
  | .go => (some (), s)
  | .lock => s.requestLock w party
  | .unlock => (some (), s.releaseLock w)
  | .rest wakes => s.restUntil party wakes
  | .upload source =>
    let (reply, memory) := s.services.memory.upload source
    (some reply, { s with services := { s.services with memory } })
  | .saveScene snapshot =>
    let (reply, services) := s.services.saveScene snapshot
    (some reply, { s with services })
  | .saveView view key =>
    let (reply, services) := s.services.saveView view key
    (some reply, { s with services })
  | .createRun request =>
    let (reply, services) := s.services.createRun (s.workspaceName w) request
    (some reply, { s with services })
  | .subscribe runId =>
    let (reply, services) := s.services.subscribe runId
    (some reply, { s with services })
  | .next stream =>
    let (reply, memory) := s.services.memory.next stream.counted stream.cues
    (some reply, { s with services := { s.services with memory } })
  | .leave stream =>
    (some (), { s with services := { s.services with memory := s.services.memory.leave stream } })

end PromptCanvas.Session
