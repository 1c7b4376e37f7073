import PromptCanvas.Process

set_option autoImplicit false
set_option relaxedAutoImplicit false

namespace PromptCanvas

/-- Which run is followed for which element, and for how long. -/
structure Followed where
  key : Key
  runId : String
  timeout : Nat
  deriving Repr, DecidableEq

/-- How far following is. -/
inductive FollowStage (α : Type) where
  | subscribing
  /-- The stream was asked for; this is the answer, which comes when `wake` is reached. -/
  | connecting (reply : Except ServiceError (RunStream α)) (wake deadline : Nat)
  | reading (stream : RunStream α) (deadline : Nat)
  | pausing (stream : RunStream α) (wake deadline : Nat)
  | leaving (stream : RunStream α) (applied : Applied)

namespace FollowStage

variable {α : Type}

def ask (f : Followed) : FollowStage α → Ask α
  | subscribing => .subscribe f.runId
  | connecting _ wake deadline => .rest [wake, deadline]
  | reading stream _ => .next stream
  | pausing _ wake deadline => .rest [wake, deadline]
  | leaving stream _ => .leave stream

variable [Scalar α]

def giveUp (f : Followed) (b : Workbench α) (message : String) : Applied × Workbench α :=
  b.fail f.key message

/-- What a payload does: a result, unless the stream is to be read on. -/
def payload (f : Followed) (b : Workbench α) (json : Json α) : Option Applied × Workbench α :=
  match RunEvent.ofJson? json with
  | none => (none, b.count (.payloadsDropped .unknown))
  | some event =>
    match b.deliver f.key event with
    | (.ignored, b) =>
      let b := b.count (.payloadsDropped .stale)
      (if b.store.scene.isRunning f.key then none else some .ignored, b)
    | (applied, b) => (some applied, b)

/-- What something that arrived does: a result, unless the stream is to be read on. -/
def item (f : Followed) (b : Workbench α) : Except ServiceError (Json α) →
    Option Applied × Workbench α
  | .ok json => payload f b json
  | .error e =>
    let (applied, b) := giveUp f b ("result stream failed: " ++ e.message)
    (some applied, b)

def connected (f : Followed) (b : Workbench α) (deadline : Nat) :
    Except ServiceError (RunStream α) → Progress (FollowStage α) Applied × Workbench α
  | .ok stream => (.more (reading stream deadline), b)
  | .error e =>
    let (applied, b) := giveUp f b ("result stream unavailable: " ++ e.message)
    (.done applied, b)

def resume (f : Followed) (b : Workbench α) :
    (stage : FollowStage α) → (stage.ask f).Answer →
      Progress (FollowStage α) Applied × Workbench α
  | subscribing, reply =>
    (.more (connecting reply.value (b.now + reply.delay) (b.now + f.timeout)), b)
  | connecting reply wake deadline, _ =>
    if wake ≤ b.now then connected f b deadline reply
    else
      let (applied, b) := giveUp f b "timed out waiting for result"
      (.done applied, b)
  | reading _ deadline, .item result rest =>
    match item f b result with
    | (none, b) => (.more (reading rest deadline), b)
    | (some applied, b) => (.more (leaving rest applied), b)
  | reading _ deadline, .pause duration rest =>
    (.more (pausing rest (b.now + duration) deadline), b)
  | reading _ _, .ended =>
    let (applied, b) := giveUp f b "result stream ended"
    (.done applied, b)
  | pausing stream wake deadline, _ =>
    if wake ≤ b.now then (.more (reading stream deadline), b)
    else
      let (applied, b) := giveUp f b "timed out waiting for result"
      (.more (leaving stream applied), b)
  | leaving _ applied, _ => (.done applied, b)

end FollowStage

end PromptCanvas
