import PromptCanvas.Job
import PromptCanvas.Process.Follow
import PromptCanvas.Process.Save
import PromptCanvas.Settings

/-!
The work of a generation job.

The job turns its seed into a placeholder, or places a new one.  It makes sure that every reference
is stored remotely, saves the scene so that the placeholder is known, starts the run, and follows
it.  A failure on the way is shown on the placeholder.
-/

set_option autoImplicit false
set_option relaxedAutoImplicit false

namespace PromptCanvas

/-- Which services there are besides the one that keeps the scene. -/
structure Offered where
  generation : Bool
  assets : Bool
  plan : Bool
  deriving Repr, DecidableEq

/-- A job, and the terms on which it works. -/
structure Assignment (α : Type) where
  job : Job
  offered : Offered
  timeout : Nat
  retry : RetryPolicy α
  deriving Repr, DecidableEq

/-- How far a job is.  `left` are the references still to be looked at, and `hashes` those of the
references already stored. -/
inductive JobStage (α : Type) where
  | placing
  | referencing (target : Key) (left : List Key) (hashes : List String)
  | uploading (target reference : Key) (source : UploadSource) (left : List Key)
    (hashes : List String)
  | saving (target : Key) (hashes : List String) (save : SaveStage α)
  | requesting (target : Key) (hashes : List String)
  | acknowledged (target : Key) (reply : Except ServiceError RunHandle) (wake : Nat)
  | following (target : Key) (runId : String) (follow : FollowStage α)
  | concluding (target : Key) (applied : Applied)

inductive ReferenceNeed where
  | nothing
  | stored (hash : String)
  | upload (source : UploadSource)
  deriving Repr, DecidableEq

namespace Assignment

def followed {α : Type} (a : Assignment α) (target : Key) (runId : String) : Followed :=
  ⟨target, runId, a.timeout⟩

end Assignment

namespace JobStage

section Plain

variable {α : Type}

def ask (a : Assignment α) : JobStage α → Ask α
  | placing | referencing .. | concluding .. => .go
  | uploading _ _ source _ _ => .upload source
  | saving _ _ save => save.ask
  | requesting target hashes =>
    .createRun (RunRequest.ofReferences a.job.requestText target a.job.size hashes)
  | acknowledged _ _ wake => .rest [wake]
  | following target runId follow => follow.ask (a.followed target runId)

def placeholder (job : Job) : Content α := .image (Image.placeholder job.displayText)

def convert (job : Job) (e : Element α) : Element α :=
  match e.content with
  | .generator _ => { e with content := placeholder job }
  | .image _ | .shape .. | .text .. => e

/-- Turns a seed into the placeholder, and says whether it was a generator. -/
def convertSeed (job : Job) (store : Store α) (seed : Key) : Bool × Store α :=
  match store.scene.get? seed, store.updateElement seed (convert job) with
  | some e, .ok store => (e.content.generator?.isSome, store)
  | _, _ => (false, store)

def need (hasAssets : Bool) (image : Option (Image α)) : ReferenceNeed :=
  match image with
  | none => .nothing
  | some image =>
    if image.isPersisted then
      match image.contentHash with
      | some hash => .stored hash
      | none => .nothing
    else if image.src ≠ "" && hasAssets then .upload (UploadSource.ofSrc image.src)
    else .nothing

def withSync (status : SyncStatus) (error : Option String) (image : Image α) : Image α :=
  { image with
    syncStatus := some status
    syncError := error }

def status (store : Store α) (target : Key) : Applied → JobStatus
  | .done => .done
  | .error =>
    .failed (((store.scene.image? target).bind Image.errorMessage).getD RunEvent.defaultFailure)
  | .ignored => .failed "target is no longer waiting for a result"

end Plain

variable {α : Type} [Scalar α]

/-- An uploaded image; its natural size is taken over where it is not known. -/
def uploaded (asset : Asset) (image : Image α) : Image α :=
  { image with
    assetId := some asset.id
    contentHash := some asset.contentHash
    syncStatus := some .synced
    syncError := none
    naturalW := if image.naturalW.isNone then asset.width.map Scalar.ofNat else image.naturalW
    naturalH := if image.naturalW.isNone then asset.height.map Scalar.ofNat else image.naturalH }

def placeNew (job : Job) (b : Workbench α) : Except CanvasError Key × Workbench α :=
  let (name, b) := b.issue
  let key : Key := ⟨name⟩
  match
    b.store.insertPlaced key (placeholder job) (Scalar.ofNat job.size.w) (Scalar.ofNat job.size.h)
      none with
  | .ok store => (.ok key, { b with store })
  | .error e => (.error e, b)

/-- Chooses the element of a job: the seed, if it is still a generator, else a new one. -/
def place (job : Job) (b : Workbench α) : Except CanvasError Key × Workbench α :=
  match job.seed with
  | none => placeNew job b
  | some seed =>
    match convertSeed job b.store seed with
    | (true, store) => (.ok seed, { b with store })
    | (false, store) => placeNew job { b with store }

def giveUp (b : Workbench α) (target : Key) (message : String) : JobStage α × Workbench α :=
  let (applied, b) := b.fail target message
  (concluding target applied, b)

def nextReference (a : Assignment α) (b : Workbench α) (target : Key) (hashes : List String) :
    List Key → JobStage α × Workbench α
  | [] => (saving target hashes (.opening .scene), b)
  | reference :: left =>
    match need a.offered.assets (b.store.scene.image? reference) with
    | .nothing => (referencing target left hashes, b)
    | .stored hash => (referencing target left (hashes ++ [hash]), b)
    | .upload source =>
      (uploading target reference source left hashes,
        b.changeImage reference (withSync .pending none))

def uploadEnded (b : Workbench α) (target reference : Key) (left : List Key)
    (hashes : List String) : Except ServiceError Asset → JobStage α × Workbench α
  | .ok asset =>
    (referencing target left (hashes ++ [asset.contentHash]),
      (b.count (.uploads true)).changeImage reference (uploaded asset))
  | .error e =>
    giveUp ((b.count (.uploads false)).changeImage reference (withSync .failed (some e.message)))
      target ("reference upload failed: " ++ e.message)

def saved (a : Assignment α) (b : Workbench α) (target : Key) (hashes : List String) :
    JobStage α × Workbench α :=
  if a.offered.generation then (requesting target hashes, b)
  else giveUp b target "no generation backend available"

/-- An image that notes the run which works for it, while it waits for one. -/
def noteRun (runId : String) (image : Image α) : Image α :=
  if image.status = .running then { image with runId := some runId } else image

def runStarted (b : Workbench α) (target : Key) : Except ServiceError RunHandle →
    JobStage α × Workbench α
  | .ok handle =>
    match handle.usableId? with
    | some runId => (following target runId .subscribing, b.changeImage target (noteRun runId))
    | none => giveUp b target "backend returned no run id"
  | .error e => giveUp b target ("generation request failed: " ++ e.message)

def resume (a : Assignment α) (b : Workbench α) :
    (stage : JobStage α) → (stage.ask a).Answer →
      Progress (JobStage α) JobOutcome × Workbench α
  | placing, _ =>
    match place a.job b with
    | (.ok target, b) => (.more (referencing target a.job.references []), b)
    | (.error e, b) => (.done ⟨none, .failed e.message, a.job.size⟩, b)
  | referencing target left hashes, _ =>
    let (stage, b) := nextReference a b target hashes left
    (.more stage, b)
  | uploading target reference _ left hashes, reply =>
    let (stage, b) := uploadEnded b target reference left hashes reply
    (.more stage, b)
  | saving target hashes save, reply =>
    match save.resume a.retry b reply with
    | (.more save, b) => (.more (saving target hashes save), b)
    | (.done _, b) =>
      let (stage, b) := saved a b target hashes
      (.more stage, b)
  | requesting target _, reply => (.more (acknowledged target reply.value (b.now + reply.delay)), b)
  | acknowledged target reply _, _ =>
    let (stage, b) := runStarted b target reply
    (.more stage, b)
  | following target runId follow, reply =>
    match follow.resume (a.followed target runId) b reply with
    | (.more follow, b) => (.more (following target runId follow), b)
    | (.done applied, b) => (.more (concluding target applied), b)
  | concluding target applied, _ =>
    (.done ⟨some target, status b.store target applied, a.job.size⟩, b)

end JobStage

end PromptCanvas
