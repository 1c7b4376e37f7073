import PromptCanvas.Process
import PromptCanvas.Document.Json

/-!
Services kept in memory.

Every request is answered at once; only a run takes its time.  Switches make requests fail, and
everything received is written down.
-/

set_option autoImplicit false
set_option relaxedAutoImplicit false

namespace PromptCanvas

structure SaveRecord (α : Type) where
  schemaVersion : Nat
  payload : Json α
  idempotencyKey : String

/-- What the services in memory hold, received, and are told to do. -/
structure Memory (α : Type) where
  latency : Nat
  scene : Option (Json α)
  view : Option (ViewState α)
  assets : List Asset
  /-- The saves of scenes received, oldest first, those that failed included. -/
  saves : List (SaveRecord α)
  viewSaves : List (ViewState α × String)
  uploads : List UploadSource
  runs : List (String × RunRequest)
  failSaves : Nat
  failUploads : Bool
  failLoads : Bool
  omitRunId : Bool
  failingPrompt : Option String
  prelude : List (Json α)
  issued : Nat
  openStreams : Nat
  maxStreams : Nat

namespace Memory

variable {α : Type}

def empty (latency : Nat) : Memory α :=
  { latency
    scene := none
    view := none
    assets := []
    saves := []
    viewSaves := []
    uploads := []
    runs := []
    failSaves := 0
    failUploads := false
    failLoads := false
    omitRunId := false
    failingPrompt := none
    prelude := []
    issued := 0
    openStreams := 0
    maxStreams := 0 }

def issue (m : Memory α) (stem : String) : String × Memory α :=
  let issued := m.issued + 1
  (stem ++ "-" ++ toString issued, { m with issued })

def assetOf (id : String) (size : Option Size) : Asset :=
  { id
    contentHash := "sha-" ++ id
    url := "https://memory.local/assets/" ++ id ++ ".png"
    width := size.map Size.w
    height := size.map Size.h }

def upload (m : Memory α) (source : UploadSource) : Except ServiceError Asset × Memory α :=
  if m.failUploads then (.error (.refused "UPLOAD_FAILED" "upload rejected"), m)
  else
    let (id, m) := m.issue "up"
    let asset := assetOf id none
    (.ok asset,
      { m with
        uploads := m.uploads ++ [source]
        assets := m.assets ++ [asset] })

def deleteAsset (m : Memory α) (id : String) : Memory α :=
  { m with assets := m.assets.filter fun asset => asset.id ≠ id }

def createRun (m : Memory α) (request : RunRequest) : RunHandle × Memory α :=
  let (id, m) := m.issue "run"
  (⟨if m.omitRunId then none else some id⟩, { m with runs := m.runs ++ [(id, request)] })

def occursIn (needle : List Char) : List Char → Bool
  | [] => needle.isEmpty
  | c :: rest => needle.isPrefixOf (c :: rest) || occursIn needle rest

def isFailing (m : Memory α) (request : RunRequest) : Bool :=
  m.failingPrompt.any fun needle => occursIn needle.toList request.prompt.toList

def payload (kind : String) (target : String) (content : String × Json α) : Json α :=
  .obj [("type", .str kind), ("payload", .obj [content, ("targetKey", .str target)])]

def finale (m : Memory α) (assetId : String) (request : RunRequest) : Cue α :=
  if m.isFailing request then
    .item (.ok (payload "imageError" request.targetKey ("message", .str "generation failed")))
  else
    let asset := assetOf assetId
      (some ((Size.parse request.size.toList).toOption.getD Size.standard))
    .publish asset (payload "imageDone" request.targetKey ("asset", asset.toJson))

def subscribe (m : Memory α) (runId : String) : Except ServiceError (RunStream α) × Memory α :=
  match m.runs.lookup runId with
  | none => (.error (.refused "NOT_FOUND" ("run " ++ runId ++ " not found")), m)
  | some request =>
    let (assetId, m) := m.issue "gen"
    (.ok (RunStream.ofCues
      (.opening :: m.prelude.map (fun event => .item (.ok event)) ++
        [.pause m.latency, m.finale assetId request])), m)

def opened (m : Memory α) : Memory α :=
  let openStreams := m.openStreams + 1
  { m with openStreams, maxStreams := max m.maxStreams openStreams }

def leave (m : Memory α) (stream : RunStream α) : Memory α :=
  if stream.counted then { m with openStreams := m.openStreams - 1 } else m

def next (m : Memory α) (counted : Bool) : List (Cue α) → StreamStep α × Memory α
  | [] => (.ended, m.leave ⟨[], counted⟩)
  | .opening :: rest => next m.opened true rest
  | .pause duration :: rest => (.pause duration ⟨rest, counted⟩, m)
  | .item result :: rest => (.item result ⟨rest, counted⟩, m)
  | .publish asset json :: rest =>
    (.item (.ok json) ⟨rest, counted⟩, { m with assets := m.assets ++ [asset] })

def plan (text : String) : List PlanStep :=
  let parts := (Text.parts ';' text.toList).map Text.trim
  (parts.filter fun part => !part.isEmpty).map fun part => PlanStep.mk (String.ofList part)

def load (m : Memory α) : Except ServiceError (LoadedScene α) :=
  if m.failLoads then .error (.unavailable "scene store offline") else .ok ⟨m.scene, m.view⟩

def saveView (m : Memory α) (view : ViewState α) (idempotencyKey : String) : Memory α :=
  { m with
    view := some view
    viewSaves := m.viewSaves ++ [(view, idempotencyKey)] }

def saveScene [Scalar α] (m : Memory α) (snapshot : Snapshot α) :
    Except ServiceError Unit × Memory α :=
  let payload : Json α := snapshot.document.toJson
  let record : SaveRecord α := ⟨snapshot.document.schemaVersion, payload, snapshot.idempotencyKey⟩
  let m : Memory α := { m with saves := m.saves ++ [record] }
  if 0 < m.failSaves then
    (.error (.unavailable "try again"), { m with failSaves := m.failSaves - 1 })
  else (.ok (), { m with scene := some payload })

end Memory

end PromptCanvas
