import PromptCanvas.Autosave
import PromptCanvas.Job.Submission
import PromptCanvas.Process.Generate

set_option autoImplicit false
set_option relaxedAutoImplicit false

namespace PromptCanvas

/-- What opening a workspace found. -/
structure LoadReport where
  elements : Nat
  missingAssets : Nat
  /-- The number of finished images that nothing durable was saved of. -/
  localOnlyImages : Nat
  rebuilt : Bool
  resumed : Nat
  interrupted : Nat
  deriving Repr, DecidableEq

/-- A workspace as it is opened: its store, the runs to follow, and the report. -/
structure Opened (α : Type) where
  store : Store α
  followed : List Followed
  report : LoadReport
  deriving Repr, DecidableEq

/-- An open workspace. -/
structure Workspace (α : Type) where
  settings : Settings α
  store : Store α
  queue : JobQueue
  autosaver : Autosaver
  /-- The tasks that follow runs taken up again and were not waited for. -/
  followers : List Nat
  held : Bool
  deriving Repr, DecidableEq

namespace Workspace

section Plain

variable {α : Type}

/-- An image that waits for a result, with the id of its run, where it is known. -/
def waitingImage? (e : Element α) : Option (Key × Option String) :=
  if e.isRunning then
    e.image?.map fun image => (e.key, image.runId.filter fun id => id ≠ "")
  else none

def waitingImages (scene : Scene α) : List (Key × Option String) :=
  scene.elements.filterMap waitingImage?

def followedRuns (timeout : Nat) (waiting : List (Key × Option String)) : List Followed :=
  waiting.filterMap fun (key, runId) => runId.map fun id => ⟨key, id, timeout⟩

def interruptedKeys (waiting : List (Key × Option String)) : List Key :=
  waiting.filterMap fun (key, runId) => if runId.isNone then some key else none

def interruptedMessage : String := "interrupted before the run started"

end Plain

variable {α : Type} [Scalar α]

def defaultViewW : α := 1280.0

def defaultViewH : α := 800.0

def restored (loaded : LoadedScene α) (assets : List Asset) : Restored α :=
  match loaded.document with
  | some stored => Document.restoreValue stored (Catalog.ofList assets)
  | none => Document.nothingSaved

def freshStore (scene : Scene α) (view : Option (ViewState α)) : Store α :=
  let store := (Store.ofCanvas (Canvas.ofSize defaultViewW defaultViewH)).replaceScene scene
  match view with
  | none => store
  | some view =>
    (store.apply fun canvas =>
      let (moved, viewport) := canvas.viewport.hydrate view
      (.ofViewport moved, { canvas with viewport })).2

def interrupt (store : Store α) (keys : List Key) : Store α :=
  keys.foldl (fun store key => (store.fail key interruptedMessage).2) store

def load (settings : Settings α) (hasGeneration : Bool) (loaded : LoadedScene α)
    (assets : List Asset) : Opened α :=
  let restored := restored loaded assets
  let store := (freshStore restored.scene loaded.view).collect.2
  let waiting := waitingImages store.scene
  let followed := if hasGeneration then followedRuns settings.streamTimeout waiting else []
  let interrupted := interruptedKeys waiting
  { store := interrupt store interrupted
    followed
    report :=
      { elements := restored.scene.size
        missingAssets := restored.missingAssets
        localOnlyImages := restored.localOnlyImages
        rebuilt := restored.rebuilt
        resumed := followed.length
        interrupted := interrupted.length } }

end Workspace

end PromptCanvas
