import PromptCanvas.Asset
import PromptCanvas.Document
import PromptCanvas.Viewport
import PromptCanvas.Service.Error

set_option autoImplicit false
set_option relaxedAutoImplicit false

namespace PromptCanvas

open Json

/-- What an asset store is to keep: bytes that are sent along, or a place to fetch them from. -/
inductive UploadSource where
  | dataUri (text : String)
  | url (text : String)
  deriving Repr, DecidableEq

def UploadSource.ofSrc (src : String) : UploadSource :=
  if hasScheme "data:" src then .dataUri src else .url src

structure RunRequest where
  prompt : String
  targetKey : String
  size : String
  referenceHash : Option String
  referenceHashes : List String
  deriving Repr, DecidableEq

namespace RunRequest

variable {α : Type}

def optionalMember (name : String) : Option (Json α) → List (String × Json α)
  | none => []
  | some value => [(name, value)]

def toJson (r : RunRequest) : Json α :=
  .obj ([("prompt", .str r.prompt), ("targetKey", .str r.targetKey), ("size", .str r.size)] ++
    optionalMember "referenceContentHash" (r.referenceHash.map .str) ++
    optionalMember "referenceContentHashes"
      (if r.referenceHashes.isEmpty then none else some (.arr (r.referenceHashes.map .str))))

def ofReferences (prompt : String) (target : Key) (size : Size) (hashes : List String) :
    RunRequest :=
  { prompt
    targetKey := target.text
    size := size.text
    referenceHash := hashes.head?
    referenceHashes := hashes }

end RunRequest

structure RunHandle where
  runId : Option String
  deriving Repr, DecidableEq

def RunHandle.ofJson? {α : Type} : Json α → Option RunHandle :=
  once ["runId"] (record? do pure ⟨← optional "runId" text?⟩)

/-- The id that a result can be asked for with: one that is not blank. -/
def RunHandle.usableId? (handle : RunHandle) : Option String :=
  handle.runId.filter fun id => !(Text.trim id.toList).isEmpty

/-- One prompt of a plan. -/
structure PlanStep where
  prompt : String
  deriving Repr, DecidableEq

def PlanStep.ofJson? {α : Type} : Json α → Option PlanStep :=
  once ["prompt"] (record? do pure ⟨← required "prompt" text?⟩)

/-- A workspace as it is stored: whatever was saved as its scene, and its view. -/
structure LoadedScene (α : Type) where
  document : Option (Json α)
  view : Option (ViewState α)

namespace LoadedScene

def nothing {α : Type} : LoadedScene α := ⟨none, none⟩

def ofJson? {α : Type} [Scalar α] : Json α → Option (LoadedScene α) :=
  once ["document", "viewport"] (record? do
    let document ← optional "document" any?
    let view ← optional "viewport" (once ["zoom", "x", "y"] ViewState.ofJson?)
    pure { document, view })

end LoadedScene

end PromptCanvas
