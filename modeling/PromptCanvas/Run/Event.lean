import PromptCanvas.Asset
import PromptCanvas.Store

set_option autoImplicit false
set_option relaxedAutoImplicit false

namespace PromptCanvas

open Json

/-- A result of a run, with the key of the element that it is meant for, where that is said. -/
inductive RunEvent where
  | imageDone (asset : Asset) (target : Option String)
  | imageError (message : String) (target : Option String)
  deriving Repr, DecidableEq

/-- What the delivery of a result did. -/
inductive Applied where
  | done
  | error
  /-- Nothing changed: the element is gone, or not waiting, or not meant. -/
  | ignored
  deriving Repr, DecidableEq

namespace RunEvent

def defaultFailure : String := "generation failed"

def target : RunEvent → Option String
  | imageDone _ target | imageError _ target => target

variable {α : Type}

def doneReader : FieldReader α RunEvent := do
  let asset ← required "asset" Asset.ofJson?
  let target ← optional "targetKey" text?
  pure (.imageDone asset target)

def errorReader : FieldReader α RunEvent := do
  let message ← optional "message" text?
  let target ← optional "targetKey" text?
  pure (.imageError (message.getD defaultFailure) target)

/-- Reads a payload of a result stream; a payload of another kind is no result. -/
def ofJson? (json : Json α) : Option RunEvent :=
  let payload := (json.get? "payload").getD .null
  match (json.get? "type").bind text? with
  | some "imageDone" => record? doneReader payload
  | some "imageError" => record? errorReader payload
  | _ => none

def concerns (event : RunEvent) (key : Key) : Bool := event.target.all (· = key.text)

def deliver [Scalar α] (event : RunEvent) (image : Image α) : Image α :=
  match event with
  | imageDone asset _ =>
    { image with
      src := asset.url
      status := .done
      assetId := some asset.id
      contentHash := some asset.contentHash
      naturalW := asset.width.map Scalar.ofNat
      naturalH := asset.height.map Scalar.ofNat
      syncStatus := some .synced
      syncError := none
      errorMessage := none
      runId := none }
  | imageError message _ =>
    { image with
      status := .error
      errorMessage := some message
      runId := none }

def effect : RunEvent → Applied
  | imageDone .. => .done
  | imageError .. => .error

/-- What a result does to an element as it is found when the result is written. -/
def settle [Scalar α] (event : RunEvent) (e : Element α) : Applied × Element α :=
  if e.isRunning then (event.effect, e.mapImage event.deliver) else (.ignored, e)

end RunEvent

namespace Store

variable {α : Type} [Scalar α]

def deliver (s : Store α) (key : Key) (event : RunEvent) : Applied × Store α :=
  if event.concerns key && s.scene.isRunning key then
    match s.scene.get? key, s.updateElement key fun e => (event.settle e).2 with
    | some e, .ok s => ((event.settle e).1, s)
    | _, _ => (.ignored, s)
  else (.ignored, s)

def fail (s : Store α) (key : Key) (message : String) : Applied × Store α :=
  s.deliver key (.imageError message none)

end Store

end PromptCanvas
