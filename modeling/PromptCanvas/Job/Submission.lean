import PromptCanvas.Job
import PromptCanvas.Metrics
import PromptCanvas.Prompt
import PromptCanvas.Service.Exchange
import PromptCanvas.Settings
import PromptCanvas.Store

set_option autoImplicit false
set_option relaxedAutoImplicit false

namespace PromptCanvas

/-- What a prompt works with: its references, and the element that it is to fill. -/
structure Target where
  references : List Key
  seed : Option Key
  requestedSize : Option Size
  deriving Repr, DecidableEq

/-- A prompt that was accepted, with what it works with. -/
structure Admission where
  prompt : Prompt
  target : Target
  deriving Repr, DecidableEq

namespace Submission

section Plain

variable {α : Type}

def busyReference? (scene : Scene α) (keys : List Key) : Option Key :=
  keys.find? fun key => scene.isRunning key

/-- What a selected element adds to a target: a generator is filled, and a finished image is a
reference where no other is given. -/
def withSelected (target : Target) (e : Element α) : Target :=
  match e.content with
  | .generator g => { target with seed := some e.key, requestedSize := g.requestedSize }
  | .image image =>
    if image.status = .done && target.references.isEmpty then
      { target with references := [e.key] }
    else target
  | .shape .. | .text .. => target

/-- The only selected element, if there is exactly one and it is in the scene. -/
def selected? (canvas : Canvas α) : Option (Element α) :=
  canvas.selection.single?.bind canvas.scene.get?

/-- What a prompt works with.  References must exist, and neither they nor the selected element
may be waiting for a result. -/
def resolveTarget (canvas : Canvas α) (references : List Nat) : Except CanvasError Target :=
  match Reference.resolve canvas.scene references with
  | .error e => .error e
  | .ok keys =>
    match busyReference? canvas.scene keys with
    | some key => .error (.targetBusy key)
    | none =>
      let target : Target := ⟨keys, none, none⟩
      match selected? canvas with
      | none => .ok target
      | some e => if e.isRunning then .error (.targetBusy e.key) else .ok (withSelected target e)

/-- Checks a prompt; the error comes with the reason under which it is counted. -/
def check (canvas : Canvas α) (hasGeneration : Bool) (text : String) :
    Except (Rejection × ServiceError) Admission :=
  if hasGeneration then
    match Prompt.parse text with
    | .error e => .error (.invalidPrompt, .canvas e)
    | .ok prompt =>
      match resolveTarget canvas prompt.references with
      | .error e => .error (.invalidTarget, .canvas e)
      | .ok target => .ok ⟨prompt, target⟩
  else .error (.noBackend, .noBackend)

end Plain

/-- The prompts of a plan: the steps that say something, or the request itself if none does. -/
def plannedPrompts (prompt : Prompt) (steps : List PlanStep) : List String :=
  let prompts := (steps.map fun step => Text.trim step.prompt.toList).filter fun p => !p.isEmpty
  if prompts.isEmpty then [prompt.requestText] else prompts.map String.ofList

def requestedSize (admission : Admission) (fallback : Size) : Size :=
  (admission.prompt.size.or admission.target.requestedSize).getD fallback

def noteSize {α : Type} (fitted : FittedSize) (e : Element α) : Element α :=
  match e.content with
  | .generator g =>
    { e with
      content := .generator
        { g with
          effectiveSize := some fitted.size
          sizeAdjusted := fitted.sizeAdjusted
          ratioAdjusted := fitted.ratioAdjusted } }
  | .image _ | .shape .. | .text .. => e

def recordSize {α : Type} (store : Store α) (seed : Option Key) (fitted : FittedSize) : Store α :=
  match seed with
  | none => store
  | some key => (store.updateElement key (noteSize fitted)).toOption.getD store

/-- The jobs for the prompts of an accepted submission, numbered from `first` on. -/
def jobs (admission : Admission) (size : Size) (prompts : List String) (first : Nat) : List Job :=
  prompts.mapIdx fun place text =>
    { number := first + place
      displayText := if prompts.length = 1 then admission.prompt.displayText else text
      requestText := text
      references := admission.target.references
      seed := if place = 0 then admission.target.seed else none
      size }

/-- Accepts a submission with the prompts planned for it: the store with the size noted, and the
jobs. -/
def accept {α : Type} (store : Store α) (admission : Admission) (fallback : Size)
    (prompts : List String) (first : Nat) : Store α × List Job :=
  let fitted := (requestedSize admission fallback).normalized
  (recordSize store admission.target.seed fitted, jobs admission fitted.size prompts first)

end Submission

end PromptCanvas
