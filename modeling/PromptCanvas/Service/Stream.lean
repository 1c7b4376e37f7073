import PromptCanvas.Service.Exchange

set_option autoImplicit false
set_option relaxedAutoImplicit false

namespace PromptCanvas

/-- What a result stream does next. -/
inductive Cue (α : Type) where
  | opening
  | pause (duration : Nat)
  | item (result : Except ServiceError (Json α))
  | publish (asset : Asset) (payload : Json α)

/-- A result stream: what it still does. -/
structure RunStream (α : Type) where
  cues : List (Cue α)
  counted : Bool

inductive StreamStep (α : Type) where
  | item (result : Except ServiceError (Json α)) (rest : RunStream α)
  | pause (duration : Nat) (rest : RunStream α)
  | ended

def RunStream.ofCues {α : Type} (cues : List (Cue α)) : RunStream α := ⟨cues, false⟩

/-- A value that is known at once and handed over some milliseconds later. -/
structure Delayed (β : Type) where
  delay : Nat
  value : β
  deriving Repr, DecidableEq

def Delayed.now {β : Type} (value : β) : Delayed β := ⟨0, value⟩

end PromptCanvas
