import PromptCanvas.Geometry

set_option autoImplicit false
set_option relaxedAutoImplicit false

namespace PromptCanvas

inductive PointerPhase where
  | down
  | move
  | up
  | cancel
  deriving Repr, DecidableEq

/-- The modifiers held during an event. -/
structure Modifiers where
  additive : Bool
  freeAspect : Bool
  zoom : Bool
  hand : Bool
  deriving Repr, DecidableEq

def Modifiers.none : Modifiers := ⟨false, false, false, false⟩

inductive Command where
  | deleteSelected
  | clearSelection
  | moveUp
  | moveDown
  | bringToFront
  | sendToBack
  deriving Repr, DecidableEq

/-- Anything the canvas can be told by its user. -/
inductive InputEvent (α : Type) where
  | pointer (phase : PointerPhase) (position : Point α) (modifiers : Modifiers)
  | wheel (position delta : Point α) (modifiers : Modifiers)
  | command (command : Command)
  deriving Repr, DecidableEq

end PromptCanvas
