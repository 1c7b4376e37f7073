import PromptCanvas.Scene
import PromptCanvas.Element.Json

set_option autoImplicit false
set_option relaxedAutoImplicit false

namespace PromptCanvas.Scene

open Json

variable {α : Type} [Scalar α]

def reader : FieldReader α (Scene α) := do
  let elements ← required "elements" (list? Element.ofJson?)
  let refCounter ← required "nextRefId" nat32?
  pure { elements, refCounter }

def ofJson? : Json α → Option (Scene α) := record? reader

def toJson (s : Scene α) : Json α :=
  .obj [("elements", .arr (s.elements.map Element.toJson)), ("nextRefId", .ofNat s.refCounter)]

end PromptCanvas.Scene
