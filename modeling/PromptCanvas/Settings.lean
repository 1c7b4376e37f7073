import PromptCanvas.Retry
import PromptCanvas.Size

set_option autoImplicit false
set_option relaxedAutoImplicit false

namespace PromptCanvas

/-- How a workspace is reached, saved and worked on. -/
structure Settings (α : Type) where
  apiBaseUrl : String
  workspace : String
  token : Option String
  maxConcurrency : Nat
  autosaveQuiet : Nat
  /-- The least time between the starts of two saves of the scene. -/
  autosaveSpacing : Nat
  viewQuiet : Nat
  directPrompt : Bool
  defaultSize : Size
  streamTimeout : Nat
  retry : RetryPolicy α
  deriving Repr, DecidableEq

namespace Settings

def standard {α : Type} [Scalar α] : Settings α :=
  { apiBaseUrl := "http://localhost:8080"
    workspace := "default"
    token := none
    maxConcurrency := 3
    autosaveQuiet := 1200
    autosaveSpacing := 2500
    viewQuiet := 600
    directPrompt := true
    defaultSize := Size.standard
    streamTimeout := 600000
    retry := RetryPolicy.standard }

end Settings

end PromptCanvas
