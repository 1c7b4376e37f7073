set_option autoImplicit false
set_option relaxedAutoImplicit false

namespace PromptCanvas

/-- The name of an element, unique in its scene and kept for the element's lifetime. -/
structure Key where
  text : String
  deriving Repr, DecidableEq, Hashable, Inhabited

/-- Why an operation on the canvas failed. -/
inductive CanvasError where
  | elementNotFound (key : Key)
  | duplicateKey (key : Key)
  | emptyPrompt
  | unresolvedReference (id : Nat)
  | invalidSize (text : String)
  | targetBusy (key : Key)
  deriving Repr, DecidableEq

namespace CanvasError

def message : CanvasError → String
  | elementNotFound key => "Element not found: " ++ key.text
  | duplicateKey key => "Duplicate element key: " ++ key.text
  | emptyPrompt => "Prompt is empty"
  | unresolvedReference id => "Unresolved image reference: @img" ++ toString id
  | invalidSize text => "Invalid size: " ++ text
  | targetBusy key => "Target is busy: " ++ key.text

/-- Whether the error lies in what was typed, so that it is shown beside the prompt. -/
def isInput : CanvasError → Bool
  | elementNotFound _ | duplicateKey _ => false
  | emptyPrompt | unresolvedReference _ | invalidSize _ | targetBusy _ => true

end CanvasError

end PromptCanvas
