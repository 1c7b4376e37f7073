import PromptCanvas.Error

set_option autoImplicit false
set_option relaxedAutoImplicit false

namespace PromptCanvas

/-- Why a service gave no answer, or work with it could not begin. -/
inductive ServiceError where
  | canvas (error : CanvasError)
  | noBackend
  | invalidUrl (reason : String)
  | transport (reason : String)
  | unreadable (reason : String)
  | refused (code message : String)
  | unavailable (reason : String)
  | unexpectedResponse (reason : String)
  deriving Repr, DecidableEq

namespace ServiceError

def message : ServiceError → String
  | canvas error => error.message
  | noBackend => "No generation backend available"
  | invalidUrl reason => "Invalid API URL: " ++ reason
  | transport reason => "HTTP request failed: " ++ reason
  | unreadable reason => "Failed to parse payload: " ++ reason
  | refused code message => "API error " ++ code ++ ": " ++ message
  | unavailable reason => "Service unavailable: " ++ reason
  | unexpectedResponse reason => "Unexpected response: " ++ reason

def isRetryable : ServiceError → Bool
  | transport _ | unavailable _ => true
  | canvas _ | noBackend | invalidUrl _ | unreadable _ | refused .. | unexpectedResponse _ => false

/-- Whether the error lies in what was typed, so that it is shown beside the prompt. -/
def isInput : ServiceError → Bool
  | canvas error => error.isInput
  | noBackend => true
  | invalidUrl _ | transport _ | unreadable _ | refused .. | unavailable _
  | unexpectedResponse _ => false

end ServiceError

end PromptCanvas
