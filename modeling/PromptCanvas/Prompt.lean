import PromptCanvas.Prompt.Directive
import PromptCanvas.Prompt.Reference

set_option autoImplicit false
set_option relaxedAutoImplicit false

namespace PromptCanvas

/-- A prompt in its parts. -/
structure Prompt where
  displayText : String
  /-- The text without size directives, its words joined by single spaces. -/
  requestText : String
  size : Option Size
  references : List Nat
  deriving Repr, DecidableEq

/-- Reads a prompt.  Text in which nothing but directives, references and white space stands is
empty. -/
def Prompt.parse (text : String) : Except CanvasError Prompt :=
  match Directive.extract text.toList with
  | .error e => .error e
  | .ok (stripped, size) =>
    if Reference.hasWords stripped then
      .ok
        { displayText := text
          requestText := String.ofList (Text.collapse stripped)
          size
          references := Reference.ids stripped }
    else .error .emptyPrompt

end PromptCanvas
