import PromptCanvas.Domain.Direction
import PromptCanvas.Domain.Joiner
import PromptCanvas.Domain.Meaning
import PromptCanvas.Text.Punycode

set_option autoImplicit false
set_option relaxedAutoImplicit false

namespace PromptCanvas.Domain

def marker : List Char := "xn--".toList

def maxWritten : Nat := 1000

def maxRead : Nat := 2000

def isAscii (cs : List Char) : Bool := cs.all fun c => c.toNat < 0x80

/-- The text that a label stands for, which is another one if the label is marked. -/
def labelText? (label : List Char) : Option (List Char) :=
  if marker.isPrefixOf label then
    let digits := label.drop marker.length
    if maxRead < digits.length then none
    else
      (Text.Punycode.decode? digits).filter fun text => !isAscii text && meaning? text = some text
  else some label

/-- Whether the text of a label may stand as it is: it does not begin with a mark, its joiners are
where they belong, and it is not too long to be written. -/
def isWellFormed (label : List Char) : Bool :=
  !label.head?.any Text.isMark && Joiner.allAllowed label &&
    (isAscii label || label.length ≤ maxWritten)

def asciiLabel (label : List Char) : List Char :=
  if isAscii label then label else marker ++ Text.Punycode.encode label

def ascii? (cs : List Char) : Option (List Char) := do
  let text ← meaning? cs
  let labels ← (Text.parts '.' text).mapM labelText?
  if labels.all isWellFormed && Direction.agree labels then
    some (['.'].intercalate (labels.map asciiLabel))
  else none

end PromptCanvas.Domain
