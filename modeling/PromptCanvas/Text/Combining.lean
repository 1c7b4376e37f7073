import PromptCanvas.Text.Combining.Table

set_option autoImplicit false
set_option relaxedAutoImplicit false

namespace PromptCanvas.Text

def combiningTable : CharTable Nat :=
  .ofLines numeralValue Combining.classLines

def combiningClass (c : Char) : Nat := (combiningTable.get? c.toNat).getD 0

def viramaClass : Nat := 9

/-- Whether a character takes the vowel away from the consonant before it. -/
def isVirama (c : Char) : Bool := combiningClass c = viramaClass

def markTable : CharTable Unit := .ofLines (fun _ => ()) Combining.markLines

/-- Whether a character is a mark, which belongs to the character before it. -/
def isMark (c : Char) : Bool := (markTable.get? c.toNat).isSome

end PromptCanvas.Text
