import PromptCanvas.Domain.Direction.Table
import PromptCanvas.Text.CharTable

set_option autoImplicit false
set_option relaxedAutoImplicit false

namespace PromptCanvas.Domain

inductive Direction where
  | left
  | right
  | europeanNumber
  | arabicNumber
  | mark
  | neutral
  deriving Repr, DecidableEq

namespace Direction

def read : List Char → Direction
  | ['R'] => right
  | ['E'] => europeanNumber
  | ['A'] => arabicNumber
  | ['M'] => mark
  | ['N'] => neutral
  | _ => left

/-- The directions of the characters that do not run from left to right. -/
def table : Text.CharTable Direction := .ofLines read lines

def ofChar (c : Char) : Direction := (table.get? c.toNat).getD left

/-- Whether a direction makes a domain one with text from right to left. -/
def isRightward (d : Direction) : Bool := d = right || d = arabicNumber

def last? (directions : List Direction) : Option Direction :=
  directions.reverse.find? (· ≠ mark)

/-- Whether the rest of a label that begins from left to right keeps this direction. -/
def keepsLeft (rest : List Direction) : Bool :=
  rest.all (fun d => d ≠ right && d ≠ arabicNumber) &&
    (last? rest).all fun d => d = left || d = europeanNumber

/-- Whether the rest of a label that begins from right to left keeps this direction.  Its numbers
are of one kind. -/
def keepsRight (rest : List Direction) : Bool :=
  rest.all (· ≠ left) && (last? rest).all (fun d => d ≠ neutral) &&
    !(europeanNumber ∈ rest && arabicNumber ∈ rest)

/-- Whether a label keeps the direction in which its first character runs. -/
def keeps (label : List Char) : Bool :=
  match label.map ofChar with
  | [] => true
  | left :: rest => keepsLeft rest
  | right :: rest => keepsRight rest
  | _ :: _ => false

def agree (labels : List (List Char)) : Bool :=
  labels.all keeps || labels.all fun label => !label.any fun c => isRightward (ofChar c)

end Direction

end PromptCanvas.Domain
