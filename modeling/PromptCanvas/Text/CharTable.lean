import PromptCanvas.Text.Blank
import PromptCanvas.Text.Percent

set_option autoImplicit false
set_option relaxedAutoImplicit false

namespace PromptCanvas.Text

/-- Neighbouring code points, and what is said of each of them. -/
structure Span (β : Type) where
  first : Nat
  last : Nat
  value : β
  deriving Repr, DecidableEq

/-- Spans in ascending order, no two of which share a code point. -/
structure CharTable (β : Type) where
  spans : Array (Span β)

variable {β : Type}

def hexNumeral (digits : List Char) : Nat :=
  digits.foldl (fun value c => 16 * value + (hexValue? c).getD 0) 0

def cut (sign : Char) (cs : List Char) : List Char × List Char :=
  (cs.takeWhile (· ≠ sign), (cs.dropWhile (· ≠ sign)).drop 1)

def Span.ofEntry (read : List Char → β) (entry : List Char) : Span β :=
  let (points, value) := cut '=' entry
  let (first, last) := cut '-' points
  ⟨hexNumeral first, hexNumeral (if last.isEmpty then first else last), read value⟩

namespace CharTable

/-- Reads the lines of a table, in which the entries are parted by spaces. -/
def ofLines (read : List Char → β) (lines : List String) : CharTable β :=
  ⟨(lines.flatMap fun line => (parts ' ' line.toList).map (Span.ofEntry read)).toArray⟩

/-- The span of a code point among those from place `low` to before place `high`. -/
def searchFrom (t : CharTable β) (point low high : Nat) : Option (Span β) :=
  if low < high then
    let middle := (low + high) / 2
    match t.spans[middle]? with
    | none => none
    | some span =>
      if point < span.first then searchFrom t point low middle
      else if span.last < point then searchFrom t point (middle + 1) high
      else some span
  else none
termination_by high - low

def span? (t : CharTable β) (point : Nat) : Option (Span β) := t.searchFrom point 0 t.spans.size

def get? (t : CharTable β) (point : Nat) : Option β := (t.span? point).map Span.value

end CharTable

end PromptCanvas.Text
