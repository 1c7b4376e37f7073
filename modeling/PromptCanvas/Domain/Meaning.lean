import PromptCanvas.Domain.Meaning.Table
import PromptCanvas.Text.Composition

set_option autoImplicit false
set_option relaxedAutoImplicit false

namespace PromptCanvas.Domain

inductive Meaning where
  | refused
  | moved (distance : Int)
  | paired
  | text (points : List Nat)
  deriving Repr, DecidableEq

namespace Meaning

def read : List Char → Meaning
  | ['!'] => refused
  | ['~'] => paired
  | '+' :: digits => moved (Text.hexNumeral digits)
  | '-' :: digits => moved (-(Text.hexNumeral digits))
  | [] => text []
  | points => text ((Text.parts ',' points).map Text.hexNumeral)

def table : Text.CharTable Meaning := .ofLines read lines

/-- What a code point stands for by the meaning of its span, unless it is refused. -/
def replacement? (span : Text.Span Meaning) (point : Nat) : Option (List Nat) :=
  match span.value with
  | refused => none
  | moved distance => some [(point + distance).toNat]
  | paired => some [if (point - span.first) % 2 = 0 then point + 1 else point]
  | text points => some points

end Meaning

def charMeaning? (c : Char) : Option (List Char) :=
  match Meaning.table.span? c.toNat with
  | none => some [c]
  | some span => (Meaning.replacement? span c.toNat).map fun points => points.map Char.ofNat

/-- Whether a character cannot stand in a domain although it stands for itself: white space,
controls, and the signs by which addresses are parted. -/
def isBarred (c : Char) : Bool :=
  c.toNat ≤ 0x20 || c.toNat = 0x7F || c ∈ "%#/:<>?@[\\]^|".toList

/-- What a text stands for, unless part of it cannot stand in a domain. -/
def meaning? (cs : List Char) : Option (List Char) :=
  match cs.mapM charMeaning? with
  | none => none
  | some parts =>
    let text := Text.compose parts.flatten
    if text.any isBarred then none else some text

end PromptCanvas.Domain
