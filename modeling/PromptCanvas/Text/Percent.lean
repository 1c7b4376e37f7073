import PromptCanvas.Text.Utf8

set_option autoImplicit false
set_option relaxedAutoImplicit false

namespace PromptCanvas.Text

def upperHexDigit (n : Nat) : Char := if n < 10 then Char.ofNat (48 + n) else Char.ofNat (55 + n)

def hexValue? (c : Char) : Option Nat :=
  if '0' ≤ c ∧ c ≤ '9' then some (c.toNat - 48)
  else if 'a' ≤ c ∧ c ≤ 'f' then some (c.toNat - 87)
  else if 'A' ≤ c ∧ c ≤ 'F' then some (c.toNat - 55)
  else none

def percentByte (b : UInt8) : List Char :=
  ['%', upperHexDigit (b.toNat / 16), upperHexDigit (b.toNat % 16)]

/-- Whether a character is a control or lies outside ASCII, so that it is always encoded. -/
def isUnprintable (c : Char) : Bool := c.toNat < 0x20 || 0x7F ≤ c.toNat

def percentChar (reserved : Char → Bool) (c : Char) : List Char :=
  if isUnprintable c || reserved c then (encodeUtf8 (String.ofList [c])).flatMap percentByte
  else [c]

/-- The text with the characters of a set, controls, and all outside ASCII in percent form. -/
def percentEncode (reserved : Char → Bool) (cs : List Char) : List Char :=
  cs.flatMap (percentChar reserved)

/-- The bytes of a text with its percent forms resolved; a percent sign that starts none stands for
itself. -/
def percentDecode : List Char → List UInt8
  | '%' :: a :: b :: rest =>
    match hexValue? a, hexValue? b with
    | some high, some low => UInt8.ofNat (16 * high + low) :: percentDecode rest
    | _, _ => 0x25 :: percentDecode (a :: b :: rest)
  | c :: rest => encodeUtf8 (String.ofList [c]) ++ percentDecode rest
  | [] => []

end PromptCanvas.Text
