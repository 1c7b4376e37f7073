set_option autoImplicit false
set_option relaxedAutoImplicit false

namespace PromptCanvas.Text

def replacement : Char := '\ufffd'

/-- How a byte begins a character: how many bytes follow, the bits that it carries, and the range
of the first byte that follows. -/
structure Lead where
  following : Nat
  bits : Nat
  low : Nat
  high : Nat
  deriving Repr, DecidableEq

def lead? (b : Nat) : Option Lead :=
  if b < 0x80 then some ⟨0, b, 0, 0⟩
  else if b < 0xC2 then none
  else if b < 0xE0 then some ⟨1, b - 0xC0, 0x80, 0xBF⟩
  else if b = 0xE0 then some ⟨2, 0, 0xA0, 0xBF⟩
  else if b = 0xED then some ⟨2, 0xD, 0x80, 0x9F⟩
  else if b < 0xF0 then some ⟨2, b - 0xE0, 0x80, 0xBF⟩
  else if b = 0xF0 then some ⟨3, 0, 0x90, 0xBF⟩
  else if b < 0xF4 then some ⟨3, b - 0xF0, 0x80, 0xBF⟩
  else if b = 0xF4 then some ⟨3, 4, 0x80, 0x8F⟩
  else none

/-- Reads the bytes behind the beginning of a character.  `missing` bytes are still to follow, the
next one in the range from `low` to `high`; `bits` holds what was read.  With none missing the
next byte begins a character. -/
def decodeFrom (missing bits low high : Nat) : List UInt8 → List Char
  | [] => if missing = 0 then [] else [replacement]
  | byte :: rest =>
    let b := byte.toNat
    if missing ≠ 0 ∧ low ≤ b ∧ b ≤ high then
      let bits := bits * 0x40 + (b - 0x80)
      if missing = 1 then Char.ofNat bits :: decodeFrom 0 0 0 0 rest
      else decodeFrom (missing - 1) bits 0x80 0xBF rest
    else
      let given := if missing = 0 then [] else [replacement]
      given ++
        match lead? b with
        | none => replacement :: decodeFrom 0 0 0 0 rest
        | some lead =>
          if lead.following = 0 then Char.ofNat lead.bits :: decodeFrom 0 0 0 0 rest
          else decodeFrom lead.following lead.bits lead.low lead.high rest

def decodeUtf8 (bytes : List UInt8) : List Char := decodeFrom 0 0 0 0 bytes

def encodeUtf8 (s : String) : List UInt8 := s.toUTF8.toList

def strictUtf8? (bytes : List UInt8) : Option (List Char) :=
  let text := decodeUtf8 bytes
  if encodeUtf8 (String.ofList text) = bytes then some text else none

example : decodeUtf8 [0x61, 0xC3, 0xA9, 0xF0, 0x9F, 0x8E, 0xA8] = ['a', 'é', '🎨'] := by decide

example : decodeUtf8 [0xFF, 0x41, 0xE2, 0x82] = [replacement, 'A', replacement] := by decide

example : decodeUtf8 [0xE0, 0x80, 0x41] = [replacement, replacement, 'A'] := by decide

end PromptCanvas.Text
