import PromptCanvas.Error
import PromptCanvas.Text.Blank
import PromptCanvas.Text.Numeral

set_option autoImplicit false
set_option relaxedAutoImplicit false

namespace PromptCanvas

/-- A width and a height in pixels. -/
structure Size where
  w : Nat
  h : Nat
  deriving Repr, DecidableEq, Inhabited

/-- A size fitted to what can be generated, and what the fitting changed. -/
structure FittedSize where
  size : Size
  sizeAdjusted : Bool
  ratioAdjusted : Bool
  deriving Repr, DecidableEq

namespace Size

def standard : Size := ⟨1024, 1024⟩

def minSide : Nat := 64

def maxSide : Nat := 4096

def grain : Nat := 8

def text (s : Size) : String := toString s.w ++ "x" ++ toString s.h

def isSeparator (c : Char) : Bool := c = 'x' || c = 'X' || c = '×' || c = '*'

/-- One side: a positive 32-bit number, with white space around it allowed. -/
def side? (cs : List Char) : Option Nat :=
  match Text.unsigned? Text.max32 (Text.trim cs) with
  | some 0 => none
  | side => side

/-- The size written by trimmed text: two sides around the first separator. -/
def ofTrimmed? (cs : List Char) : Option Size :=
  match cs.dropWhile fun c => !isSeparator c with
  | [] => none
  | _ :: after =>
    match side? (cs.takeWhile fun c => !isSeparator c), side? after with
    | some w, some h => some ⟨w, h⟩
    | _, _ => none

def parse (cs : List Char) : Except CanvasError Size :=
  let trimmed := Text.trim cs
  match ofTrimmed? trimmed with
  | some size => .ok size
  | none => .error (.invalidSize (String.ofList trimmed))

def clampSide (side : Nat) : Nat := min (max side minSide) maxSide

/-- A side brought into range and rounded to the grain, a half going up. -/
def fitSide (side : Nat) : Nat := clampSide ((clampSide side + grain / 2) / grain * grain)

def normalized (s : Size) : FittedSize :=
  let size : Size := ⟨fitSide s.w, fitSide s.h⟩
  { size
    sizeAdjusted := size ≠ s
    ratioAdjusted := size.w * s.h ≠ s.w * size.h }

example : (parse " 640 × 480 ".toList).toOption = some ⟨640, 480⟩ := by decide

example : (parse "640x".toList).toOption = none := by decide

example : normalized ⟨1000, 3⟩ = ⟨⟨1000, 64⟩, true, true⟩ := by decide

end Size

end PromptCanvas
