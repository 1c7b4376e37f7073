import PromptCanvas.Text.Combining
import PromptCanvas.Text.Composition.Table

set_option autoImplicit false
set_option relaxedAutoImplicit false

namespace PromptCanvas.Text

/-! ### Syllables -/

/-- The first Korean syllable; the syllables are counted through by their parts. -/
def syllableBase : Nat := 0xAC00

def leadingBase : Nat := 0x1100

def leadingCount : Nat := 19

def vowelBase : Nat := 0x1161

def vowelCount : Nat := 21

def trailingBase : Nat := 0x11A7

/-- How many trailing consonants there are, the missing one among them. -/
def trailingCount : Nat := 28

def syllableCount : Nat := leadingCount * vowelCount * trailingCount

def syllableParts? (c : Char) : Option (List Char) :=
  let place := c.toNat - syllableBase
  if c.toNat < syllableBase ∨ syllableCount ≤ place then none
  else
    let leading := Char.ofNat (leadingBase + place / (vowelCount * trailingCount))
    let vowel := Char.ofNat (vowelBase + place / trailingCount % vowelCount)
    let trailing := place % trailingCount
    some (if trailing = 0 then [leading, vowel]
      else [leading, vowel, Char.ofNat (trailingBase + trailing)])

/-- The syllable of a leading consonant and a vowel, or of a syllable without a trailing consonant
and one. -/
def syllable? (a b : Char) : Option Char :=
  let leading := a.toNat - leadingBase
  let vowel := b.toNat - vowelBase
  let place := a.toNat - syllableBase
  let trailing := b.toNat - trailingBase
  if leadingBase ≤ a.toNat ∧ leading < leadingCount ∧ vowelBase ≤ b.toNat ∧ vowel < vowelCount then
    some (Char.ofNat (syllableBase + (leading * vowelCount + vowel) * trailingCount))
  else if syllableBase ≤ a.toNat ∧ place < syllableCount ∧
      place % trailingCount = 0 ∧ trailingBase < b.toNat ∧ trailing < trailingCount then
    some (Char.ofNat (a.toNat + trailing))
  else none

example : syllable? 'ᄒ' 'ᅡ' = some '하' ∧ syllable? '하' 'ᆫ' = some '한' := by decide

example : syllableParts? '한' = some ['ᄒ', 'ᅡ', 'ᆫ'] := by decide

/-! ### Composites -/

def readPair (value : List Char) : Nat × Nat :=
  let (a, b) := cut ',' value
  (hexNumeral a, hexNumeral b)

def compositeTable : CharTable (Nat × Nat) := .ofLines readPair Composition.lines

def pairKey (pair : Nat × Nat) : Nat := pair.1 * 0x110000 + pair.2

def pairTable : CharTable Nat :=
  ⟨(((compositeTable.spans.toList.map fun span =>
      (⟨pairKey span.value, pairKey span.value, span.first⟩ : Span Nat)).mergeSort
    fun s t => s.first ≤ t.first)).toArray⟩

def composite? (a b : Char) : Option Char :=
  ((pairTable.get? (pairKey (a.toNat, b.toNat))).map Char.ofNat).or (syllable? a b)

/-! ### Taking apart -/

def compositeDepth : Nat := 4

/-- A character taken apart, and its first part again, at most `depth` times. -/
def takenApart : Nat → Char → List Char
  | 0, c => [c]
  | depth + 1, c =>
    match compositeTable.get? c.toNat with
    | some (a, b) => takenApart depth (Char.ofNat a) ++ [Char.ofNat b]
    | none => (syllableParts? c).getD [c]

/-- Puts a character before a text whose marks are in order: behind the marks of lower classes. -/
def putInOrder (c : Char) : List Char → List Char
  | [] => [c]
  | d :: rest =>
    if combiningClass d ≠ 0 ∧ combiningClass d < combiningClass c then d :: putInOrder c rest
    else c :: d :: rest

def decompose (cs : List Char) : List Char :=
  (cs.flatMap (takenApart compositeDepth)).foldr putInOrder []

/-! ### Joining -/

/-- Whether nothing stands between a character and a later one, when `marks` stand between them. -/
def isFree (marks : List Char) (c : Char) : Bool :=
  match marks.getLast? with
  | none => true
  | some mark => combiningClass mark < combiningClass c

/-- Joins a text behind a character, between which the marks stand that could not be joined. -/
def joinFrom (base : Char) (marks : List Char) : List Char → List Char
  | [] => base :: marks
  | c :: rest =>
    match (if isFree marks c then composite? base c else none) with
    | some joined => joinFrom joined marks rest
    | none =>
      if combiningClass c = 0 then base :: marks ++ joinFrom c [] rest
      else joinFrom base (marks ++ [c]) rest

def join : List Char → List Char
  | [] => []
  | c :: rest => if combiningClass c = 0 then joinFrom c [] rest else c :: join rest

def compose (cs : List Char) : List Char := join (decompose cs)

end PromptCanvas.Text
