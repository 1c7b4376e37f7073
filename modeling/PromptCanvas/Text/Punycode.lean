set_option autoImplicit false
set_option relaxedAutoImplicit false

namespace PromptCanvas.Text.Punycode

def limit : Nat := 0xffffffff

def digitChar (d : Nat) : Char :=
  if d < 26 then Char.ofNat (0x61 + d) else Char.ofNat (0x30 + d - 26)

/-- The threshold of the digit at position `k`, which is a multiple of 36. -/
def threshold (k bias : Nat) : Nat :=
  if k ≤ bias + 1 then 1 else if bias + 26 ≤ k then 26 else k - bias

/-- A delta brought below the limit of adaptation, and the positions skipped for it. -/
def shrink (delta k : Nat) : Nat × Nat :=
  if 455 < delta then shrink (delta / 35) (k + 36) else (delta, k)
termination_by delta
decreasing_by omega

/-- The bias behind a delta, when `count` characters have been written. -/
def adapt (delta count : Nat) (first : Bool) : Nat :=
  let damped := if first then delta / 700 else delta / 2
  let (delta, k) := shrink (damped + damped / count) 0
  k + 36 * delta / (delta + 38)

private theorem threshold_bounds (k bias : Nat) :
    1 ≤ threshold k bias ∧ threshold k bias ≤ 26 := by
  unfold threshold
  split
  · omega
  · split <;> omega

def digitsFrom (bias k q : Nat) : List Char :=
  let t := threshold k bias
  if q < t then [digitChar q]
  else digitChar (t + (q - t) % (36 - t)) :: digitsFrom bias (k + 36) ((q - t) / (36 - t))
termination_by q
decreasing_by
  have bounds := threshold_bounds k bias
  have le : (q - threshold k bias) / (36 - threshold k bias) ≤ q - threshold k bias :=
    Nat.div_le_self _ _
  omega

/-- What is known while the characters of one code point are written. -/
structure Progress where
  delta : Nat
  bias : Nat
  handled : Nat
  written : List Char

/-- Passes a character while `point` is being written; `basic` counts the ASCII characters. -/
def passChar (basic point : Nat) (p : Progress) (c : Char) : Progress :=
  if c.toNat < point then { p with delta := p.delta + 1 }
  else if c.toNat = point then
    { delta := 0
      bias := adapt p.delta (p.handled + 1) (p.handled = basic)
      handled := p.handled + 1
      written := p.written ++ digitsFrom p.bias 36 p.delta }
  else p

/-- The code points of a label outside ASCII, ascending and each once. -/
def points (label : List Char) : List Nat :=
  ((label.map Char.toNat).filter (0x80 ≤ ·)).mergeSort.eraseDups

/-- Writes the characters of each code point in turn; `first` is the first not passed. -/
def encodeFrom (label : List Char) (basic : Nat) : List Nat → Nat → Progress → List Char
  | [], _, p => p.written
  | point :: rest, first, p =>
    let p := { p with delta := p.delta + (point - first) * (p.handled + 1) }
    let p := label.foldl (passChar basic point) p
    encodeFrom label basic rest (point + 1) { p with delta := p.delta + 1 }

/-- A label outside ASCII in ASCII letters, without the prefix that marks it. -/
def encode (label : List Char) : List Char :=
  let basic := label.filter fun c => c.toNat < 0x80
  let start : Progress := ⟨0, 72, basic.length, if basic.isEmpty then [] else basic ++ ['-']⟩
  encodeFrom label basic.length (points label) 0x80 start

/-! ### Reading -/

def digitValue? (c : Char) : Option Nat :=
  if c.isAlpha then some (c.toLower.toNat - 0x61)
  else if c.isDigit then some (c.toNat - 0x30 + 26)
  else none

structure Decoding where
  text : List Char
  point : Nat
  /-- The place where it is put in, as far as the digits have been read. -/
  place : Nat
  bias : Nat
  start : Nat
  /-- The position of the next digit in its number, and what it counts there. -/
  position : Nat
  weight : Nat

def Decoding.fresh (text : List Char) (point place bias : Nat) : Decoding :=
  { text, point, place, bias, start := place, position := 36, weight := 1 }

def Decoding.isComplete (d : Decoding) : Bool := d.position = 36

def Decoding.putIn (d : Decoding) (place : Nat) : Option Decoding :=
  let count := d.text.length + 1
  let point := d.point + place / count
  if point.isValidChar then
    some <| .fresh (d.text.insertIdx (place % count) (Char.ofNat point)) point (place % count + 1)
      (adapt (place - d.start) count (d.start = 0))
  else none

def Decoding.readDigit (d : Decoding) (c : Char) : Option Decoding :=
  match digitValue? c with
  | none => none
  | some digit =>
    let place := d.place + digit * d.weight
    let t := threshold d.position d.bias
    let weight := d.weight * (36 - t)
    if limit < place then none
    else if digit < t then d.putIn place
    else if limit < weight then none
    else some { d with place, position := d.position + 36, weight }

/-- The characters before the last hyphen, and the digits behind it; a hyphen at the beginning is
taken for a digit. -/
def splitBasic (cs : List Char) : List Char × List Char :=
  let digits := (cs.reverse.takeWhile (· ≠ '-')).reverse
  let basic := cs.take (cs.length - digits.length - 1)
  if basic.isEmpty then ([], cs) else (basic, digits)

def decode? (cs : List Char) : Option (List Char) :=
  let (basic, digits) := splitBasic cs
  if basic.all fun c => c.toNat < 0x80 then
    ((digits.foldlM Decoding.readDigit (.fresh basic 0x80 0 72)).filter
      Decoding.isComplete).map Decoding.text
  else none

example : decode? "mnchen-3ya".toList = some "münchen".toList := by decide +kernel

example : decode? "abc-".toList = some "abc".toList ∧ decode? "-abc".toList = none := by
  decide +kernel

end PromptCanvas.Text.Punycode
