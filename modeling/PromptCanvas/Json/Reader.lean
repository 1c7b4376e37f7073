import PromptCanvas.Json.Value
import PromptCanvas.Text.Numeral
import PromptCanvas.Text.Percent

/-!
Reading JSON text, strictly.

The grammar is that of RFC 8259, with white space around values and nothing behind them.  Beyond
the grammar, a text is refused when a number is too large to be measured, when half of a surrogate
pair stands alone, and when arrays and objects are nested more than `maxDepth` deep.  A number that
is no integer is measured by its leading digits, so the last bit of a long one may be off.
-/

set_option autoImplicit false
set_option relaxedAutoImplicit false

namespace PromptCanvas.Json

def maxDepth : Nat := 127

def isSpace (c : Char) : Bool := c = ' ' || c = '\t' || c = '\n' || c = '\r'

def skipSpace (cs : List Char) : List Char := cs.dropWhile isSpace

def splitDigits (cs : List Char) : List Char × List Char := cs.span Char.isDigit

/-- The significand with as many digits put behind it as leave it within 64 bits, and the digits
that are left over. -/
def extend (significand : Nat) : List Char → Nat × List Char
  | [] => (significand, [])
  | c :: rest =>
    let next := 10 * significand + Text.digitValue c
    if next ≤ Text.max64 then extend next rest else (significand, c :: rest)

example : extend 0 "18446744073709551616".toList = (1844674407370955161, ['6']) := by decide

/-- The largest exponent of a power of ten that is itself a measurement. -/
def maxPower : Nat := 308

def powerOfTen (exponent : Nat) : Float := Float.ofScientific 1 false exponent

/-- A measurement times a power of ten, each step rounded for itself, unless it is too large. -/
def scaled? (x : Float) (exponent : Int) : Option Float :=
  if exponent.natAbs ≤ maxPower then
    if 0 ≤ exponent then
      let y := x * powerOfTen exponent.natAbs
      if y.isInf then none else some y
    else some (x / powerOfTen exponent.natAbs)
  else if x == 0.0 then some x
  else if 0 ≤ exponent then none
  else scaled? (x / powerOfTen maxPower) (exponent + maxPower)
termination_by exponent.natAbs
decreasing_by
  simp only [maxPower] at *
  omega

/-- The measurement written by whole digits, decimals and an exponent: its leading digits as far as
they fit into 64 bits, times a power of ten. -/
def measured? (negative : Bool) (whole decimals : List Char) (exponent : Int) :
    Option (Json Float) :=
  let (significand, excess) := extend 0 whole
  let (significand, unread) := extend significand decimals
  let places : Int := excess.length - (decimals.length - unread.length)
  (scaled? (Float.ofNat significand) (exponent + places)).map fun x =>
    .real (if negative then -x else x)

def wholeNumber? (negative : Bool) (digits : List Char) : Option (Json Float) :=
  let n := Text.numeralValue digits
  if negative then
    if 0 < n ∧ n ≤ 1 <<< 63 then some (.int (-n)) else measured? true digits [] 0
  else if n ≤ Text.max64 then some (.int n)
  else measured? false digits [] 0

/-- The digits behind a decimal point, if there is one, and what follows them. -/
def fraction? : List Char → Option (Option (List Char) × List Char)
  | '.' :: cs =>
    match splitDigits cs with
    | ([], _) => none
    | (digits, rest) => some (some digits, rest)
  | cs => some (none, cs)

def signedExponent? : List Char → Option (Int × List Char)
  | '-' :: cs =>
    match splitDigits cs with
    | ([], _) => none
    | (digits, rest) => some (-(Text.numeralValue digits : Int), rest)
  | '+' :: cs =>
    match splitDigits cs with
    | ([], _) => none
    | (digits, rest) => some (Text.numeralValue digits, rest)
  | cs =>
    match splitDigits cs with
    | ([], _) => none
    | (digits, rest) => some (Text.numeralValue digits, rest)

def exponent? : List Char → Option (Option Int × List Char)
  | 'e' :: cs | 'E' :: cs => (signedExponent? cs).map fun (e, rest) => (some e, rest)
  | cs => some (none, cs)

/-- The digits before the decimal point: zero alone, or digits that do not start with zero. -/
def wholeDigits? (cs : List Char) : Option (List Char × List Char) :=
  match splitDigits cs with
  | ([], _) => none
  | (['0'], rest) => some (['0'], rest)
  | ('0' :: _, _) => none
  | (digits, rest) => some (digits, rest)

def unsignedNumber? (negative : Bool) (cs : List Char) : Option (Json Float × List Char) := do
  let (whole, rest) ← wholeDigits? cs
  let (fraction, rest) ← fraction? rest
  let (exponent, rest) ← exponent? rest
  let json ← match fraction, exponent with
    | none, none => wholeNumber? negative whole
    | _, _ => measured? negative whole (fraction.getD []) (exponent.getD 0)
  pure (json, rest)

def number : List Char → Option (Json Float × List Char)
  | '-' :: cs => unsignedNumber? true cs
  | cs => unsignedNumber? false cs

def hex4? : List Char → Option (Nat × List Char)
  | a :: b :: c :: d :: rest => do
    let a ← Text.hexValue? a
    let b ← Text.hexValue? b
    let c ← Text.hexValue? c
    let d ← Text.hexValue? d
    pure (((a * 16 + b) * 16 + c) * 16 + d, rest)
  | _ => none

/-- The character behind `\u`, which takes two escapes where it is a surrogate pair. -/
def escapedUnit? (cs : List Char) : Option (Char × List Char) := do
  let (unit, rest) ← hex4? cs
  if unit < 0xD800 ∨ 0xDFFF < unit then pure (Char.ofNat unit, rest)
  else if unit < 0xDC00 then
    match rest with
    | '\\' :: 'u' :: more =>
      let (low, rest) ← hex4? more
      if 0xDC00 ≤ low ∧ low ≤ 0xDFFF then
        pure (Char.ofNat (0x10000 + (unit - 0xD800) * 0x400 + (low - 0xDC00)), rest)
      else none
    | _ => none
  else none

/-- The character of an escape behind its backslash, and what follows it. -/
def escape? : List Char → Option (Char × List Char)
  | '"' :: rest => some ('"', rest)
  | '\\' :: rest => some ('\\', rest)
  | '/' :: rest => some ('/', rest)
  | 'b' :: rest => some ('\x08', rest)
  | 'f' :: rest => some ('\x0C', rest)
  | 'n' :: rest => some ('\n', rest)
  | 'r' :: rest => some ('\r', rest)
  | 't' :: rest => some ('\t', rest)
  | 'u' :: rest => escapedUnit? rest
  | _ => none

/-- The rest of a string behind `taken` (reversed), up to its closing quote. -/
def stringFrom (fuel : Nat) (taken : List Char) (cs : List Char) : Option (String × List Char) :=
  match fuel with
  | 0 => none
  | fuel + 1 =>
    match cs with
    | [] => none
    | '"' :: rest => some (String.ofList taken.reverse, rest)
    | '\\' :: more =>
      match escape? more with
      | some (c, rest) => stringFrom fuel (c :: taken) rest
      | none => none
    | c :: rest => if c.toNat < 0x20 then none else stringFrom fuel (c :: taken) rest

mutual

def value (fuel depth : Nat) (cs : List Char) : Option (Json Float × List Char) :=
  match fuel with
  | 0 => none
  | fuel + 1 =>
    match skipSpace cs with
    | 'n' :: 'u' :: 'l' :: 'l' :: rest => some (.null, rest)
    | 't' :: 'r' :: 'u' :: 'e' :: rest => some (.bool true, rest)
    | 'f' :: 'a' :: 'l' :: 's' :: 'e' :: rest => some (.bool false, rest)
    | '"' :: rest => (stringFrom fuel [] rest).map fun (s, rest) => (.str s, rest)
    | '[' :: rest =>
      match depth, skipSpace rest with
      | 0, _ => none
      | _, ']' :: rest => some (.arr [], rest)
      | depth + 1, rest => (items fuel depth rest).map fun (xs, rest) => (.arr xs, rest)
    | '\x7b' :: rest =>
      match depth, skipSpace rest with
      | 0, _ => none
      | _, '\x7d' :: rest => some (.obj [], rest)
      | depth + 1, rest => (members fuel depth rest).map fun (ms, rest) => (.obj ms, rest)
    | rest => number rest

def items (fuel depth : Nat) (cs : List Char) : Option (List (Json Float) × List Char) :=
  match fuel with
  | 0 => none
  | fuel + 1 =>
    match value fuel depth cs with
    | none => none
    | some (x, rest) =>
      match skipSpace rest with
      | ',' :: rest => (items fuel depth rest).map fun (xs, rest) => (x :: xs, rest)
      | ']' :: rest => some ([x], rest)
      | _ => none

def members (fuel depth : Nat) (cs : List Char) :
    Option (List (String × Json Float) × List Char) :=
  match fuel with
  | 0 => none
  | fuel + 1 =>
    match skipSpace cs with
    | '"' :: rest =>
      match stringFrom fuel [] rest with
      | none => none
      | some (name, rest) =>
        match skipSpace rest with
        | ':' :: rest =>
          match value fuel depth rest with
          | none => none
          | some (x, rest) =>
            match skipSpace rest with
            | ',' :: rest => (members fuel depth rest).map fun (ms, rest) => ((name, x) :: ms, rest)
            | '\x7d' :: rest => some ([(name, x)], rest)
            | _ => none
        | _ => none
    | _ => none

end

/-- Reads a text that holds one value and nothing else, with all members as they are written. -/
def rawOfChars? (cs : List Char) : Option (Json Float) :=
  match value (2 * cs.length + 2) maxDepth cs with
  | some (json, rest) => if (skipSpace rest).isEmpty then some json else none
  | none => none

def ofChars? (cs : List Char) : Option (Json Float) := (rawOfChars? cs).map tidied

def parse? (text : String) : Option (Json Float) := ofChars? text.toList

/-- Reads a JSON text from bytes, which must be UTF-8, with all members as they are written. -/
def rawOfBytes? (bytes : List UInt8) : Option (Json Float) :=
  (Text.strictUtf8? bytes).bind rawOfChars?

end PromptCanvas.Json
