set_option autoImplicit false
set_option relaxedAutoImplicit false

namespace PromptCanvas.Text

def digitValue (c : Char) : Nat := c.toNat - '0'.toNat

/-- The number written by a list of decimal digits, most significant first. -/
def numeralValue (digits : List Char) : Nat :=
  digits.foldl (fun value c => 10 * value + digitValue c) 0

/-- The number written by a non-empty list of digits, if it is at most `limit`. -/
def digits? (limit : Nat) (cs : List Char) : Option Nat :=
  if cs.isEmpty || !cs.all Char.isDigit then none
  else if numeralValue cs ≤ limit then some (numeralValue cs) else none

/-- The number written by digits after an optional plus sign, if it is at most `limit`. -/
def unsigned? (limit : Nat) : List Char → Option Nat
  | '+' :: digits => digits? limit digits
  | digits => digits? limit digits

def max32 : Nat := 0xffffffff

def max64 : Nat := 0xffffffffffffffff

example : unsigned? max32 "+0042".toList = some 42 := by decide

example : unsigned? max32 "4294967296".toList = none := by decide

example : unsigned? max32 "1_000".toList = none ∧ unsigned? max32 "+".toList = none := by decide

end PromptCanvas.Text
