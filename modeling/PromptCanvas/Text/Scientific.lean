set_option autoImplicit false
set_option relaxedAutoImplicit false

namespace PromptCanvas.Text.Scientific

/-- The whole number nearest to a quotient, an exact half going to the even neighbour. -/
def roundedQuotient (num den : Nat) : Nat :=
  let whole := num / den
  let rest := 2 * (num % den)
  if rest < den then whole
  else if den < rest then whole + 1
  else if whole % 2 = 0 then whole else whole + 1

def shifted (num den : Nat) (places : Int) : Nat × Nat :=
  if places < 0 then (num, den * Nat.pow 10 places.natAbs)
  else (num * Nat.pow 10 places.natAbs, den)

/-- The exponent of the first digit of a quotient, searched downward from `guess`, which must not
be too small. -/
def leadingExponent (num den : Nat) (guess : Int) : Nat → Int
  | 0 => guess
  | steps + 1 =>
    let (n, d) := shifted num den (-guess)
    if n < d then leadingExponent num den (guess - 1) steps else guess

/-- The digits of a positive quotient and the exponent of the first of them. -/
def digits (count num den : Nat) : List Char × Int :=
  let guess : Int := (Nat.toDigits 10 num).length - (Nat.toDigits 10 den).length + 1
  let exponent := leadingExponent num den guess 4
  let (n, d) := shifted num den (Int.ofNat count - 1 - exponent)
  let rounded := roundedQuotient n d
  if rounded = Nat.pow 10 count then (['1'], exponent + 1)
  else (((Nat.toDigits 10 rounded).reverse.dropWhile (· = '0')).reverse, exponent)

def quotientText (count num den : Nat) : String :=
  let (digits, exponent) := digits count num den
  let mantissa := match digits with
    | first :: second :: rest => first :: '.' :: second :: rest
    | digits => digits
  String.ofList mantissa ++ "e" ++ toString exponent

def quotientOf (x : Float) : Nat × Nat :=
  let bits := x.toBits.toNat
  let fraction := bits % 1 <<< 52
  let field := bits >>> 52 % 1 <<< 11
  let mantissa := if field = 0 then fraction else fraction + 1 <<< 52
  let exponent : Int := (if field = 0 then 1 else Int.ofNat field) - 1075
  if exponent < 0 then (mantissa, 1 <<< exponent.natAbs) else (mantissa <<< exponent.natAbs, 1)

def text (count : Nat) (x : Float) : String :=
  if x.isNaN then "NaN"
  else if x.isInf then if x < 0.0 then "-inf" else "inf"
  else if x == 0.0 then "0"
  else
    let (num, den) := quotientOf x
    (if x < 0.0 then "-" else "") ++ quotientText count num den

example : quotientText 12 241 2 = "1.205e2" := by decide +kernel

example : quotientText 2 995 1 = "1e3" := by decide +kernel

example : quotientText 2 125 1000 = "1.2e-1" := by decide +kernel

end PromptCanvas.Text.Scientific
