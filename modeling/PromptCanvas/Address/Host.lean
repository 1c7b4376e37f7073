import PromptCanvas.Domain

/-!
Hosts in addresses: names, and numbers of four or sixteen bytes.

The names of well-known schemes are domains: they are brought into ASCII, and a domain whose last
label is a number stands for four bytes.  Other schemes keep a name as it is.
-/

set_option autoImplicit false
set_option relaxedAutoImplicit false

namespace PromptCanvas

inductive AddressError where
  | relativeWithoutBase
  | emptyHost
  | invalidDomain
  | invalidCharacter
  | invalidPort
  | invalidIpv4
  | invalidIpv6
  deriving Repr, DecidableEq

def AddressError.message : AddressError → String
  | relativeWithoutBase => "relative URL without a base"
  | emptyHost => "empty host"
  | invalidDomain => "invalid international domain name"
  | invalidCharacter => "invalid domain character"
  | invalidPort => "invalid port number"
  | invalidIpv4 => "invalid IPv4 address"
  | invalidIpv6 => "invalid IPv6 address"

inductive Host where
  | name (text : String)
  | ipv4 (value : Nat)
  | ipv6 (groups : List Nat)
  deriving Repr, DecidableEq

namespace Host

/-! ### Four bytes -/

def valueIn? (base : Nat) (cs : List Char) : Option Nat :=
  cs.foldl
    (fun value c =>
      match value, Text.hexValue? c with
      | some value, some digit => if digit < base then some (base * value + digit) else none
      | _, _ => none)
    (some 0)

/-- A number in decimal, in octal behind a zero, or in hexadecimal behind `0x`. -/
def number? : List Char → Option Nat
  | [] => none
  | '0' :: 'x' :: rest | '0' :: 'X' :: rest => valueIn? 16 rest
  | '0' :: c :: rest => valueIn? 8 (c :: rest)
  | cs => valueIn? 10 cs

def labels (cs : List Char) : List (List Char) :=
  let parts := Text.parts '.' cs
  if parts.getLast? = some [] then parts.dropLast else parts

/-- Whether a domain ends in a number, so that it has to stand for four bytes. -/
def endsInNumber (cs : List Char) : Bool :=
  match (labels cs).getLast? with
  | none => false
  | some last => (!last.isEmpty && last.all Char.isDigit) || (number? last).isSome

/-- The value of numbers of which the last fills what the others leave. -/
def ipv4Value? (numbers : List Nat) : Option Nat :=
  match numbers.getLast? with
  | none => none
  | some last =>
    let leading := numbers.dropLast
    if leading.length ≤ 3 ∧ leading.all (· ≤ 255) ∧ last < 1 <<< (8 * (4 - leading.length)) then
      some (leading.zipIdx.foldl (fun sum (n, place) => sum + n <<< (8 * (3 - place))) last)
    else none

def parseIpv4 (cs : List Char) : Except AddressError Host :=
  match ((labels cs).mapM number?).bind ipv4Value? with
  | some value => .ok (.ipv4 value)
  | none => .error .invalidIpv4

/-! ### Sixteen bytes -/

def group? (cs : List Char) : Option Nat :=
  if cs.isEmpty || 4 < cs.length then none else valueIn? 16 cs

/-- One of the four decimal numbers that can stand for the last two groups. -/
def byte? (cs : List Char) : Option Nat :=
  if cs.isEmpty || (1 < cs.length && cs.head? = some '0') || 3 < cs.length then none
  else (valueIn? 10 cs).filter (· ≤ 255)

def decimalGroups? (cs : List Char) : Option (List Nat) :=
  match (Text.parts '.' cs).mapM byte? with
  | some [a, b, c, d] => some [256 * a + b, 256 * c + d]
  | _ => none

/-- The groups between colons; four decimal numbers may stand for the last two. -/
def groups? : List (List Char) → Option (List Nat)
  | [] => some []
  | [last] => if '.' ∈ last then decimalGroups? last else (group? last).map fun g => [g]
  | part :: rest =>
    match group? part, groups? rest with
    | some g, some more => some (g :: more)
    | _, _ => none

def splitGap? : List Char → Option (List Char × List Char)
  | ':' :: ':' :: rest => some ([], rest)
  | c :: rest => (splitGap? rest).map fun (before, after) => (c :: before, after)
  | [] => none

def side? (cs : List Char) : Option (List Nat) :=
  if cs.isEmpty then some [] else groups? (Text.parts ':' cs)

/-- Sixteen bytes; a double colon stands for one or more groups of zeros. -/
def parseIpv6 (cs : List Char) : Except AddressError Host :=
  match splitGap? cs with
  | none =>
    match side? cs with
    | some groups => if groups.length = 8 then .ok (.ipv6 groups) else .error .invalidIpv6
    | none => .error .invalidIpv6
  | some (before, after) =>
    match side? before, side? after with
    | some high, some low =>
      if '.' ∉ before ∧ high.length + low.length < 8 then
        .ok (.ipv6 (high ++ List.replicate (8 - high.length - low.length) 0 ++ low))
      else .error .invalidIpv6
    | _, _ => .error .invalidIpv6

def zeroRun (groups : List Nat) : Nat := (groups.takeWhile (· = 0)).length

def longestZeroRun (groups : List Nat) : Nat × Nat :=
  (List.range groups.length).foldl
    (fun (place, length) i =>
      let run := zeroRun (groups.drop i)
      if length < run then (i, run) else (place, length))
    (0, 0)

def groupsText (groups : List Nat) : String :=
  ":".intercalate (groups.map fun g => String.ofList (Nat.toDigits 16 g))

/-- The text of sixteen bytes: the longest run of at least two zeros is left out. -/
def ipv6Text (groups : List Nat) : String :=
  let (place, length) := longestZeroRun groups
  if length < 2 then groupsText groups
  else groupsText (groups.take place) ++ "::" ++ groupsText (groups.drop (place + length))

def ipv4Text (value : Nat) : String :=
  ".".intercalate ([3, 2, 1, 0].map fun place => toString (value >>> (8 * place) % 256))

def text : Host → String
  | name text => text
  | ipv4 value => ipv4Text value
  | ipv6 groups => "[" ++ ipv6Text groups ++ "]"

/-! ### Names -/

def asciiDomain (cs : List Char) : Except AddressError (List Char) :=
  match Domain.ascii? (Text.decodeUtf8 (Text.percentDecode cs)) with
  | some domain => .ok domain
  | none => .error .invalidDomain

/-- Whether a character cannot stand in the name of a host of an unknown scheme. -/
def isBadInName (c : Char) : Bool := c = '\x00' || c ∈ " #/:<>?@[\\]^|".toList

def parseBracketed (cs : List Char) : Except AddressError Host :=
  if cs.getLast? = some ']' then parseIpv6 cs.tail.dropLast else .error .invalidIpv6

def parseDomain (cs : List Char) : Except AddressError Host :=
  if cs.head? = some '[' then parseBracketed cs
  else
    match asciiDomain cs with
    | .error e => .error e
    | .ok domain =>
      if domain.isEmpty then .error .emptyHost
      else if endsInNumber domain then parseIpv4 domain
      else .ok (.name (String.ofList domain))

def parseName (cs : List Char) : Except AddressError Host :=
  if cs.head? = some '[' then parseBracketed cs
  else if cs.any isBadInName then .error .invalidCharacter
  else .ok (.name (String.ofList (Text.percentEncode (fun _ => false) cs)))

end Host

end PromptCanvas
