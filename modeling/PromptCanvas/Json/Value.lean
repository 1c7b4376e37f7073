import PromptCanvas.Scalar

set_option autoImplicit false
set_option relaxedAutoImplicit false

namespace PromptCanvas

/-- A JSON value whose fractional numbers are measurements of type `α`. -/
inductive Json (α : Type) where
  | null
  | bool (b : Bool)
  | int (n : Int)
  | real (x : α)
  | str (s : String)
  | arr (items : List (Json α))
  | obj (members : List (String × Json α))

namespace Json

variable {α : Type}

instance : Inhabited (Json α) := ⟨.null⟩

def get? (name : String) : Json α → Option (Json α)
  | .obj members => members.lookup name
  | _ => none

def lastOfNames (members : List (String × Json α)) : List (String × Json α) :=
  members.foldr
    (fun member later => if later.any (·.1 == member.1) then later else member :: later) []

mutual

/-- The value in whose objects, at any depth, the last member of a name counts. -/
def tidied : Json α → Json α
  | .arr items => .arr (tidiedItems items)
  | .obj members => .obj (lastOfNames (tidiedMembers members))
  | json => json

def tidiedItems : List (Json α) → List (Json α)
  | [] => []
  | item :: rest => tidied item :: tidiedItems rest

def tidiedMembers : List (String × Json α) → List (String × Json α)
  | [] => []
  | (name, json) :: rest => (name, tidied json) :: tidiedMembers rest

end

def text? : Json α → Option String
  | .str s => some s
  | _ => none

def bool? : Json α → Option Bool
  | .bool b => some b
  | _ => none

/-- A whole number from zero to `limit`; a number with a fraction or an exponent is not one. -/
def nat? (limit : Nat) : Json α → Option Nat
  | .int (.ofNat n) => if n ≤ limit then some n else none
  | _ => none

def items? : Json α → Option (List (Json α))
  | .arr items => some items
  | _ => none

def list? {β : Type} (read : Json α → Option β) (json : Json α) : Option (List β) :=
  json.items?.bind (List.mapM read)

def any? (json : Json α) : Option (Json α) := some json.tidied

def number? [Scalar α] : Json α → Option α
  | .int n => some (Scalar.ofInt n)
  | .real x => some x
  | _ => none

def ofNumber [Scalar α] (x : α) : Json α := if Scalar.isFinite x then .real x else .null

def ofNat (n : Nat) : Json α := .int (.ofNat n)

def ofOption {β : Type} (write : β → Json α) : Option β → Json α
  | none => .null
  | some b => write b

/-- The choice of a word from a list of named options.  The word may stand alone, or be the only
member of an object whose value is null or empty. -/
def choice? {β : Type} (options : List (String × β)) : Json α → Option β
  | .str word => options.lookup word
  | .obj [(word, .null)] => options.lookup word
  | .obj [(word, .obj [])] => options.lookup word
  | _ => none

end Json

end PromptCanvas
