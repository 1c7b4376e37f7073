import PromptCanvas.Scene

set_option autoImplicit false
set_option relaxedAutoImplicit false

namespace PromptCanvas.Reference

def opening : List Char := "@img".toList

def mention (id : Nat) : String := "@img" ++ toString id

inductive Token where
  | char (c : Char)
  | reference (id : Nat) (digits : List Char)
  deriving Repr, DecidableEq

namespace Token

def text : Token → List Char
  | char c => [c]
  | reference _ digits => opening ++ digits

def id? : Token → Option Nat
  | char _ => none
  | reference id _ => some id

def isWord : Token → Bool
  | char c => !Text.isBlank c
  | reference .. => false

end Token

def digits (cs : List Char) : List Char := (cs.drop opening.length).takeWhile Char.isDigit

def rest (cs : List Char) : List Char := (cs.drop opening.length).dropWhile Char.isDigit

def at? (cs : List Char) : Option Nat :=
  if opening.isPrefixOf cs then
    match Text.digits? Text.max32 (digits cs) with
    | some 0 => none
    | id => id
  else none

private theorem length_rest_le (cs : List Char) : (rest cs).length ≤ cs.length - 4 := by
  have le : (rest cs).length ≤ (cs.drop opening.length).length :=
    List.Sublist.length_le (List.dropWhile_sublist _)
  simpa [opening] using le

/-- The pieces of a text in order.  `free` says that a reference may start at its beginning. -/
def tokensFrom (free : Bool) : List Char → List Token
  | [] => []
  | c :: more =>
    match free, at? (c :: more) with
    | true, some id => .reference id (digits (c :: more)) :: tokensFrom false (rest (c :: more))
    | _, _ => .char c :: tokensFrom (!c.isAlphanum) more
termination_by cs => cs.length
decreasing_by
  · have := length_rest_le (c :: more)
    simp only [List.length_cons] at this ⊢
    omega
  · simp

def tokens (cs : List Char) : List Token := tokensFrom true cs

def distinct (ids : List Nat) : List Nat :=
  ids.foldl (fun seen id => if id ∈ seen then seen else seen ++ [id]) []

/-- The ids that a text refers to, each once, in the order of first mention. -/
def ids (cs : List Char) : List Nat := distinct ((tokens cs).filterMap Token.id?)

def hasWords (cs : List Char) : Bool := (tokens cs).any Token.isWord

/-- The keys of the elements that carry the ids; the first id that no element carries is an
error. -/
def resolve {α : Type} (scene : Scene α) (ids : List Nat) : Except CanvasError (List Key) :=
  ids.mapM fun id =>
    match scene.byRefId? id with
    | some e => .ok e.key
    | none => .error (.unresolvedReference id)

end PromptCanvas.Reference
