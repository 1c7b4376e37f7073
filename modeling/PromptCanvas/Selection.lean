import PromptCanvas.Scene

set_option autoImplicit false
set_option relaxedAutoImplicit false

namespace PromptCanvas

/-- The selected keys in the order in which they were picked. -/
structure Selection where
  keys : List Key
  deriving Repr, DecidableEq

namespace Selection

def empty : Selection := ⟨[]⟩

def isEmpty (s : Selection) : Bool := s.keys.isEmpty

def contains (s : Selection) (key : Key) : Bool := key ∈ s.keys

def single? (s : Selection) : Option Key :=
  match s.keys with
  | [key] => some key
  | _ => none

def badge? (s : Selection) (key : Key) : Option Nat :=
  (s.keys.findIdx? (· = key)).map (· + 1)

def only (key : Key) : Selection := ⟨[key]⟩

def append (s : Selection) (key : Key) : Selection :=
  if s.contains key then s else ⟨s.keys ++ [key]⟩

def appendAll (s : Selection) (keys : List Key) : Selection := keys.foldl append s

def ofKeys (keys : List Key) : Selection := empty.appendAll keys

def pruned {α : Type} (s : Selection) (scene : Scene α) : Selection :=
  ⟨s.keys.filter scene.contains⟩

/-- Drops the keys that are not in the scene; says whether there were any. -/
def prune {α : Type} (s : Selection) (scene : Scene α) : Bool × Selection :=
  let kept := s.pruned scene
  (s.keys.length ≠ kept.keys.length, kept)

end Selection

end PromptCanvas
