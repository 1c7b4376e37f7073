import PromptCanvas.Element
import PromptCanvas.Scene.Layers
import PromptCanvas.Text.Numeral

set_option autoImplicit false
set_option relaxedAutoImplicit false

namespace PromptCanvas

/-- The elements of a canvas from bottom to top, and the counter of reference ids. -/
structure Scene (α : Type) where
  elements : List (Element α)
  /-- The lower bound of the next reference id; ids start at one whatever it says. -/
  refCounter : Nat
  deriving Repr, DecidableEq

namespace Scene

variable {α : Type}

def empty : Scene α := ⟨[], 1⟩

def blank : Scene α := ⟨[], 0⟩

def firstOfKeys : List (Element α) → List (Element α)
  | [] => []
  | e :: rest => e :: (firstOfKeys rest).filter fun later => later.key ≠ e.key

/-- The highest reference id of a list of elements, zero if there is none. -/
def highestRef (elements : List (Element α)) : Nat :=
  elements.foldl (fun highest e => max highest (e.refId.getD 0)) 0

/-- The reference id behind another one; it has 32 bits, so that zero comes behind the last.  Where
sums are checked, the last one has none behind it. -/
def refAfter (id : Nat) : Nat := (id + 1) % (Text.max32 + 1)

/-- The scene of elements given from bottom to top.  Later elements with a key already seen are
dropped, and the next reference id is brought above every id present but the last of all. -/
def ofElements (elements : List (Element α)) (refCounter : Nat) : Scene α :=
  let kept := firstOfKeys elements
  ⟨kept, max (max refCounter (refAfter (highestRef kept))) 1⟩

def keys (s : Scene α) : List Key := s.elements.map Element.key

def size (s : Scene α) : Nat := s.elements.length

def get? (s : Scene α) (key : Key) : Option (Element α) := s.elements.find? fun e => e.key = key

def contains (s : Scene α) (key : Key) : Bool := (s.get? key).isSome

/-- The place of the element with a key, counted from the bottom. -/
def indexOf? (s : Scene α) (key : Key) : Option Nat := s.elements.findIdx? fun e => e.key = key

def isRunning (s : Scene α) (key : Key) : Bool := (s.get? key).any Element.isRunning

def image? (s : Scene α) (key : Key) : Option (Image α) := (s.get? key).bind Element.image?

def nextRefId (s : Scene α) : Nat := max s.refCounter 1

def insert (s : Scene α) (e : Element α) : Except CanvasError (Scene α) :=
  if s.contains e.key then .error (.duplicateKey e.key)
  else .ok { s with elements := s.elements ++ [e] }

def remove (s : Scene α) (key : Key) : Except CanvasError (Element α × Scene α) :=
  match s.get? key with
  | some e => .ok (e, { s with elements := s.elements.eraseP fun e => e.key = key })
  | none => .error (.elementNotFound key)

def removeAll (s : Scene α) (keys : List Key) : Scene α :=
  { s with elements := s.elements.filter fun e => e.key ∉ keys }

def clear (s : Scene α) : Scene α := { s with elements := [] }

/-- The list with its first element of a key changed; the change cannot touch the key. -/
def changeFirst (key : Key) (change : Element α → Element α) :
    List (Element α) → List (Element α)
  | [] => []
  | e :: rest =>
    if e.key = key then { change e with key } :: rest else e :: changeFirst key change rest

/-- The scene with the element of a key changed in its place, if there is one. -/
def modify (s : Scene α) (key : Key) (change : Element α → Element α) : Scene α :=
  { s with elements := changeFirst key change s.elements }

def update (s : Scene α) (key : Key) (change : Element α → Element α) :
    Except CanvasError (Scene α) :=
  if s.contains key then .ok (s.modify key change) else .error (.elementNotFound key)

/-- The reference id of an element, assigned if it has none yet. -/
def ensureRefId (s : Scene α) (key : Key) : Except CanvasError (Nat × Scene α) :=
  match s.get? key with
  | none => .error (.elementNotFound key)
  | some e =>
    match e.refId with
    | some id => .ok (id, s)
    | none =>
      let id := s.nextRefId
      .ok (id, { s.modify key (fun e => { e with refId := some id }) with
        refCounter := refAfter id })

def byRefId? (s : Scene α) (id : Nat) : Option (Element α) :=
  s.elements.find? fun e => e.refId = some id

def rects (s : Scene α) : List (Rect α) := s.elements.map Element.rect

def hasKeyIn (keys : List Key) (e : Element α) : Bool := e.key ∈ keys

/-- Moves each element of the keys one step up; says whether anything moved. -/
def moveUp (s : Scene α) (keys : List Key) : Bool × Scene α :=
  let (elements, changed) := Layers.raise (hasKeyIn keys) s.elements
  (changed, { s with elements })

/-- Moves each element of the keys one step down; says whether anything moved. -/
def moveDown (s : Scene α) (keys : List Key) : Bool × Scene α :=
  let (elements, changed) := Layers.lower (hasKeyIn keys) s.elements
  (changed, { s with elements })

/-- Another stacking of the same elements, and whether it puts the keys in another order. -/
def restacked (s : Scene α) (elements : List (Element α)) : Bool × Scene α :=
  (elements.map Element.key ≠ s.keys, { s with elements })

/-- Puts the elements of the keys on top; says whether the order changed. -/
def bringToFront (s : Scene α) (keys : List Key) : Bool × Scene α :=
  s.restacked (Layers.toTop (hasKeyIn keys) s.elements)

/-- Puts the elements of the keys at the bottom; says whether the order changed. -/
def sendToBack (s : Scene α) (keys : List Key) : Bool × Scene α :=
  s.restacked (Layers.toBottom (hasKeyIn keys) s.elements)

variable [Scalar α]

@[specialize] def elementAt? (s : Scene α) (p : Point α) : Option (Element α) :=
  s.elements.reverse.find? fun e => e.containsPoint p

/-- The keys of the elements that meet a rectangle, from bottom to top. -/
@[specialize] def keysIntersecting (s : Scene α) (r : Rect α) : List Key :=
  (s.elements.filter fun e => e.rect.intersects r).map Element.key

@[specialize] def bounds? (s : Scene α) : Option (Rect α) := Rect.bounding s.rects

end Scene

end PromptCanvas
