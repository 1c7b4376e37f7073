import PromptCanvas.Canvas
import PromptCanvas.Prompt.Reference

set_option autoImplicit false
set_option relaxedAutoImplicit false

namespace PromptCanvas

/-- The part of a canvas that a change touched. -/
inductive ChangeKind where
  | scene
  | viewport
  | selection
  deriving Repr, DecidableEq

/-- An announced change: the part that changed, and the revision that it belongs to. -/
structure Announcement where
  kind : ChangeKind
  revision : Nat
  deriving Repr, DecidableEq

/-- A canvas, the number of its changes so far, and what was announced and not yet collected. -/
structure Store (α : Type) where
  canvas : Canvas α
  revision : Nat
  announced : List Announcement
  deriving Repr, DecidableEq

/-- The parts that an operation changed, in the order in which they are announced. -/
def Effects.kinds (e : Effects) : List ChangeKind :=
  (if e.scene then [.scene] else []) ++ (if e.viewport then [.viewport] else []) ++
    (if e.selection then [.selection] else [])

namespace Store

section Plain

variable {α : Type}

def ofCanvas (canvas : Canvas α) : Store α := ⟨canvas, 0, []⟩

def scene (s : Store α) : Scene α := s.canvas.scene

def notify (s : Store α) (effects : Effects) : Store α :=
  if effects.any then
    let revision := s.revision + 1
    { s with
      revision
      announced := s.announced ++ effects.kinds.map fun kind => ⟨kind, revision⟩ }
  else s

def collect (s : Store α) : List Announcement × Store α := (s.announced, { s with announced := [] })

def apply (s : Store α) (operation : Canvas α → Effects × Canvas α) : Effects × Store α :=
  let (effects, canvas) := operation s.canvas
  (effects, { s with canvas }.notify effects)

/-- An operation on the scene; the scene counts as changed, and the selection is pruned. -/
def updateScene {β : Type} (s : Store α) (operation : Scene α → β × Scene α) : β × Store α :=
  let (result, scene) := operation s.canvas.scene
  let (pruned, canvas) := { s.canvas with scene }.pruneSelection
  (result, { s with canvas }.notify { Effects.none with scene := true, selection := pruned })

/-- An operation on the scene that may fail; one that fails leaves the scene as it is. -/
def tryScene {β : Type} (s : Store α)
    (operation : Scene α → Except CanvasError (β × Scene α)) :
    Except CanvasError β × Store α :=
  s.updateScene fun scene =>
    match operation scene with
    | .ok (result, scene') => (.ok result, scene')
    | .error e => (.error e, scene)

def updateElement (s : Store α) (key : Key) (change : Element α → Element α) :
    Except CanvasError (Store α) := do
  let scene ← s.canvas.scene.update key change
  pure ({ s with canvas := { s.canvas with scene } }.notify (.ofScene true))

/-- The token that refers to an element; an id assigned for it is a change of the scene. -/
def mention (s : Store α) (key : Key) : Except CanvasError (String × Store α) := do
  let (id, canvas) ← s.canvas.mention key
  let assigned : Bool := canvas.scene.nextRefId ≠ s.canvas.scene.nextRefId
  pure (Reference.mention id, { s with canvas }.notify (.ofScene assigned))

def replaceScene (s : Store α) (scene : Scene α) : Store α :=
  (s.updateScene fun _ => ((), scene)).2

end Plain

variable {α : Type} [Scalar α]

/-- Puts a new element at the free place nearest to the anchor. -/
@[specialize] def insertPlaced (s : Store α) (key : Key) (content : Content α) (w h : α)
    (anchor : Option (Point α)) : Except CanvasError (Store α) := do
  let canvas ← s.canvas.insertPlaced key content w h anchor
  pure ({ s with canvas }.notify (.ofScene true))

@[specialize] def handle (s : Store α) (event : InputEvent α) : Effects × Store α :=
  s.apply fun canvas => canvas.handle event

end Store

end PromptCanvas
