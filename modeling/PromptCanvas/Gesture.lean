import PromptCanvas.Gesture.Resize
import PromptCanvas.Selection
import PromptCanvas.Viewport

set_option autoImplicit false
set_option relaxedAutoImplicit false

namespace PromptCanvas

structure ResizeSession (α : Type) where
  key : Key
  corner : Corner
  baseline : Rect α
  press : Point α
  ratio : α
  /-- Whether proportions are locked when no modifier says otherwise. -/
  locked : Bool
  deriving Repr, DecidableEq

/-- What a pressed pointer is doing. -/
inductive Gesture (α : Type) where
  | idle
  /-- Moving elements; with the press on the screen and where each element was then. -/
  | dragging (press : Point α) (origins : List (Key × Point α))
  | marquee (start current : Point α) (additive : Bool)
  | resizing (session : ResizeSession α)
  | panning (last : Point α)
  deriving Repr, DecidableEq

inductive Hit where
  | handle (key : Key) (corner : Corner)
  | element (key : Key)
  | empty
  deriving Repr, DecidableEq

variable {α : Type} [Scalar α]

@[specialize] def Gesture.marqueeRect? : Gesture α → Option (Rect α)
  | .marquee start current _ => some (Rect.ofCorners start current)
  | _ => none

namespace Hit

@[specialize] def handleRadius : α := 10.0

/-- The first corner of a box whose handle is under a point of the screen. -/
@[specialize] def corner? (viewport : Viewport α) (r : Rect α) (p : Point α) : Option Corner :=
  Corner.all.find? fun c =>
    ((viewport.worldToScreen (c.point r)).sub p).length ≤ handleRadius

/-- The handle of the one selected element that is under a point of the screen. -/
@[specialize] def handle? (scene : Scene α) (selection : Selection) (viewport : Viewport α)
    (p : Point α) : Option (Key × Corner) := do
  let key ← selection.single?
  let e ← scene.get? key
  let corner ← corner? viewport e.rect p
  pure (e.key, corner)

/-- What lies under a point of the screen: handles first, then elements from the top. -/
@[specialize] def test (scene : Scene α) (selection : Selection) (viewport : Viewport α)
    (p : Point α) : Hit :=
  match handle? scene selection viewport p with
  | some (key, corner) => handle key corner
  | none =>
    match scene.elementAt? (viewport.screenToWorld p) with
    | some e => element e.key
    | none => empty

end Hit

end PromptCanvas
