import PromptCanvas.Geometry
import PromptCanvas.Json.Record

/-!
The viewport: zoom, camera, and the conversion between world and screen.

A point of the world is shown at `world * zoom + camera`.  Every way of setting the zoom keeps it
in one range; stepwise zooming also limits the factor of each step.  An animation moves zoom and
camera along an ease-out curve, and any direct change ends it.
-/

set_option autoImplicit false
set_option relaxedAutoImplicit false

namespace PromptCanvas

/-- A zoom and a camera, as they are saved. -/
structure ViewState (α : Type) where
  zoom : α
  x : α
  y : α
  deriving Repr, DecidableEq

/-- A transition of zoom and camera under way; times are in milliseconds. -/
structure Animation (α : Type) where
  fromZoom : α
  fromCamera : Point α
  toZoom : α
  toCamera : Point α
  start : Nat
  duration : Nat
  deriving Repr, DecidableEq

/-- Zoom, camera, the size of the screen area, and the transition under way. -/
structure Viewport (α : Type) where
  zoom : α
  camera : Point α
  viewW : α
  viewH : α
  animation : Option (Animation α)
  hydrated : Bool
  deriving Repr, DecidableEq

variable {α : Type} [Scalar α]

namespace ViewState

@[specialize] def agrees (v w : ViewState α) : Bool :=
  Scalar.agrees v.zoom w.zoom && Scalar.agrees v.x w.x && Scalar.agrees v.y w.y

@[specialize] def camera (v : ViewState α) : Point α := ⟨v.x, v.y⟩

def reader : Json.FieldReader α (ViewState α) := do
  let zoom ← Json.required "zoom" Json.number?
  let x ← Json.required "x" Json.number?
  let y ← Json.required "y" Json.number?
  pure { zoom, x, y }

def ofJson? : Json α → Option (ViewState α) := Json.record? reader

def toJson (v : ViewState α) : Json α :=
  .obj [("zoom", .ofNumber v.zoom), ("x", .ofNumber v.x), ("y", .ofNumber v.y)]

end ViewState

namespace Viewport

@[specialize] def minZoom : α := 0.05

@[specialize] def maxZoom : α := 3.0

@[specialize] def minStepFactor : α := 0.93

@[specialize] def maxStepFactor : α := 1.07

@[specialize] def wheelSensitivity : α := 0.0015

/-- A zoom brought into range; an undefined one becomes one. -/
@[specialize] def clampZoom (zoom : α) : α :=
  if Scalar.isUndefined zoom then 1.0 else Scalar.clamp zoom minZoom maxZoom

@[specialize] def easeOutCubic (t : α) : α :=
  let rest := 1.0 - Scalar.clamp t 0.0 1.0
  1.0 - rest * (rest * rest)

/-- A screen area at zoom one with the origin of the world in its top-left corner. -/
@[specialize] def ofSize (viewW viewH : α) : Viewport α :=
  { zoom := 1.0
    camera := Point.zero
    viewW
    viewH
    animation := none
    hydrated := false }

@[specialize] def standard : Viewport α := ofSize 1280.0 800.0

@[specialize] def viewState (v : Viewport α) : ViewState α := ⟨v.zoom, v.camera.x, v.camera.y⟩

@[specialize] def set (v : Viewport α) (zoom : α) (camera : Point α) : Viewport α :=
  { v with animation := none, zoom := clampZoom zoom, camera }

/-- Takes over a saved view, the first time it is offered one; says whether it did. -/
@[specialize] def hydrate (v : Viewport α) (view : ViewState α) : Bool × Viewport α :=
  if v.hydrated then (false, v) else (true, { v with hydrated := true }.set view.zoom view.camera)

@[specialize] def resize (v : Viewport α) (viewW viewH : α) : Viewport α := { v with viewW, viewH }

@[specialize] def worldToScreen (v : Viewport α) (p : Point α) : Point α :=
  (p.scale v.zoom).add v.camera

/-- The point of the world that is shown at a point of the screen. -/
@[specialize] def screenToWorld (v : Viewport α) (p : Point α) : Point α :=
  (p.sub v.camera).scale (1.0 / v.zoom)

@[specialize] def screenDeltaToWorld (v : Viewport α) (d : Point α) : Point α :=
  d.scale (1.0 / v.zoom)

@[specialize] def worldCenter (v : Viewport α) : Point α :=
  v.screenToWorld ⟨v.viewW / 2.0, v.viewH / 2.0⟩

@[specialize] def visibleWorldRect (v : Viewport α) : Rect α :=
  let corner := v.screenToWorld Point.zero
  ⟨corner.x, corner.y, v.viewW / v.zoom, v.viewH / v.zoom⟩

/-- Zooms to the given level while the point of the world under `p` stays where it is. -/
@[specialize] def zoomAt (v : Viewport α) (p : Point α) (zoom : α) : Viewport α :=
  let next := clampZoom zoom
  { v with animation := none, zoom := next, camera := p.sub ((v.screenToWorld p).scale next) }

/-- A factor brought into the range of one step; one without a finite value becomes one. -/
@[specialize] def stepFactor (factor : α) : α :=
  if Scalar.isFinite factor then Scalar.clamp factor minStepFactor maxStepFactor else 1.0

@[specialize] def zoomStep (v : Viewport α) (p : Point α) (factor : α) : Viewport α :=
  v.zoomAt p (v.zoom * stepFactor factor)

@[specialize] def panBy (v : Viewport α) (delta : Point α) : Viewport α :=
  { v with animation := none, camera := v.camera.add delta }

/-- Scrolling: with the modifier one step of zooming around `p`, otherwise the camera moves
against the scroll. -/
@[specialize] def wheel (v : Viewport α) (p delta : Point α) (zooms : Bool) : Viewport α :=
  if zooms then v.zoomStep p (Scalar.exp (-delta.y * wheelSensitivity))
  else { v with animation := none, camera := v.camera.sub delta }

/-- The zoom and camera that show a rectangle centred with `padding` pixels around it.  When
`capped`, the zoom is at most one. -/
@[specialize] def fitRect (v : Viewport α) (r : Rect α) (padding : α) (capped : Bool) :
    α × Point α :=
  let roomW := Scalar.larger (v.viewW - 2.0 * padding) 1.0
  let roomH := Scalar.larger (v.viewH - 2.0 * padding) 1.0
  let fitting := Scalar.smaller (roomW / Scalar.larger r.w 1.0) (roomH / Scalar.larger r.h 1.0)
  let zoom := clampZoom (if capped then Scalar.smaller fitting 1.0 else fitting)
  (zoom, ⟨v.viewW / 2.0 - r.center.x * zoom, v.viewH / 2.0 - r.center.y * zoom⟩)

/-- Starts a transition in place of any under way; one without duration is done at once. -/
@[specialize] def animateTo (v : Viewport α) (zoom : α) (camera : Point α) (now duration : Nat) :
    Viewport α :=
  let toZoom := clampZoom zoom
  if duration = 0 then v.set toZoom camera
  else
    { v with
      animation := some
        { fromZoom := v.zoom
          fromCamera := v.camera
          toZoom
          toCamera := camera
          start := now
          duration } }

def isAnimating {α : Type} (v : Viewport α) : Bool := v.animation.isSome

@[specialize] def Animation.progress (a : Animation α) (now : Nat) : α :=
  Scalar.smaller (Scalar.ofNat (now - a.start) / Scalar.ofNat a.duration) 1.0

/-- Moves the transition on to a time; says whether it is still under way. -/
@[specialize] def tick (v : Viewport α) (now : Nat) : Bool × Viewport α :=
  match v.animation with
  | none => (false, v)
  | some a =>
    let t := Animation.progress a now
    if (1.0 : α) ≤ t then
      (false, { v with animation := none, zoom := a.toZoom, camera := a.toCamera })
    else
      let eased := easeOutCubic t
      (true,
        { v with
          zoom := clampZoom (a.fromZoom + (a.toZoom - a.fromZoom) * eased)
          camera := a.fromCamera.lerp a.toCamera eased })

end Viewport

end PromptCanvas
