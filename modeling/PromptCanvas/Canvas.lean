import PromptCanvas.Canvas.Pointer
import PromptCanvas.Placement

set_option autoImplicit false
set_option relaxedAutoImplicit false

namespace PromptCanvas.Canvas

@[specialize] def fitPadding {α : Type} [Scalar α] : α := 48.0

def fitDuration : Nat := 320

section Plain

variable {α : Type}

def deleteSelected (c : Canvas α) : Effects × Canvas α :=
  if c.selection.isEmpty then (.none, c)
  else
    let scene := c.scene.removeAll c.selection.keys
    ({ Effects.none with scene := scene.size < c.scene.size, selection := true },
      { c with scene, selection := .empty, gesture := .idle })

/-- The canvas with another stacking of its scene, and whether it is another. -/
def restack (c : Canvas α) (stacked : Bool × Scene α) : Effects × Canvas α :=
  (.ofScene stacked.1, { c with scene := stacked.2 })

def command (c : Canvas α) : Command → Effects × Canvas α
  | .deleteSelected => c.deleteSelected
  | .clearSelection => (.ofSelection (!c.selection.isEmpty), { c with selection := .empty })
  | .moveUp => c.restack (c.scene.moveUp c.selection.keys)
  | .moveDown => c.restack (c.scene.moveDown c.selection.keys)
  | .bringToFront => c.restack (c.scene.bringToFront c.selection.keys)
  | .sendToBack => c.restack (c.scene.sendToBack c.selection.keys)

/-- Drops selected keys that are not in the scene; says whether there were any. -/
def pruneSelection (c : Canvas α) : Bool × Canvas α :=
  let (pruned, selection) := c.selection.prune c.scene
  (pruned, { c with selection })

def mention (c : Canvas α) (key : Key) : Except CanvasError (Nat × Canvas α) := do
  let (id, scene) ← c.scene.ensureRefId key
  pure (id, { c with scene })

def takeFrame (c : Canvas α) : Bool × Canvas α :=
  let (due, frameSync) := c.frameSync.takeFrame
  (due, { c with frameSync })

end Plain

variable {α : Type} [Scalar α]

@[specialize] def wheel (c : Canvas α) (p delta : Point α) (modifiers : Modifiers) :
    Effects × Canvas α :=
  let viewport := c.viewport.wheel p delta modifiers.zoom
  (.ofViewport (!viewport.viewState.agrees c.viewport.viewState), { c with viewport })

@[specialize] def respond (c : Canvas α) : InputEvent α → Effects × Canvas α
  | .pointer phase p modifiers => c.pointer phase p modifiers
  | .wheel p delta modifiers => c.wheel p delta modifiers
  | .command shortcut => c.command shortcut

@[specialize] def handle (c : Canvas α) (event : InputEvent α) : Effects × Canvas α :=
  let (effects, c) := c.respond event
  (effects, { c with frameSync := c.frameSync.markIf effects.viewport })

/-- Puts a new element of `w` by `h` on top, at the free place nearest to the anchor; the middle
of the view is the anchor where none is given. -/
@[specialize] def insertPlaced (c : Canvas α) (key : Key) (content : Content α) (w h : α)
    (anchor : Option (Point α)) : Except CanvasError (Canvas α) := do
  let visible := c.viewport.visibleWorldRect
  let p := Placement.nearestFree c.scene.rects w h (anchor.getD c.viewport.worldCenter)
    visible.w visible.h
  let scene ← c.scene.insert (Element.make key content ⟨p.x, p.y, w, h⟩)
  pure { c with scene }

@[specialize] def showRect (c : Canvas α) (r : Rect α) (capped : Bool) (now : Nat) : Canvas α :=
  let (zoom, camera) := c.viewport.fitRect r fitPadding capped
  { c with
    viewport := c.viewport.animateTo zoom camera now fitDuration
    frameSync := c.frameSync.mark }

/-- Starts the transition that shows the whole scene; an empty one starts none. -/
@[specialize] def fitContent (c : Canvas α) (now : Nat) : Bool × Canvas α :=
  match c.scene.bounds? with
  | none => (false, c)
  | some bounds => (true, c.showRect bounds false now)

/-- Starts the transition that shows one element, at most in its own size. -/
@[specialize] def fitResult (c : Canvas α) (key : Key) (now : Nat) : Bool × Canvas α :=
  match c.scene.get? key with
  | none => (false, c)
  | some e => (true, c.showRect e.rect true now)

/-- Moves the transition under way on; says whether it is still under way. -/
@[specialize] def tick (c : Canvas α) (now : Nat) : Bool × Canvas α :=
  let (moving, viewport) := c.viewport.tick now
  (moving, { c with viewport, frameSync := c.frameSync.markIf c.viewport.isAnimating })

@[specialize] def pollView (c : Canvas α) (now : Nat) : Option (ViewState α) × Canvas α :=
  let (view, frameSync) := c.frameSync.poll c.viewport now
  (view, { c with frameSync })

end PromptCanvas.Canvas
