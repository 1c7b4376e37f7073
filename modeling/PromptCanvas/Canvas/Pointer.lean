import PromptCanvas.Canvas.Basic
import PromptCanvas.Input

set_option autoImplicit false
set_option relaxedAutoImplicit false

namespace PromptCanvas.Canvas

variable {α : Type} [Scalar α]

/-- A selection rectangle smaller than this on both axes is a click, in screen pixels. -/
@[specialize] def clickSlop : α := 6.0

def origins {α : Type} (scene : Scene α) (selection : Selection) : List (Key × Point α) :=
  selection.keys.filterMap fun key => (scene.get? key).map fun e => (key, e.rect.origin)

/-- The selection after a press on an element: a selected one leaves it alone. -/
def pressed (selection : Selection) (key : Key) (additive : Bool) : Selection :=
  if selection.contains key then selection
  else if additive then selection.append key
  else Selection.only key

@[specialize] def startResize (c : Canvas α) (e : Element α) (corner : Corner) (p : Point α) :
    Gesture α :=
  .resizing
    { key := e.key
      corner
      baseline := e.rect
      press := c.viewport.screenToWorld p
      ratio := e.aspectRatio
      locked := e.content.locksAspect }

@[specialize] def press (c : Canvas α) (p : Point α) (modifiers : Modifiers) :
    Effects × Canvas α :=
  if modifiers.hand then (.none, { c with gesture := .panning p })
  else
    match Hit.test c.scene c.selection c.viewport p with
    | .handle key corner =>
      match c.scene.get? key with
      | none => (.none, { c with gesture := .idle })
      | some e => (.none, { c with gesture := c.startResize e corner p })
    | .element key =>
      let selection := pressed c.selection key modifiers.additive
      (.ofSelection (!c.selection.contains key),
        { c with selection, gesture := .dragging p (origins c.scene selection) })
    | .empty => (.none, { c with gesture := .marquee p p modifiers.additive })

@[specialize] def shiftAll (scene : Scene α) (origins : List (Key × Point α)) (delta : Point α) :
    Scene α :=
  origins.foldl
    (fun scene origin => scene.modify origin.1 fun e => e.movedTo (origin.2.add delta)) scene

/-- The box that a resize makes when the pointer is at a point of the screen. -/
@[specialize] def resizedRect (viewport : Viewport α) (session : ResizeSession α) (p : Point α)
    (modifiers : Modifiers) : Rect α :=
  Resize.box session.baseline session.corner session.press (viewport.screenToWorld p)
    (if session.locked && !modifiers.freeAspect then some session.ratio else none)

@[specialize] def move (c : Canvas α) (p : Point α) (modifiers : Modifiers) :
    Effects × Canvas α :=
  match c.gesture with
  | .idle => (.none, c)
  | .panning last =>
    (.ofViewport true,
      { c with viewport := c.viewport.panBy (p.sub last), gesture := .panning p })
  | .marquee start _ additive => (.none, { c with gesture := .marquee start p additive })
  | .dragging start origins =>
    let delta := c.viewport.screenDeltaToWorld (p.sub start)
    (.ofScene true, { c with scene := shiftAll c.scene origins delta })
  | .resizing session =>
    let rect := resizedRect c.viewport session p modifiers
    (.ofScene (c.scene.contains session.key),
      { c with scene := c.scene.modify session.key fun e => e.withRect rect })

/-- The selection that a selection rectangle from `start` to `stop` makes. -/
@[specialize] def marqueeSelection (c : Canvas α) (start stop : Point α) (additive : Bool) :
    Selection :=
  let world := Rect.ofCorners (c.viewport.screenToWorld start) (c.viewport.screenToWorld stop)
  let hits := c.scene.keysIntersecting world
  if additive then c.selection.appendAll hits else Selection.ofKeys hits

@[specialize] def isClick (start stop : Point α) : Bool :=
  let r := Rect.ofCorners start stop
  r.w < clickSlop && r.h < clickSlop

@[specialize] def release (c : Canvas α) (p : Point α) : Effects × Canvas α :=
  let c' := { c with gesture := .idle }
  match c.gesture with
  | .marquee start _ additive =>
    let selection :=
      if isClick start p then if additive then c.selection else Selection.empty
      else c.marqueeSelection start p additive
    (.ofSelection (selection ≠ c.selection), { c' with selection })
  | _ => (.none, c')

def cancel {α : Type} (c : Canvas α) : Canvas α := { c with gesture := .idle }

@[specialize] def pointer (c : Canvas α) (phase : PointerPhase) (p : Point α)
    (modifiers : Modifiers) : Effects × Canvas α :=
  match phase with
  | .down => c.press p modifiers
  | .move => c.move p modifiers
  | .up => c.release p
  | .cancel => (.none, c.cancel)

end PromptCanvas.Canvas
