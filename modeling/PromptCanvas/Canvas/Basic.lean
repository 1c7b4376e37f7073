import PromptCanvas.Gesture
import PromptCanvas.Viewport.FrameSync

set_option autoImplicit false
set_option relaxedAutoImplicit false

namespace PromptCanvas

/-- What an operation changed. -/
structure Effects where
  scene : Bool
  selection : Bool
  viewport : Bool
  deriving Repr, DecidableEq

namespace Effects

def none : Effects := ⟨false, false, false⟩

def ofScene (changed : Bool) : Effects := { none with scene := changed }

def ofSelection (changed : Bool) : Effects := { none with selection := changed }

def ofViewport (changed : Bool) : Effects := { none with viewport := changed }

def merge (a b : Effects) : Effects :=
  ⟨a.scene || b.scene, a.selection || b.selection, a.viewport || b.viewport⟩

def any (e : Effects) : Bool := e.scene || e.selection || e.viewport

end Effects

/-- The state of one canvas. -/
structure Canvas (α : Type) where
  scene : Scene α
  selection : Selection
  viewport : Viewport α
  gesture : Gesture α
  frameSync : FrameSync
  deriving Repr, DecidableEq

namespace Canvas

variable {α : Type} [Scalar α]

@[specialize] def ofSize (viewW viewH : α) : Canvas α :=
  { scene := Scene.empty
    selection := Selection.empty
    viewport := Viewport.ofSize viewW viewH
    gesture := .idle
    frameSync := FrameSync.idle }

@[specialize] def blank : Canvas α :=
  { scene := Scene.blank
    selection := Selection.empty
    viewport := Viewport.standard
    gesture := .idle
    frameSync := FrameSync.idle }

end Canvas

end PromptCanvas
