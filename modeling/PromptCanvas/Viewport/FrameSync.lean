import PromptCanvas.Viewport

set_option autoImplicit false
set_option relaxedAutoImplicit false

namespace PromptCanvas

/-- Which viewport changes are still to be shown and to be reported. -/
structure FrameSync where
  frameDue : Bool
  reportDue : Bool
  lastReport : Option Nat
  deriving Repr, DecidableEq

namespace FrameSync

def reportInterval : Nat := 80

def idle : FrameSync := ⟨false, false, none⟩

def mark (f : FrameSync) : FrameSync := { f with frameDue := true, reportDue := true }

def markIf (changed : Bool) (f : FrameSync) : FrameSync := if changed then f.mark else f

def takeFrame (f : FrameSync) : Bool × FrameSync := (f.frameDue, { f with frameDue := false })

def reportAllowed (f : FrameSync) (now : Nat) : Bool :=
  match f.lastReport with
  | none => true
  | some last => reportInterval ≤ now - last

def poll {α : Type} [Scalar α] (f : FrameSync) (v : Viewport α) (now : Nat) :
    Option (ViewState α) × FrameSync :=
  if f.reportDue && f.reportAllowed now then
    (some v.viewState, { f with reportDue := false, lastReport := some now })
  else (none, f)

end FrameSync

end PromptCanvas
