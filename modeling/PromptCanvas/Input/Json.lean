import PromptCanvas.Input
import PromptCanvas.Json.Record

set_option autoImplicit false
set_option relaxedAutoImplicit false

namespace PromptCanvas

open Json

def PointerPhase.options : List (String × PointerPhase) :=
  [("down", .down), ("move", .move), ("up", .up), ("cancel", .cancel)]

def PointerPhase.name : PointerPhase → String
  | down => "down"
  | move => "move"
  | up => "up"
  | cancel => "cancel"

def Command.options : List (String × Command) :=
  [("delete_selected", .deleteSelected), ("clear_selection", .clearSelection),
    ("move_up", .moveUp), ("move_down", .moveDown), ("bring_to_front", .bringToFront),
    ("send_to_back", .sendToBack)]

def Command.name : Command → String
  | deleteSelected => "delete_selected"
  | clearSelection => "clear_selection"
  | moveUp => "move_up"
  | moveDown => "move_down"
  | bringToFront => "bring_to_front"
  | sendToBack => "send_to_back"

variable {α : Type}

namespace Modifiers

def reader : FieldReader α Modifiers := do
  let additive ← defaulted "additive" false bool?
  let freeAspect ← defaulted "free_aspect" false bool?
  let zoom ← defaulted "zoom" false bool?
  let hand ← defaulted "hand" false bool?
  pure { additive, freeAspect, zoom, hand }

def ofJson? : Json α → Option Modifiers := record? reader

def toJson (m : Modifiers) : Json α :=
  .obj [("additive", .bool m.additive), ("free_aspect", .bool m.freeAspect),
    ("zoom", .bool m.zoom), ("hand", .bool m.hand)]

end Modifiers

namespace InputEvent

variable [Scalar α]

def pointerReader : FieldReader α (InputEvent α) := do
  let phase ← required "phase" (choice? PointerPhase.options)
  let x ← required "x" number?
  let y ← required "y" number?
  let modifiers ← defaulted "modifiers" Modifiers.none Modifiers.ofJson?
  pure (.pointer phase ⟨x, y⟩ modifiers)

def wheelReader : FieldReader α (InputEvent α) := do
  let x ← required "x" number?
  let y ← required "y" number?
  let dx ← required "dx" number?
  let dy ← required "dy" number?
  let modifiers ← defaulted "modifiers" Modifiers.none Modifiers.ofJson?
  pure (.wheel ⟨x, y⟩ ⟨dx, dy⟩ modifiers)

def commandReader : FieldReader α (InputEvent α) := do
  let command ← required "command" (choice? Command.options)
  pure (.command command)

def kinds : List (String × FieldReader α (InputEvent α)) :=
  [("pointer", pointerReader), ("wheel", wheelReader), ("command", commandReader)]

def ofJson? : Json α → Option (InputEvent α) := tagged? "type" kinds

def toJson : InputEvent α → Json α
  | pointer phase p modifiers =>
    .obj [("type", .str "pointer"), ("phase", .str phase.name), ("x", ofNumber p.x),
      ("y", ofNumber p.y), ("modifiers", modifiers.toJson)]
  | wheel p delta modifiers =>
    .obj [("type", .str "wheel"), ("x", ofNumber p.x), ("y", ofNumber p.y),
      ("dx", ofNumber delta.x), ("dy", ofNumber delta.y), ("modifiers", modifiers.toJson)]
  | command c => .obj [("type", .str "command"), ("command", .str c.name)]

end InputEvent

end PromptCanvas
