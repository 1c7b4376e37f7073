import PromptCanvas.Canvas
import PromptCanvas.Proofs.Scene
import PromptCanvas.Proofs.Scene.Layers

set_option autoImplicit false
set_option relaxedAutoImplicit false

namespace PromptCanvas

variable {α : Type} [Scalar α]

/-- Two views have the same numbers, whether as they stand or by comparison. -/
def ViewState.Same (v w : ViewState α) : Prop := v = w ∨ v.agrees w = true

/-- What the effects do not name is after an operation what it was before. -/
structure Effects.Covers (e : Effects) (before after : Canvas α) : Prop where
  scene : e.scene = false → after.scene = before.scene
  selection : e.selection = false → after.selection = before.selection
  viewport : e.viewport = false → after.viewport.viewState.Same before.viewport.viewState

private theorem Selection.eq_empty_of_isEmpty {s : Selection} (none : s.isEmpty = true) :
    s = empty :=
  congrArg Selection.mk (List.isEmpty_iff.mp none)

namespace Canvas

variable {c c' : Canvas α} {e : Effects}

private theorem covers_of_eq (scene : c'.scene = c.scene) (selection : c'.selection = c.selection)
    (viewport : c'.viewport = c.viewport) : e.Covers c c' :=
  ⟨fun _ => scene, fun _ => selection, fun _ => .inl (congrArg Viewport.viewState viewport)⟩

theorem covers_ofScene {changed : Bool} (scene : changed = false → c'.scene = c.scene)
    (selection : c'.selection = c.selection) (viewport : c'.viewport = c.viewport) :
    (Effects.ofScene changed).Covers c c' :=
  ⟨scene, fun _ => selection, fun _ => .inl (congrArg Viewport.viewState viewport)⟩

private theorem covers_ofSelection {changed : Bool}
    (selection : changed = false → c'.selection = c.selection)
    (scene : c'.scene = c.scene) (viewport : c'.viewport = c.viewport) :
    (Effects.ofSelection changed).Covers c c' :=
  ⟨fun _ => scene, selection, fun _ => .inl (congrArg Viewport.viewState viewport)⟩

private theorem covers_ofViewport {changed : Bool}
    (viewport : changed = false → c'.viewport.viewState.Same c.viewport.viewState)
    (scene : c'.scene = c.scene) (selection : c'.selection = c.selection) :
    (Effects.ofViewport changed).Covers c c' :=
  ⟨fun _ => scene, fun _ => selection, viewport⟩

section Pointer

variable (c) (p : Point α) (modifiers : Modifiers)

private theorem pressed_of_contains {selection : Selection} {key : Key} (additive : Bool)
    (held : selection.contains key = true) : pressed selection key additive = selection :=
  if_pos held

private theorem press_covers : (c.press p modifiers).1.Covers c (c.press p modifiers).2 := by
  unfold press
  split
  · exact covers_of_eq rfl rfl rfl
  · split
    · next key corner _ => split <;> exact covers_of_eq rfl rfl rfl
    · next key _ =>
      refine covers_ofSelection (fun unchanged => ?_) rfl rfl
      exact pressed_of_contains _ (by simpa using unchanged)
    · exact covers_of_eq rfl rfl rfl

private theorem move_covers : (c.move p modifiers).1.Covers c (c.move p modifiers).2 := by
  unfold move
  split
  · exact covers_of_eq rfl rfl rfl
  · exact covers_ofViewport nofun rfl rfl
  · exact covers_of_eq rfl rfl rfl
  · exact covers_ofScene nofun rfl rfl
  · exact covers_ofScene Scene.modify_of_not_contains rfl rfl

private theorem release_covers : (c.release p).1.Covers c (c.release p).2 := by
  unfold release
  split
  · exact covers_ofSelection (fun unchanged => by simpa using unchanged) rfl rfl
  · exact covers_of_eq rfl rfl rfl

private theorem pointer_covers (phase : PointerPhase) :
    (c.pointer phase p modifiers).1.Covers c (c.pointer phase p modifiers).2 := by
  cases phase with
  | down => exact press_covers c p modifiers
  | move => exact move_covers c p modifiers
  | up => exact release_covers c p
  | cancel => exact covers_of_eq rfl rfl rfl

end Pointer

section Command

variable (c)

private theorem deleteSelected_covers : c.deleteSelected.1.Covers c c.deleteSelected.2 := by
  unfold deleteSelected
  split
  · exact covers_of_eq rfl rfl rfl
  · refine ⟨fun unchanged => ?_, nofun, fun _ => .inl rfl⟩
    exact Scene.removeAll_of_size_le (by simpa using unchanged)

private theorem command_covers (shortcut : Command) :
    (c.command shortcut).1.Covers c (c.command shortcut).2 := by
  cases shortcut with
  | deleteSelected => exact deleteSelected_covers c
  | clearSelection =>
    refine covers_ofSelection (fun unchanged => ?_) rfl rfl
    exact (Selection.eq_empty_of_isEmpty (by simpa using unchanged)).symm
  | moveUp => exact covers_ofScene Scene.moveUp_of_unchanged rfl rfl
  | moveDown => exact covers_ofScene Scene.moveDown_of_unchanged rfl rfl
  | bringToFront => exact covers_ofScene Scene.bringToFront_of_unchanged rfl rfl
  | sendToBack => exact covers_ofScene Scene.sendToBack_of_unchanged rfl rfl

end Command

private theorem wheel_covers (c : Canvas α) (p delta : Point α) (modifiers : Modifiers) :
    (c.wheel p delta modifiers).1.Covers c (c.wheel p delta modifiers).2 := by
  refine covers_ofViewport (fun unchanged => .inr ?_) rfl rfl
  simpa [wheel] using unchanged

private theorem respond_covers (c : Canvas α) (event : InputEvent α) :
    (c.respond event).1.Covers c (c.respond event).2 := by
  cases event with
  | pointer phase p modifiers => exact pointer_covers c p modifiers phase
  | wheel p delta modifiers => exact wheel_covers c p delta modifiers
  | command shortcut => exact command_covers c shortcut

theorem handle_covers (c : Canvas α) (event : InputEvent α) :
    (c.handle event).1.Covers c (c.handle event).2 :=
  let covers := respond_covers c event
  ⟨covers.scene, covers.selection, covers.viewport⟩

end Canvas

end PromptCanvas
