import PromptCanvas.Proofs.Scene
import PromptCanvas.Store

set_option autoImplicit false
set_option relaxedAutoImplicit false

namespace PromptCanvas.Store

section Plain

variable {α : Type} (s : Store α)

def withScene (scene : Scene α) : Store α :=
  { s with canvas := { s.canvas with scene } }.notify (.ofScene true)

@[simp] theorem canvas_notify (effects : Effects) : (s.notify effects).canvas = s.canvas := by
  unfold notify
  split <;> rfl

@[simp] theorem scene_withScene (scene : Scene α) : (s.withScene scene).scene = scene := by
  simp [Store.scene, withScene]

theorem updateElement_eq (key : Key) (change : Element α → Element α) :
    s.updateElement key change =
      if s.scene.contains key then .ok (s.withScene (s.scene.modify key change))
      else .error (.elementNotFound key) := by
  unfold updateElement Scene.update Store.scene
  cases s.canvas.scene.contains key <;> rfl

/-- The element of a key with its reference id, and the scene that hands the next one out. -/
def numbered (key : Key) : Scene α :=
  let id := s.scene.nextRefId
  { s.scene.modify key (fun e => { e with refId := some id }) with
    refCounter := Scene.refAfter id }

theorem mention_eq (key : Key) :
    s.mention key =
      match s.scene.get? key with
      | none => .error (.elementNotFound key)
      | some e =>
        match e.refId with
        | some id => .ok (Reference.mention id, s)
        | none =>
          .ok (Reference.mention s.scene.nextRefId, s.withScene (s.numbered key)) := by
  unfold mention Canvas.mention Scene.ensureRefId Store.scene
  cases s.canvas.scene.get? key with
  | none => rfl
  | some e =>
    cases numbered : e.refId with
    | some id => simp [numbered, bind, Except.bind, pure, Except.pure, notify, Effects.any,
        Effects.ofScene, Effects.none]
    | none =>
      have moved := s.canvas.scene.max_refAfter_ne
      rw [Scene.nextRefId] at moved
      simp [numbered, moved, bind, Except.bind, pure, Except.pure, Scene.nextRefId, withScene,
        Store.numbered, Store.scene]

end Plain

variable {α : Type} [Scalar α] (s : Store α)

def freeBox (w h : α) (anchor : Option (Point α)) : Rect α :=
  let visible := s.canvas.viewport.visibleWorldRect
  let p := Placement.nearestFree s.scene.rects w h
    (anchor.getD s.canvas.viewport.worldCenter) visible.w visible.h
  ⟨p.x, p.y, w, h⟩

theorem insertPlaced_eq (key : Key) (content : Content α) (w h : α) (anchor : Option (Point α)) :
    s.insertPlaced key content w h anchor =
      if s.scene.contains key then .error (.duplicateKey key)
      else .ok (s.withScene
        { s.scene with
          elements := s.scene.elements ++ [Element.make key content (s.freeBox w h anchor)] }) := by
  have made : ∀ box : Rect α, (Element.make key content box).key = key := fun _ => rfl
  unfold insertPlaced Canvas.insertPlaced Scene.insert Store.scene
  simp only [made]
  cases s.canvas.scene.contains key <;> rfl

end PromptCanvas.Store
