import PromptCanvas.Process
import PromptCanvas.Proofs.Store.Operations

set_option autoImplicit false
set_option relaxedAutoImplicit false

namespace PromptCanvas

variable {α : Type}

theorem Content.exists_image_of_isRunning {content : Content α}
    (running : content.isRunning = true) : ∃ image, content.image? = some image := by
  cases content with
  | image i => exact ⟨i, rfl⟩
  | generator | shape | text => cases running

theorem Element.image?_mapImage (e : Element α) (change : Image α → Image α) :
    (e.mapImage change).image? = e.image?.map change := by
  cases content : e.content <;> simp [image?, mapImage, Content.mapImage, Content.image?, content]

namespace Scene

variable {s : Scene α} {key other : Key}

theorem isRunning_eq (s : Scene α) (key : Key) :
    s.isRunning key = (s.image? key).any fun image => image.status = .running := by
  unfold isRunning image?
  cases s.get? key with
  | none => rfl
  | some e => cases content : e.content <;> simp [Element.isRunning, Content.isRunning,
      Element.image?, Content.image?, content]

theorem isRunning_of_image? {image : Image α} (found : s.image? key = some image) :
    s.isRunning key = decide (image.status = .running) := by
  rw [isRunning_eq, found]
  rfl

theorem exists_image_of_isRunning (running : s.isRunning key = true) :
    ∃ image, s.image? key = some image := by
  rw [isRunning_eq] at running
  cases found : s.image? key with
  | none => simp [found] at running
  | some image => exact ⟨image, rfl⟩

private theorem contains_of_isRunning (running : s.isRunning key = true) :
    s.contains key = true := by
  unfold isRunning at running
  cases found : s.get? key with
  | none => simp [found] at running
  | some e => simp [contains, found]

theorem image?_modify_mapImage (s : Scene α) (key : Key) (change : Image α → Image α) :
    (s.modify key fun e => e.mapImage change).image? key = (s.image? key).map change := by
  unfold image?
  rw [get?_modify]
  cases s.get? key with
  | none => rfl
  | some e => exact e.image?_mapImage change

theorem image?_modify_of_ne (ne : other ≠ key) (change : Element α → Element α) :
    (s.modify key change).image? other = s.image? other := by
  rw [image?, get?_modify_of_ne ne, image?]

private theorem isRunning_modify_mapImage {change : Image α → Image α}
    (keeps : ∀ image, (change image).status = image.status) :
    (s.modify key fun e => e.mapImage change).isRunning other = s.isRunning other := by
  rw [isRunning_eq, isRunning_eq]
  by_cases same : other = key
  · subst same
    rw [image?_modify_mapImage]
    cases s.image? other with
    | none => rfl
    | some image => simp [keeps]
  · rw [image?_modify_of_ne same]

end Scene

namespace Workbench

theorem scene_changeImage (b : Workbench α) (key : Key) (change : Image α → Image α) :
    (b.changeImage key change).store.scene =
      b.store.scene.modify key fun e => e.mapImage change := by
  rw [changeImage, Store.updateElement_eq]
  split
  · exact Store.scene_withScene _ _
  · next absent =>
    exact (Scene.modify_of_not_contains (Bool.eq_false_iff.mpr absent)).symm

theorem isRunning_changeImage {b : Workbench α} {change : Image α → Image α} {key other : Key}
    (keeps : ∀ image, (change image).status = image.status) :
    (b.changeImage key change).store.scene.isRunning other = b.store.scene.isRunning other := by
  rw [scene_changeImage, Scene.isRunning_modify_mapImage keeps]

end Workbench

variable [Scalar α]

private theorem RunEvent.settle_of_isRunning (event : RunEvent) {e : Element α}
    (running : e.isRunning = true) : event.settle e = (event.effect, e.mapImage event.deliver) :=
  if_pos running

theorem Store.deliver_eq (s : Store α) (key : Key) (event : RunEvent) :
    s.deliver key event =
      if event.concerns key && s.scene.isRunning key then
        (event.effect, s.withScene (s.scene.modify key fun e => e.mapImage event.deliver))
      else (.ignored, s) := by
  unfold deliver
  split
  · next wanted =>
    have running : s.scene.isRunning key = true := (Bool.and_eq_true_iff.mp wanted).2
    rw [updateElement_eq, if_pos (Scene.contains_of_isRunning running)]
    cases found : s.scene.get? key with
    | none => simp [Scene.isRunning, found] at running
    | some e =>
      have waits : e.isRunning = true := by simpa [Scene.isRunning, found] using running
      have settled := event.settle_of_isRunning waits
      have same : (s.scene.modify key fun e => (event.settle e).2) =
          s.scene.modify key fun e => e.mapImage event.deliver :=
        Scene.modify_congr found (congrArg Prod.snd settled)
      simp only [settled, same]
  · rfl

end PromptCanvas
