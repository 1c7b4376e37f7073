import PromptCanvas.Canvas
import PromptCanvas.Proofs.Document.Sound
import PromptCanvas.Proofs.Scene.Layers

/-!
Well-formed canvases, and what a user can do to one.

Keys are different, boxes are at least one unit wide and high, and each selected key is selected
once and is in the scene.  Nothing is asked of the gesture under way: the elements that it began
with may be gone.
-/

set_option autoImplicit false
set_option relaxedAutoImplicit false

namespace PromptCanvas

variable {α : Type}

def Rect.IsFit [Scalar α] (r : Rect α) : Prop := 1.0 ≤ r.w ∧ 1.0 ≤ r.h

/-- Different keys and fit boxes. -/
structure Scene.Fit [Scalar α] (s : Scene α) : Prop where
  keys : s.keys.Nodup
  sides : ∀ e ∈ s.elements, e.rect.IsFit

structure Selection.Within (s : Selection) (keys : List Key) : Prop where
  nodup : s.keys.Nodup
  subset : s.keys ⊆ keys

structure Canvas.WellFormed [Scalar α] (c : Canvas α) : Prop where
  scene : c.scene.Fit
  selection : c.selection.Within c.scene.keys

namespace Selection

variable {s : Selection} {keys : List Key}

theorem within_empty (keys : List Key) : empty.Within keys :=
  ⟨List.nodup_nil, List.nil_subset keys⟩

private theorem within_only {key : Key} (mem : key ∈ keys) : (only key).Within keys :=
  ⟨List.nodup_singleton key, List.cons_subset.mpr ⟨mem, List.nil_subset keys⟩⟩

private theorem Within.append {key : Key} (within : s.Within keys) (mem : key ∈ keys) :
    (s.append key).Within keys := by
  unfold Selection.append
  split
  · exact within
  · next fresh =>
    have apart : key ∉ s.keys := by simpa [contains] using fresh
    constructor
    · exact List.nodup_append'.mpr
        ⟨within.nodup, List.nodup_singleton key, List.disjoint_singleton.mpr apart⟩
    · exact List.append_subset.mpr ⟨within.subset, by simpa using mem⟩

private theorem Within.appendAll {more : List Key} (within : s.Within keys) (mem : more ⊆ keys) :
    (s.appendAll more).Within keys := by
  induction more generalizing s with
  | nil => exact within
  | cons key rest ih =>
    obtain ⟨here, later⟩ := List.cons_subset.mp mem
    exact ih (within.append here) later

private theorem Within.mono {wider : List Key} (within : s.Within keys) (subset : keys ⊆ wider) :
    s.Within wider :=
  ⟨within.nodup, List.Subset.trans within.subset subset⟩

end Selection

namespace Scene

variable {s : Scene α}

theorem within_pruned {selection : Selection} (nodup : selection.keys.Nodup) (s : Scene α) :
    (selection.pruned s).Within s.keys := by
  refine ⟨nodup.filter _, fun key mem => ?_⟩
  exact contains_iff.mp (List.mem_filter.mp mem).2

variable [Scalar α]

theorem Sound.fit (sound : s.Sound) : s.Fit := ⟨sound.keys, sound.sides⟩

namespace Fit

theorem of_sublist {elements : List (Element α)} (fit : s.Fit)
    (part : elements.Sublist s.elements) : Fit { s with elements } :=
  ⟨fit.keys.sublist (part.map Element.key), fun e mem => fit.sides e (part.subset mem)⟩

theorem of_perm {elements : List (Element α)} (fit : s.Fit) (same : elements.Perm s.elements) :
    Fit { s with elements } :=
  ⟨(same.map Element.key).nodup_iff.mpr fit.keys, fun e mem => fit.sides e (same.subset mem)⟩

theorem insert {e : Element α} (fit : s.Fit) (new : s.contains e.key = false)
    (sides : e.rect.IsFit) : Fit { s with elements := s.elements ++ [e] } := by
  have apart : e.key ∉ s.keys := fun mem => by
    rw [contains_iff.mpr mem] at new
    cases new
  constructor
  case keys =>
    show ((s.elements ++ [e]).map Element.key).Nodup
    rw [List.map_append]
    exact List.nodup_append'.mpr
      ⟨fit.keys, List.nodup_singleton e.key, List.disjoint_singleton.mpr apart⟩
  case sides =>
    intro other mem
    rcases List.mem_append.mp mem with old | here
    · exact fit.sides other old
    · rwa [List.mem_singleton.mp here]

theorem modify {change : Element α → Element α} (fit : s.Fit) (key : Key)
    (keeps : ∀ e, e.rect.IsFit → (change e).rect.IsFit) : (s.modify key change).Fit := by
  refine ⟨(keys_modify s key change).symm ▸ fit.keys, ?_⟩
  have changed : ∀ elements : List (Element α), (∀ e ∈ elements, e.rect.IsFit) →
      ∀ e ∈ changeFirst key change elements, e.rect.IsFit := by
    intro elements sides
    induction elements with
    | nil => exact sides
    | cons first rest ih =>
      obtain ⟨first_fit, rest_fit⟩ := List.forall_mem_cons.mp sides
      rw [changeFirst]
      split
      · exact List.forall_mem_cons.mpr ⟨keeps first first_fit, rest_fit⟩
      · exact List.forall_mem_cons.mpr ⟨first_fit, ih rest_fit⟩
  exact changed s.elements fit.sides

theorem setRef (fit : s.Fit) (key : Key) (id : Nat) :
    Fit { s.modify key (fun e => { e with refId := some id }) with refCounter := refAfter id } := by
  have named : (s.modify key fun e => { e with refId := some id }).Fit :=
    fit.modify key fun _ sides => sides
  exact ⟨named.keys, named.sides⟩

end Fit

end Scene

namespace Canvas

variable [Scalar α] {c c' : Canvas α}

namespace WellFormed

private theorem reselect (h : c.WellFormed) (scene : c'.scene = c.scene)
    (within : c'.selection.Within c.scene.keys) : c'.WellFormed :=
  ⟨scene ▸ h.scene, scene ▸ within⟩

private theorem congr (h : c.WellFormed) (scene : c'.scene = c.scene)
    (selection : c'.selection = c.selection) : c'.WellFormed :=
  h.reselect scene (selection ▸ h.selection)

theorem rescene (h : c.WellFormed) (fit : c'.scene.Fit) (keys : c.scene.keys ⊆ c'.scene.keys)
    (selection : c'.selection = c.selection) : c'.WellFormed :=
  ⟨fit, selection ▸ h.selection.mono keys⟩

private theorem rebox (h : c.WellFormed) (fit : c'.scene.Fit) (keys : c'.scene.keys = c.scene.keys)
    (selection : c'.selection = c.selection) : c'.WellFormed :=
  ⟨fit, by rw [selection, keys]; exact h.selection⟩

end WellFormed

private theorem mem_keys_of_hit {scene : Scene α} {selection : Selection} {viewport : Viewport α}
    {p : Point α} {key : Key} (hit : Hit.test scene selection viewport p = .element key) :
    key ∈ scene.keys := by
  unfold Hit.test at hit
  split at hit
  · cases hit
  · split at hit
    · next e found =>
      cases hit
      have mem : e ∈ scene.elements.reverse := List.mem_of_find?_eq_some found
      exact List.mem_map_of_mem (List.mem_reverse.mp mem)
    · cases hit

private theorem within_pressed {selection : Selection} {keys : List Key} {key : Key}
    (within : selection.Within keys) (mem : key ∈ keys) (additive : Bool) :
    (pressed selection key additive).Within keys := by
  unfold pressed
  split
  · exact within
  · split
    · exact within.append mem
    · exact Selection.within_only mem

private theorem WellFormed.press (h : c.WellFormed) (p : Point α) (modifiers : Modifiers) :
    (c.press p modifiers).2.WellFormed := by
  unfold Canvas.press
  split
  · exact h.congr rfl rfl
  · split
    · split <;> exact h.congr rfl rfl
    · next key hit =>
      exact h.reselect rfl (within_pressed h.selection (mem_keys_of_hit hit) modifiers.additive)
    · exact h.congr rfl rfl

private theorem keys_shiftAll (scene : Scene α) (origins : List (Key × Point α)) (delta : Point α) :
    (shiftAll scene origins delta).keys = scene.keys := by
  induction origins generalizing scene with
  | nil => rfl
  | cons origin rest ih => exact (ih _).trans (Scene.keys_modify scene _ _)

private theorem fit_shiftAll {scene : Scene α} (fit : scene.Fit) (origins : List (Key × Point α))
    (delta : Point α) : (shiftAll scene origins delta).Fit := by
  induction origins generalizing scene with
  | nil => exact fit
  | cons origin rest ih => exact ih (fit.modify origin.1 fun _ sides => sides)

private theorem WellFormed.release (h : c.WellFormed) (p : Point α) :
    (c.release p).2.WellFormed := by
  unfold Canvas.release
  split
  · next start _ additive _ =>
    refine h.reselect rfl ?_
    have hits : ∀ world, c.scene.keysIntersecting world ⊆ c.scene.keys := fun world =>
      (List.filter_sublist.map Element.key).subset
    have nothing := Selection.within_empty c.scene.keys
    show Selection.Within (if _ then _ else _) _
    split
    · cases additive with
      | true => exact h.selection
      | false => exact nothing
    · cases additive with
      | true => exact h.selection.appendAll (hits _)
      | false => exact nothing.appendAll (hits _)
  · exact h.congr rfl rfl

private theorem WellFormed.command (h : c.WellFormed) (shortcut : Command) :
    (c.command shortcut).2.WellFormed := by
  have restacked {elements : List (Element α)} (same : elements.Perm c.scene.elements) :
      ({ c with scene := { c.scene with elements } } : Canvas α).WellFormed :=
    h.rescene (h.scene.of_perm same) (same.symm.map Element.key).subset rfl
  cases shortcut with
  | deleteSelected =>
    show c.deleteSelected.2.WellFormed
    unfold deleteSelected
    split
    · exact h
    · exact ⟨h.scene.of_sublist List.filter_sublist, Selection.within_empty _⟩
  | clearSelection => exact h.reselect rfl (Selection.within_empty _)
  | moveUp => exact restacked (Layers.raise_perm _ _)
  | moveDown => exact restacked (Layers.lower_perm _ _)
  | bringToFront => exact restacked (Layers.toTop_perm _ _)
  | sendToBack => exact restacked (Layers.toBottom_perm _ _)

variable [TotalScalar α]

private theorem WellFormed.move (h : c.WellFormed) (p : Point α) (modifiers : Modifiers) :
    (c.move p modifiers).2.WellFormed := by
  unfold Canvas.move
  split
  · exact h
  · exact h.congr rfl rfl
  · exact h.congr rfl rfl
  · next start origins _ =>
    exact h.rebox (fit_shiftAll h.scene origins _) (keys_shiftAll ..) rfl
  · next session _ =>
    have sides : ∀ e : Element α, e.rect.IsFit →
        (e.withRect (resizedRect c.viewport session p modifiers)).rect.IsFit :=
      fun _ _ => Element.sides_fitRect _
    exact h.rebox (h.scene.modify session.key sides) (Scene.keys_modify ..) rfl

theorem WellFormed.handle (h : c.WellFormed) (event : InputEvent α) :
    (c.handle event).2.WellFormed := by
  have responded : (c.respond event).2.WellFormed := by
    cases event with
    | pointer phase p modifiers =>
      cases phase with
      | down => exact h.press p modifiers
      | move => exact h.move p modifiers
      | up => exact h.release p
      | cancel => exact h.congr rfl rfl
    | wheel p delta modifiers => exact h.congr rfl rfl
    | command shortcut => exact h.command shortcut
  exact responded.congr rfl rfl

end Canvas

end PromptCanvas
