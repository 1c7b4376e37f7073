import PromptCanvas.Proofs.Canvas.WellFormed
import PromptCanvas.Proofs.Scene.References
import PromptCanvas.Proofs.Store.Announcements

set_option autoImplicit false
set_option relaxedAutoImplicit false

namespace PromptCanvas

variable {α : Type} [Scalar α]

/-- The box is one that a new element gets, whatever was asked for. -/
def Element.IsMade (e : Element α) : Prop := ∃ rect, e.rect = fitRect rect

/-- New elements are made, and changed ones keep their least sides. -/
def Scene.Edit.Proper : Edit α → Prop
  | .insert e => e.IsMade
  | .update _ change => ∀ e, e.rect.IsFit → (change e).rect.IsFit
  | _ => True

/-- A canvas that nothing was done to: a new one, or one with a scene that was read and nothing
selected. -/
inductive Canvas.Opening : Canvas α → Prop
  | new (viewW viewH : α) : Opening (ofSize viewW viewH)
  | read {c : Canvas α} (stored : Json α) (catalog : Catalog)
      (scene : c.scene = (Document.restoreValue stored catalog).scene)
      (selection : c.selection = Selection.empty) : Opening c

/-- Scenes are changed by their own operations only, as each scene demands, and others are put in
their place only if built from made elements. -/
def Store.Operation.Proper : Operation α → Prop
  | .updateScene change => ∀ scene, ∃ edits : List (Scene.Edit α),
      (∀ edit ∈ edits, edit.Proper) ∧ change scene = scene.edit edits
  | .updateElement _ change => ∀ e, e.rect.IsFit → (change e).rect.IsFit
  | .replaceScene scene => ∃ elements n,
      (∀ e ∈ elements, e.IsMade) ∧ scene = Scene.ofElements elements n
  | _ => True

namespace Store

variable {s : Store α}

private theorem wellFormed_updateScene {β : Type} (h : s.canvas.WellFormed)
    (operation : Scene α → β × Scene α) (fit : (operation s.scene).2.Fit) :
    (s.updateScene operation).2.canvas.WellFormed := by
  have pruned : (s.updateScene operation).2.canvas =
      ({ s.canvas with scene := (operation s.scene).2 } : Canvas α).pruneSelection.2 :=
    canvas_notify _ _
  rw [pruned]
  exact ⟨fit, Scene.within_pruned h.selection.nodup _⟩

private theorem wellFormed_withScene {scene : Scene α} (h : s.canvas.WellFormed) (fit : scene.Fit)
    (keys : s.scene.keys ⊆ scene.keys) : (s.withScene scene).canvas.WellFormed := by
  rw [withScene, canvas_notify]
  exact h.rescene fit keys rfl

end Store

variable [TotalScalar α]

private theorem Element.IsMade.fit {e : Element α} (made : e.IsMade) : e.rect.IsFit := by
  obtain ⟨rect, eq⟩ := made
  rw [eq]
  exact sides_fitRect rect

namespace Scene

variable {s : Scene α}

private theorem fit_ofElements {elements : List (Element α)} (made : ∀ e ∈ elements, e.IsMade)
    (n : Nat) : (ofElements elements n).Fit :=
  (sound_ofElements (fun e mem => (made e mem).fit) n).fit

private theorem fit_restore (doc : Document α) (catalog : Catalog) :
    (doc.restore catalog).scene.Fit := by
  unfold Document.restore
  split
  · exact (Document.sound_restoreElements catalog doc).fit
  · exact (Document.sound_rebuild catalog).fit

private theorem Fit.perform (fit : s.Fit) {edit : Edit α} (proper : edit.Proper) :
    (edit.perform s).Fit := by
  cases edit with
  | insert e =>
    show ((s.insert e).toOption.getD s).Fit
    unfold Scene.insert
    split
    · exact fit
    · next new => exact fit.insert (by simpa using new) proper.fit
  | remove key =>
    show (((s.remove key).toOption.map Prod.snd).getD s).Fit
    unfold remove
    split
    · exact fit.of_sublist List.eraseP_sublist
    · exact fit
  | removeAll keys => exact fit.of_sublist List.filter_sublist
  | update key change =>
    show ((s.update key change).toOption.getD s).Fit
    unfold update
    split
    · exact fit.modify key proper
    · exact fit
  | clear => exact fit.of_sublist (List.nil_sublist _)
  | moveUp keys => exact fit.of_perm (Layers.raise_perm _ _)
  | moveDown keys => exact fit.of_perm (Layers.lower_perm _ _)
  | bringToFront keys => exact fit.of_perm (Layers.toTop_perm _ _)
  | sendToBack keys => exact fit.of_perm (Layers.toBottom_perm _ _)
  | ensureRefId key =>
    show (((s.ensureRefId key).toOption.map Prod.snd).getD s).Fit
    unfold ensureRefId
    split
    · exact fit
    · split
      · exact fit
      · exact fit.setRef key s.nextRefId
  | reload catalog => exact fit_restore _ catalog

private theorem Fit.edit (fit : s.Fit) {edits : List (Edit α)}
    (proper : ∀ edit ∈ edits, edit.Proper) : (s.edit edits).Fit := by
  induction edits generalizing s with
  | nil => exact fit
  | cons first rest ih =>
    obtain ⟨first_proper, rest_proper⟩ := List.forall_mem_cons.mp proper
    exact ih (fit.perform first_proper) rest_proper

end Scene

private theorem Canvas.Opening.wellFormed {c : Canvas α} (start : c.Opening) : c.WellFormed := by
  cases start with
  | new viewW viewH => exact ⟨⟨List.nodup_nil, List.forall_mem_nil _⟩, Selection.within_empty _⟩
  | read stored catalog scene selection =>
    obtain ⟨doc, eq⟩ := Scene.exists_restore_eq stored catalog
    rw [eq] at scene
    exact ⟨scene ▸ Scene.fit_restore doc catalog, selection ▸ Selection.within_empty _⟩

namespace Store

variable {s : Store α}

private theorem wellFormed_perform (h : s.canvas.WellFormed) {operation : Operation α}
    (proper : operation.Proper) : (operation.perform s).canvas.WellFormed := by
  have edited (key : Key) (change : Element α → Element α) :
      s.scene.keys ⊆ (s.scene.modify key change).keys := by
    rw [Scene.keys_modify]
    exact List.Subset.refl _
  cases operation with
  | handle event =>
    have canvas : (s.handle event).2.canvas = (s.canvas.handle event).2 := canvas_notify _ _
    show (s.handle event).2.canvas.WellFormed
    rw [canvas]
    exact h.handle event
  | updateScene change =>
    obtain ⟨edits, all, eq⟩ := proper s.scene
    refine wellFormed_updateScene h _ ?_
    show (change s.scene).Fit
    rw [eq]
    exact Scene.Fit.edit h.scene all
  | updateElement key change =>
    rw [Operation.perform, updateElement_eq]
    split
    · exact wellFormed_withScene h (h.scene.modify key proper) (edited key change)
    · exact h
  | insertPlaced key content w h' anchor =>
    rw [Operation.perform, insertPlaced_eq]
    split
    · exact h
    · next new =>
      have fresh : s.scene.contains key = false := by simpa using new
      have made := Element.sides_fitRect (s.freeBox w h' anchor)
      refine wellFormed_withScene h (h.scene.insert fresh made) ?_
      exact ((List.sublist_append_left _ _).map Element.key).subset
  | mention key =>
    rw [Operation.perform, mention_eq]
    split
    · exact h
    · split
      · exact h
      · exact wellFormed_withScene h (h.scene.setRef key _) (edited key _)
  | replaceScene scene =>
    obtain ⟨elements, n, made, eq⟩ := proper
    refine wellFormed_updateScene h _ ?_
    show scene.Fit
    rw [eq]
    exact Scene.fit_ofElements made n

private theorem wellFormed_run {operations : List (Operation α)} (h : s.canvas.WellFormed)
    (proper : ∀ operation ∈ operations, operation.Proper) :
    (operations.foldl Operation.perform s).canvas.WellFormed := by
  induction operations generalizing s with
  | nil => exact h
  | cons first rest ih =>
    obtain ⟨first_proper, rest_proper⟩ := List.forall_mem_cons.mp proper
    exact ih (wellFormed_perform h first_proper) rest_proper

/-- A canvas that was new, or read with nothing selected, has different keys, sides of at least one
unit, and a selection of different keys that are there, whatever is done to it: under any gesture,
with any coordinates, and while others take away what is selected. -/
theorem canvas_stays_well_formed (start : s.canvas.Opening) {operations : List (Operation α)}
    (proper : ∀ operation ∈ operations, operation.Proper) :
    let c := (operations.foldl Operation.perform s).canvas
    c.scene.keys.Nodup ∧ (∀ e ∈ c.scene.elements, 1.0 ≤ e.rect.w ∧ 1.0 ≤ e.rect.h) ∧
      c.selection.keys.Nodup ∧ ∀ key ∈ c.selection.keys, c.scene.contains key = true := by
  intro c
  obtain ⟨scene, selection⟩ := wellFormed_run start.wellFormed proper
  refine ⟨scene.keys, scene.sides, selection.nodup, fun key mem => ?_⟩
  exact Scene.contains_iff.mpr (selection.subset mem)

/-- Two squares are dragged; one of them is taken away on the way, and the pointer is lost. -/
def lostDrag : List (Operation Float) :=
  let square (name : String) (x side : Float) : Element Float :=
    Element.make ⟨name⟩ (.shape .rect "red" "") ⟨x, 0.0, side, side⟩
  let adding : Modifiers := { Modifiers.none with additive := true }
  [.replaceScene (Scene.ofElements [square "fox" 0.0 20.0, square "owl" 50.0 0.25] 1),
    .handle (.pointer .down ⟨5.0, 5.0⟩ Modifiers.none),
    .handle (.pointer .up ⟨5.0, 5.0⟩ Modifiers.none),
    .handle (.pointer .down ⟨50.5, 0.5⟩ adding),
    .updateScene (fun scene => scene.edit [.remove ⟨"fox"⟩]),
    .handle (.pointer .move ⟨0.0 / 0.0, 1.0 / 0.0⟩ adding)]

private theorem lostDrag_proper : ∀ operation ∈ lostDrag, operation.Proper := by
  simp only [lostDrag, List.forall_mem_cons]
  refine ⟨⟨_, 1, ?made, rfl⟩, trivial, trivial, trivial, ?removed, trivial, List.forall_mem_nil _⟩
  case made =>
    simp only [List.forall_mem_cons]
    exact ⟨⟨_, rfl⟩, ⟨_, rfl⟩, List.forall_mem_nil _⟩
  case removed =>
    intro scene
    refine ⟨[.remove ⟨"fox"⟩], ?_, rfl⟩
    exact List.forall_mem_singleton.mpr trivial

theorem owl_stays_selected :
    let c := (lostDrag.foldl Operation.perform (ofCanvas (Canvas.ofSize 100.0 100.0))).canvas
    c.selection.keys = [⟨"owl"⟩] ∧ c.scene.keys = [⟨"owl"⟩] ∧
      ∀ e ∈ c.scene.elements, 1.0 ≤ e.rect.w ∧ 1.0 ≤ e.rect.h := by
  have start : (ofCanvas (Canvas.ofSize 100.0 100.0 : Canvas Float)).canvas.Opening :=
    .new 100.0 100.0
  obtain ⟨-, sides, -⟩ := canvas_stays_well_formed start lostDrag_proper
  exact ⟨by decide +kernel, by decide +kernel, sides⟩

end Store

end PromptCanvas
