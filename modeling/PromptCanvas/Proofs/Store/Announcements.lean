import PromptCanvas.Proofs.Canvas.Effects
import PromptCanvas.Proofs.Store.Operations

set_option autoImplicit false
set_option relaxedAutoImplicit false

namespace PromptCanvas.Store

variable {α : Type} [Scalar α]

/-- What can be done to a store from outside. -/
inductive Operation (α : Type) where
  | handle (event : InputEvent α)
  | updateScene (change : Scene α → Scene α)
  | updateElement (key : Key) (change : Element α → Element α)
  | insertPlaced (key : Key) (content : Content α) (w h : α) (anchor : Option (Point α))
  | mention (key : Key)
  | replaceScene (scene : Scene α)

/-- The store after an operation; one that fails leaves it as it is. -/
def Operation.perform (s : Store α) : Operation α → Store α
  | .handle event => (s.handle event).2
  | .updateScene change => (s.updateScene fun scene => ((), change scene)).2
  | .updateElement key change => (s.updateElement key change).toOption.getD s
  | .insertPlaced key content w h anchor => (s.insertPlaced key content w h anchor).toOption.getD s
  | .mention key => ((s.mention key).toOption.map Prod.snd).getD s
  | .replaceScene scene => s.replaceScene scene

/-- What was announced of an operation: the kinds come in the order scene, viewport, selection, all
with the next revision, which is counted just if there are any; and a part that was not announced is
as it was. -/
structure Announces (s s' : Store α) (kinds : List ChangeKind) : Prop where
  ordered : kinds.Sublist [.scene, .viewport, .selection]
  announced : s'.announced = s.announced ++ kinds.map fun kind => ⟨kind, s.revision + 1⟩
  revision : s'.revision = if kinds = [] then s.revision else s.revision + 1
  scene : .scene ∉ kinds → s'.scene = s.scene
  selection : .selection ∉ kinds → s'.canvas.selection = s.canvas.selection
  viewport : .viewport ∉ kinds →
    s'.canvas.viewport.viewState.Same s.canvas.viewport.viewState

section Kinds

variable (e : Effects)

private theorem kinds_sublist : e.kinds.Sublist [.scene, .viewport, .selection] := by
  obtain ⟨scene, selection, viewport⟩ := e
  cases scene <;> cases selection <;> cases viewport <;> decide

private theorem kinds_eq_nil_iff : e.kinds = [] ↔ e.any = false := by
  obtain ⟨scene, selection, viewport⟩ := e
  cases scene <;> cases selection <;> cases viewport <;> decide

private theorem mem_kinds :
    (.scene ∈ e.kinds ↔ e.scene = true) ∧ (.viewport ∈ e.kinds ↔ e.viewport = true) ∧
      (.selection ∈ e.kinds ↔ e.selection = true) := by
  obtain ⟨scene, selection, viewport⟩ := e
  cases scene <;> cases selection <;> cases viewport <;> decide

end Kinds

variable {s : Store α}

theorem announces_notify {e : Effects} {canvas : Canvas α} (covers : e.Covers s.canvas canvas) :
    Announces s ({ s with canvas }.notify e) e.kinds := by
  obtain ⟨scene, viewport, selection⟩ := mem_kinds e
  have canvas_eq : ({ s with canvas }.notify e).canvas = canvas := canvas_notify _ e
  constructor
  case ordered => exact kinds_sublist e
  case announced =>
    cases any : e.any with
    | true => simp [notify, any]
    | false => simp [notify, any, (kinds_eq_nil_iff e).mpr any]
  case revision =>
    cases any : e.any with
    | true =>
      have some : e.kinds ≠ [] := by simp [kinds_eq_nil_iff, any]
      simp [notify, any, some]
    | false => simp [notify, any, (kinds_eq_nil_iff e).mpr any]
  case scene =>
    intro unsaid
    rw [Store.scene, canvas_eq]
    exact covers.scene (by simpa [scene] using unsaid)
  case selection =>
    intro unsaid
    rw [canvas_eq]
    exact covers.selection (by simpa [selection] using unsaid)
  case viewport =>
    intro unsaid
    rw [canvas_eq]
    exact covers.viewport (by simpa [viewport] using unsaid)

private theorem announces_nil : Announces s s [] :=
  ⟨List.nil_sublist _, by simp, rfl, fun _ => rfl, fun _ => rfl, fun _ => .inl rfl⟩

private theorem announces_handle (event : InputEvent α) :
    Announces s (s.handle event).2 (s.handle event).1.kinds :=
  announces_notify (s.canvas.handle_covers event)

private theorem pruned_covers (c : Canvas α) (scene : Scene α) :
    let pruned := { c with scene }.pruneSelection
    ({ Effects.none with scene := true, selection := pruned.1 }).Covers c pruned.2 := by
  refine ⟨nofun, fun unchanged => ?_, fun _ => .inl rfl⟩
  have same : c.selection.keys.length = (c.selection.pruned scene).keys.length := by
    simpa [Canvas.pruneSelection, Selection.prune] using unchanged
  have part : (c.selection.pruned scene).keys.Sublist c.selection.keys := List.filter_sublist
  exact congrArg Selection.mk (part.eq_of_length same.symm)

private theorem announces_updateScene {β : Type} (operation : Scene α → β × Scene α) :
    ∃ kinds, Announces s (s.updateScene operation).2 kinds :=
  ⟨_, announces_notify (pruned_covers s.canvas (operation s.scene).2)⟩

private theorem announces_withScene (scene : Scene α) : Announces s (s.withScene scene) [.scene] :=
  announces_notify (Canvas.covers_ofScene nofun rfl rfl)

theorem announces_perform (operation : Operation α) :
    ∃ kinds, Announces s (operation.perform s) kinds := by
  cases operation with
  | handle event => exact ⟨_, announces_handle event⟩
  | updateScene change => exact announces_updateScene _
  | updateElement key change =>
    rw [Operation.perform, updateElement_eq]
    split
    · exact ⟨_, announces_withScene _⟩
    · exact ⟨_, announces_nil⟩
  | insertPlaced key content w h anchor =>
    rw [Operation.perform, insertPlaced_eq]
    split
    · exact ⟨_, announces_nil⟩
    · exact ⟨_, announces_withScene _⟩
  | mention key =>
    rw [Operation.perform, mention_eq]
    split
    · exact ⟨_, announces_nil⟩
    · split
      · exact ⟨_, announces_nil⟩
      · exact ⟨_, announces_withScene _⟩
  | replaceScene scene => exact announces_updateScene _

/-- Whatever is done to a store, each part that it changes is announced, all with the next revision
and in one order; without an announcement the revision stays.  The effects that the store reports of
an event of the user are those that it announces. -/
theorem no_change_unannounced (s : Store α) :
    (∀ operation : Operation α, ∃ kinds, Announces s (operation.perform s) kinds) ∧
      (∀ event : InputEvent α,
        Announces s (s.handle event).2 (s.handle event).1.kinds ∧
          (s.handle event).1.Covers s.canvas (s.handle event).2.canvas) := by
  refine ⟨announces_perform, fun event => ⟨announces_handle event, ?_⟩⟩
  have covers := s.canvas.handle_covers event
  unfold handle apply
  rwa [canvas_notify]

end PromptCanvas.Store
