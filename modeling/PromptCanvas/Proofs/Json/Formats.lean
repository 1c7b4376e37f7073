import PromptCanvas.Asset
import PromptCanvas.Input.Json
import PromptCanvas.Proofs.Document.Json
import PromptCanvas.Scene.Json
import PromptCanvas.Viewport

set_option autoImplicit false
set_option relaxedAutoImplicit false

namespace PromptCanvas

open Json

variable {α : Type}

/-- Sides of at most 32 bits, where they are known. -/
structure Asset.Writable (a : Asset) : Prop where
  width : ∀ w ∈ a.width, w ≤ Text.max32
  height : ∀ h ∈ a.height, h ≤ Text.max32

private theorem yields_nat32 {n : Option Nat} (within : ∀ i ∈ n, i ≤ Text.max32) :
    Yields (nullable nat32?) (ofOption .ofNat n : Json α) n :=
  yields_ofOption (fun i mem => yields_ofNat (within i mem)) fun _ _ => nofun

private theorem Asset.yields {a : Asset} (writable : a.Writable) :
    Yields Asset.ofJson? (a.toJson : Json α) a := by
  refine yields_record? (by simp) fun members carries => ?_
  simp only [carries_cons_iff] at carries
  obtain ⟨id, contentHash, url, width, height, -⟩ := carries
  exact .bind (.required id (.plain rfl rfl)) (.bind (.required contentHash (.plain rfl rfl))
    (.bind (.required url (.plain rfl rfl))
      (.bind (.optional width (yields_nat32 writable.width))
        (.bind (.optional height (yields_nat32 writable.height)) (.pure a)))))

private theorem Modifiers.yields (m : Modifiers) :
    Yields Modifiers.ofJson? (m.toJson : Json α) m := by
  refine yields_record? (by simp) fun members carries => ?_
  simp only [carries_cons_iff] at carries
  obtain ⟨additive, freeAspect, zoom, hand, -⟩ := carries
  exact .bind (.defaulted additive (.plain rfl rfl))
    (.bind (.defaulted freeAspect (.plain rfl rfl))
      (.bind (.defaulted zoom (.plain rfl rfl))
        (.bind (.defaulted hand (.plain rfl rfl)) (.pure m))))

private theorem PointerPhase.yields_name (phase : PointerPhase) :
    Yields (choice? PointerPhase.options) (.str phase.name : Json α) phase := by
  cases phase <;> exact .plain rfl rfl

private theorem Command.yields_name (command : Command) :
    Yields (choice? Command.options) (.str command.name : Json α) command := by
  cases command <;> exact .plain rfl rfl

variable [Scalar α]

/-- Both coordinates are finite. -/
structure Point.IsFinite (p : Point α) : Prop where
  x : Scalar.isFinite p.x = true
  y : Scalar.isFinite p.y = true

def InputEvent.IsFinite : InputEvent α → Prop
  | pointer _ p _ => p.IsFinite
  | wheel p delta _ => p.IsFinite ∧ delta.IsFinite
  | command _ => True

private theorem InputEvent.yields {event : InputEvent α} (finite : event.IsFinite) :
    Yields InputEvent.ofJson? event.toJson event := by
  cases event with
  | pointer phase p modifiers =>
    refine yields_tagged? (by simp) rfl fun members carries => ?_
    simp only [carries_cons_iff] at carries
    obtain ⟨phaseField, x, y, held, -⟩ := carries
    exact .bind (.required phaseField phase.yields_name)
      (.bind (.required x (yields_ofNumber finite.x))
        (.bind (.required y (yields_ofNumber finite.y))
          (.bind (.defaulted held modifiers.yields) (.pure _))))
  | wheel p delta modifiers =>
    obtain ⟨position, distance⟩ := finite
    refine yields_tagged? (by simp) rfl fun members carries => ?_
    simp only [carries_cons_iff] at carries
    obtain ⟨x, y, dx, dy, held, -⟩ := carries
    exact .bind (.required x (yields_ofNumber position.x))
      (.bind (.required y (yields_ofNumber position.y))
        (.bind (.required dx (yields_ofNumber distance.x))
          (.bind (.required dy (yields_ofNumber distance.y))
            (.bind (.defaulted held modifiers.yields) (.pure _)))))
  | command shortcut =>
    refine yields_tagged? (by simp) rfl fun members carries => ?_
    simp only [carries_cons_iff] at carries
    obtain ⟨named, -⟩ := carries
    exact .bind (.required named shortcut.yields_name) (.pure _)

/-- The zoom and the camera are finite. -/
structure ViewState.IsFinite (v : ViewState α) : Prop where
  zoom : Scalar.isFinite v.zoom = true
  x : Scalar.isFinite v.x = true
  y : Scalar.isFinite v.y = true

private theorem ViewState.yields {v : ViewState α} (finite : v.IsFinite) :
    Yields ViewState.ofJson? v.toJson v := by
  refine yields_record? (by simp) fun members carries => ?_
  simp only [carries_cons_iff] at carries
  obtain ⟨zoom, x, y, -⟩ := carries
  exact .bind (.required zoom (yields_ofNumber finite.zoom))
    (.bind (.required x (yields_ofNumber finite.x))
      (.bind (.required y (yields_ofNumber finite.y)) (.pure v)))

/-- The elements can be written, and the counter has at most 32 bits. -/
structure Scene.Writable (s : Scene α) : Prop where
  elements : ∀ e ∈ s.elements, e.Writable
  refCounter : s.refCounter ≤ Text.max32

private theorem Scene.yields {s : Scene α} (writable : s.Writable) :
    Yields Scene.ofJson? s.toJson s := by
  refine yields_record? (by simp) fun members carries => ?_
  simp only [carries_cons_iff] at carries
  obtain ⟨elements, refCounter, -⟩ := carries
  have each : Yields (list? Element.ofJson?) (.arr (s.elements.map Element.toJson)) s.elements :=
    yields_list? fun e mem => Element.yields (writable.elements e mem)
  exact .bind (.required elements each)
    (.bind (.required refCounter (yields_ofNat writable.refCounter)) (.pure s))

/-- What is written of events, contents, elements, scenes, documents, assets, views and sizes is
read back, also where objects in it were given members of other names. -/
theorem written_is_read_back :
    (∀ event : InputEvent α, event.IsFinite → Yields InputEvent.ofJson? event.toJson event) ∧
    (∀ content : Content α, content.Writable →
      Yields Content.ofJson? content.toJson content) ∧
    (∀ e : Element α, e.Writable → Yields Element.ofJson? e.toJson e) ∧
    (∀ s : Scene α, s.Writable → Yields Scene.ofJson? s.toJson s) ∧
    (∀ d : Document α, d.Writable → Yields Document.ofJson? d.toJson d) ∧
    (∀ a : Asset, a.Writable → Yields Asset.ofJson? (a.toJson : Json α) a) ∧
    (∀ v : ViewState α, v.IsFinite → Yields ViewState.ofJson? v.toJson v) ∧
    (∀ s : Size, s.IsNarrow → Yields Size.ofJson? (s.toJson : Json α) s) :=
  ⟨fun _ => InputEvent.yields, fun _ => Content.yields, fun _ => Element.yields,
    fun _ => Scene.yields, fun _ => Document.yields, fun _ => Asset.yields,
    fun _ => ViewState.yields, fun _ => Size.yields⟩

section Sample

def owned : Json Float → Json Float
  | .obj members => .obj (("owner", .str "Elk") :: members)
  | json => json

def press : InputEvent Float := .pointer .down ⟨8.0, 16.0⟩ ⟨true, false, false, false⟩

def owlMaker : Element Float :=
  ⟨⟨"owl"⟩, ⟨8.0, 16.0, 64.0, 32.0⟩, some 1,
    .generator ⟨"An owl", some ⟨640, 480⟩, none, false, false⟩⟩

def owlScene : Scene Float := ⟨[owlMaker], 2⟩

def owlDocument : Document Float := ⟨2, [⟨0, owlMaker⟩], .none, 2⟩

def owlAsset : Asset := ⟨"a1", "h1", "https://assets/a1.png", some 64, none⟩

def farView : ViewState Float := ⟨0.5, 8.0, 16.0⟩

private theorem owlMaker_writable : owlMaker.Writable := by
  refine ⟨⟨by decide, by decide, by decide, by decide⟩, by decide, ?_⟩
  refine ⟨fun s mem => ?_, nofun⟩
  obtain rfl := Option.some.inj mem
  exact ⟨by decide, by decide⟩

theorem owned_owl_is_read_back :
    InputEvent.ofJson? (owned press.toJson) = some press ∧
    Content.ofJson? (owned owlMaker.content.toJson) = some owlMaker.content ∧
    Element.ofJson? (owned owlMaker.toJson) = some owlMaker ∧
    Scene.ofJson? (owned owlScene.toJson) = some owlScene ∧
    Document.ofJson? (owned owlDocument.toJson) = some owlDocument ∧
    Asset.ofJson? (owned owlAsset.toJson) = some owlAsset ∧
    ViewState.ofJson? (owned farView.toJson) = some farView ∧
    Size.ofJson? (owned (Size.toJson .standard)) = some .standard := by
  have further : ∀ members : List (String × Json Float), "owner" ∉ members.map Prod.fst →
      Extends (.obj members) (owned (.obj members)) := by
    intro members apart
    have added : Extends (.obj members) (.obj ([("owner", .str "Elk")] ++ members)) :=
      .append (by simpa using apart)
    exact added
  have maker := owlMaker_writable
  have scene : owlScene.Writable := ⟨by simpa [owlScene] using maker, by decide⟩
  have document : owlDocument.Writable :=
    ⟨by decide, by simpa [owlDocument] using ⟨by decide, maker⟩, by decide, by decide, by decide⟩
  have asset : owlAsset.Writable := by
    refine ⟨fun w mem => ?_, nofun⟩
    obtain rfl := Option.some.inj mem
    decide
  obtain ⟨events, contents, elements, scenes, documents, assets, views, sizes⟩ :=
    written_is_read_back (α := Float)
  refine ⟨events press ⟨by decide, by decide⟩ _ (further _ ?_),
    contents _ maker.content _ (further _ ?_), elements _ maker _ (further _ ?_),
    scenes _ scene _ (further _ ?_), documents _ document _ (further _ ?_),
    assets _ asset _ (further _ ?_),
    views farView ⟨by decide, by decide, by decide⟩ _ (further _ ?_),
    sizes .standard ⟨by decide, by decide⟩ _ (further _ ?_)⟩
  all_goals decide

end Sample

end PromptCanvas
