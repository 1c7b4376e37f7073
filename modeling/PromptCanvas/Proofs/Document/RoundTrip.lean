import Mathlib.Data.List.Forall2
import PromptCanvas.Proofs.Document.Image
import PromptCanvas.Proofs.Document.Json
import PromptCanvas.Proofs.Scalar
import PromptCanvas.Proofs.Scene

/-!
A scene that is written and read back.

What is durable is written, up to a limit from the top.  What was written comes back in its order,
element by element, and the counters say what is missing.
-/

set_option autoImplicit false
set_option relaxedAutoImplicit false

namespace PromptCanvas

/-- Finite measurements, and whole numbers of 32 bits. -/
structure Scene.Measured {α : Type} [Scalar α] (s : Scene α) : Prop where
  rects : ∀ e ∈ s.elements, e.rect.IsFinite
  contents : ∀ e ∈ s.elements, e.content.Writable
  refs : ∀ e ∈ s.elements, ∀ id ∈ e.refId, id ≤ Text.max32
  counter : s.nextRefId ≤ Text.max32

/-- Different keys, finite measurements, boxes of at least one unit, reference ids below the next
one, and counts that fit into machine words. -/
structure Scene.Savable {α : Type} [Scalar α] (s : Scene α) : Prop where
  keys : s.keys.Nodup
  rects : ∀ e ∈ s.elements, e.rect.IsFinite
  contents : ∀ e ∈ s.elements, e.content.Writable
  sides : ∀ e ∈ s.elements, 1.0 ≤ e.rect.w ∧ 1.0 ≤ e.rect.h
  refs : ∀ e ∈ s.elements, ∀ id ∈ e.refId, id < s.nextRefId
  counter : s.nextRefId ≤ Text.max32
  size : s.size ≤ Text.max64

theorem Scene.Savable.measured {α : Type} [Scalar α] {s : Scene α} (savable : s.Savable) :
    s.Measured := by
  refine ⟨savable.rects, savable.contents, fun e mem id has => ?_, savable.counter⟩
  exact Nat.le_trans (Nat.le_of_lt (savable.refs e mem id has)) savable.counter

namespace Document

section Plain

variable {α : Type}

/-- The elements of a scene that can be found again, from bottom to top. -/
def durable (scene : Scene α) : List (Element α) := scene.elements.filter isDurable

/-- The elements of a scene that are written, from bottom to top. -/
def written (scene : Scene α) : List (Element α) := topmost (durable scene)

/-- What is left of a written element that is read back. -/
structure Survives (catalog : Catalog) (e back : Element α) : Prop where
  key : back.key = e.key
  rect : back.rect = e.rect
  refId : back.refId = e.refId
  image : ∀ image, e.content = .image image →
    ∃ image', back.content = .image image' ∧ ImageSurvives catalog image image'
  other : e.image? = none → back.content = e.content

theorem elements_ofScene (scene : Scene α) :
    (ofScene scene).elements = numbered (written scene) := by
  rw [ofScene, written, durable]

private theorem written_suffix (scene : Scene α) : written scene <:+ durable scene :=
  List.drop_suffix _ _

theorem length_written (scene : Scene α) :
    (written scene).length = min (durable scene).length maxElements := by
  rw [written, topmost, List.length_drop]
  omega

theorem written_sublist (scene : Scene α) : (written scene).Sublist scene.elements :=
  (written_suffix scene).sublist.trans List.filter_sublist

theorem isDurable_of_mem_written {scene : Scene α} {e : Element α} (mem : e ∈ written scene) :
    isDurable e = true :=
  (List.mem_filter.mp ((written_suffix scene).subset mem)).2

private theorem numbered_z (elements : List (Element α)) :
    (numbered elements).map SavedElement.z = List.range elements.length := by
  apply List.ext_getElem
  · simp [numbered]
  · intro z _ _
    simp [numbered]

theorem numbered_element (elements : List (Element α)) :
    (numbered elements).map SavedElement.element = elements.map fun e => e.mapImage savedImage := by
  apply List.ext_getElem
  · simp [numbered]
  · intro z _ _
    simp [numbered]

private theorem mem_numbered {elements : List (Element α)} {s : SavedElement α}
    (mem : s ∈ numbered elements) :
    s.z < elements.length ∧ ∃ e ∈ elements, s.element = e.mapImage savedImage := by
  obtain ⟨z, below, rfl⟩ := List.mem_mapIdx.mp mem
  exact ⟨below, _, List.getElem_mem below, rfl⟩

private theorem stacked_numbered (elements : List (Element α)) :
    stacked (numbered elements) = numbered elements := by
  refine List.mergeSort_of_pairwise ?_
  have sorted : ((numbered elements).map SavedElement.z).Pairwise (· ≤ ·) := by
    rw [numbered_z]
    exact List.pairwise_le_range
  refine (List.pairwise_map.mp sorted).imp ?_
  intro a b le
  exact decide_eq_true le

theorem filterMap_numbered {β : Type} (read : Element α → Option β) (elements : List (Element α)) :
    (numbered elements).filterMap (fun s => read s.element) =
      elements.filterMap fun e => read (e.mapImage savedImage) := by
  calc (numbered elements).filterMap (fun s => read s.element)
    _ = ((numbered elements).map SavedElement.element).filterMap read := by
      rw [List.filterMap_map]
      rfl
    _ = elements.filterMap fun e => read (e.mapImage savedImage) := by
      rw [numbered_element, List.filterMap_map]
      rfl

private theorem forall₂_filterMap {β : Type} {R : Element α → β → Prop}
    {read : Element α → Option β} {elements : List (Element α)}
    (back : ∀ e ∈ elements, ∃ b, read e = some b ∧ R e b) :
    List.Forall₂ R elements (elements.filterMap read) := by
  induction elements with
  | nil => exact .nil
  | cons e rest ih =>
    obtain ⟨b, eq, holds⟩ := back e List.mem_cons_self
    rw [List.filterMap_cons_some eq]
    exact .cons holds (ih fun later mem => back later (List.mem_cons_of_mem e mem))

private theorem map_of_survives {β : Type} {catalog : Catalog} {elements backs : List (Element α)}
    {part : Element α → β} (same : ∀ e back, Survives catalog e back → part back = part e)
    (survive : List.Forall₂ (Survives catalog) elements backs) :
    backs.map part = elements.map part := by
  induction survive with
  | nil => rfl
  | cons first _ ih => rw [List.map_cons, List.map_cons, same _ _ first, ih]

end Plain

section Restored

variable {α : Type} [Scalar α]

theorem scene_restore_ofScene (scene : Scene α) (catalog : Catalog) :
    ((ofScene scene).restore catalog).scene =
      Scene.ofElements ((numbered (written scene)).filterMap (restoreElement catalog))
        scene.nextRefId := by
  have current : (ofScene scene).restore catalog = (ofScene scene).restoreElements catalog :=
    if_pos rfl
  rw [current, restoreElements, elements_ofScene, stacked_numbered]
  rfl

theorem restoreElement_eq {catalog : Catalog} {e : Element α} {content : Content α} (z : Nat)
    (fits : Element.fitRect e.rect = e.rect)
    (restored : restoreContent catalog (e.content.mapImage savedImage) = some content) :
    restoreElement catalog ⟨z, e.mapImage savedImage⟩ = some { e with content } := by
  simp [restoreElement, Element.mapImage, restored, Element.make, fits]

private theorem restoreElement_survives (catalog : Catalog) (z : Nat) {e : Element α}
    (durable : isDurable e = true) (fits : Element.fitRect e.rect = e.rect) :
    ∃ back, restoreElement catalog ⟨z, e.mapImage savedImage⟩ = some back ∧
      Survives catalog e back := by
  cases eq : e.content with
  | image image =>
    have durableImage : isDurableImage image = true := by
      rw [isDurable, eq] at durable
      exact durable
    obtain ⟨back, restored, survives⟩ := restoreImage_savedImage catalog durableImage
    have content : restoreContent catalog (e.content.mapImage savedImage) =
        some (.image back) := by
      simp [eq, restoreContent, Content.mapImage, restored]
    refine ⟨_, restoreElement_eq z fits content, ?_⟩
    constructor
    case image =>
      intro image' eq'
      obtain rfl := Content.image.inj (eq.symm.trans eq')
      exact ⟨back, rfl, survives⟩
    case other => simp [Element.image?, eq, Content.image?]
    all_goals rfl
  | _ =>
    have content : restoreContent catalog (e.content.mapImage savedImage) = some e.content := by
      rw [eq]
      rfl
    refine ⟨_, restoreElement_eq z fits content, ?_⟩
    constructor
    case image => simp [eq]
    all_goals
      intros
      rfl

/-- What became of the image of a durable element, if it is one: only its asset may be missing. -/
private theorem outcome_of_durable (catalog : Catalog) {e : Element α}
    (durable : isDurable e = true) :
    ((e.mapImage savedImage).image?.map (restoreImage catalog)).map RestoredImage.missingAsset =
        e.image?.map (lacksAsset catalog) ∧
      ((e.mapImage savedImage).image?.map (restoreImage catalog)).map RestoredImage.localOnly =
        e.image?.map fun _ => false := by
  obtain ⟨key, rect, refId, content⟩ := e
  cases content with
  | image image =>
    obtain ⟨back, restored, -⟩ := restoreImage_savedImage catalog durable
    have outcome : (Element.image? ⟨key, rect, refId, .image (savedImage image)⟩).map
        (restoreImage catalog) = some ⟨some back, lacksAsset catalog image, false⟩ :=
      congrArg some restored
    exact ⟨congrArg _ outcome, congrArg _ outcome⟩
  | _ => exact ⟨rfl, rfl⟩

private theorem countP_outcomes (catalog : Catalog) (scene : Scene α) :
    let images := (numbered (written scene)).filterMap (imageOutcome? catalog)
    images.countP RestoredImage.missingAsset =
        (written scene).countP (fun e => e.image?.any (lacksAsset catalog)) ∧
      images.countP RestoredImage.localOnly = 0 := by
  intro images
  have eq : images = (written scene).filterMap fun e =>
      (e.mapImage savedImage).image?.map (restoreImage catalog) :=
    filterMap_numbered (fun e => e.image?.map (restoreImage catalog)) (written scene)
  rw [eq, List.countP_filterMap, List.countP_filterMap]
  refine ⟨List.countP_congr ?_, List.countP_eq_zero.mpr ?_⟩
  · intro e mem
    rw [(outcome_of_durable catalog (isDurable_of_mem_written mem)).1]
    cases e.image? <;> rfl
  · intro e mem
    rw [(outcome_of_durable catalog (isDurable_of_mem_written mem)).2]
    cases e.image? <;> simp

end Restored

section Written

variable {α : Type} [Scalar α] {scene : Scene α}

theorem writable_savedContent {content : Content α} (writable : content.Writable) :
    (content.mapImage savedImage).Writable := by
  cases content with
  | image image => exact ⟨writable.width, writable.height⟩
  | _ => exact writable

private theorem writable_mapImage {e : Element α} (writable : e.Writable) :
    (e.mapImage savedImage).Writable :=
  ⟨writable.rect, writable.refId, writable_savedContent writable.content⟩

theorem writable_ofScene (measured : scene.Measured) (size : scene.size ≤ Text.max64) :
    (ofScene scene).Writable := by
  constructor
  case schemaVersion =>
    change currentVersion ≤ Text.max32
    decide
  case elements =>
    intro s mem
    rw [elements_ofScene] at mem
    obtain ⟨below, e, mem, eq⟩ := mem_numbered mem
    have few := length_written scene
    have narrow : maxElements ≤ Text.max64 := by decide
    constructor
    · omega
    · rw [eq]
      have inside := (written_sublist scene).subset mem
      exact writable_mapImage
        ⟨measured.rects e inside, measured.refs e inside, measured.contents e inside⟩
  case skipped => exact Nat.le_trans (Nat.sub_le _ _) size
  case evicted =>
    have fewer : (durable scene).length ≤ scene.elements.length := List.length_filter_le _ _
    exact Nat.le_trans (Nat.sub_le _ _) (Nat.le_trans fewer size)
  case nextRefId => exact measured.counter

variable [LawfulScalar α]

private theorem fitRect_of_mem (savable : scene.Savable) {e : Element α}
    (mem : e ∈ scene.elements) : Element.fitRect e.rect = e.rect := by
  obtain ⟨w, h⟩ := savable.sides e mem
  have finite := savable.rects e mem
  rw [Element.fitRect, Scalar.larger_of_le finite.w w, Scalar.larger_of_le finite.h h]

private theorem written_survive (savable : scene.Savable) (catalog : Catalog) :
    List.Forall₂ (Survives catalog) (written scene)
      ((numbered (written scene)).filterMap (restoreElement catalog)) := by
  have eq : (numbered (written scene)).filterMap (restoreElement catalog) =
      (written scene).filterMap fun e => restoreElement catalog ⟨0, e.mapImage savedImage⟩ :=
    filterMap_numbered (fun e => restoreElement catalog ⟨0, e⟩) (written scene)
  rw [eq]
  refine forall₂_filterMap fun e mem => ?_
  have inScene := (written_sublist scene).subset mem
  exact restoreElement_survives catalog 0 (isDurable_of_mem_written mem)
    (fitRect_of_mem savable inScene)

private theorem scene_of_written (savable : scene.Savable) (catalog : Catalog) :
    Scene.ofElements ((numbered (written scene)).filterMap (restoreElement catalog))
        scene.nextRefId =
      ⟨(numbered (written scene)).filterMap (restoreElement catalog), scene.nextRefId⟩ := by
  have survive := written_survive savable catalog
  have within := written_sublist scene
  refine Scene.ofElements_eq ?_ (Nat.lt_of_lt_of_le Nat.zero_lt_one (Nat.le_max_right _ _)) ?_
  · rw [map_of_survives (fun _ _ survives => survives.key) survive]
    exact savable.keys.sublist (within.map Element.key)
  · intro back mem id has
    have refIds := map_of_survives (fun _ _ survives => survives.refId) survive
    have mem' : some id ∈ (written scene).map Element.refId := by
      rw [← refIds]
      exact List.mem_map.mpr ⟨back, mem, has⟩
    obtain ⟨e, memE, hasE⟩ := List.mem_map.mp mem'
    exact savable.refs e (within.subset memE) id hasE

private theorem restoreValue_ofScene (savable : scene.Savable) (catalog : Catalog) :
    restoreValue (ofScene scene).toJson catalog =
      { scene :=
          ⟨(numbered (written scene)).filterMap (restoreElement catalog), scene.nextRefId⟩
        missingAssets := (written scene).countP fun e => e.image?.any (lacksAsset catalog)
        localOnlyImages := 0
        rebuilt := false } := by
  obtain ⟨missing, localOnly⟩ := countP_outcomes catalog scene
  have counter : (ofScene scene).nextRefId = scene.nextRefId := by rw [ofScene]
  rw [restoreValue_toJson (writable_ofScene savable.measured savable.size) (by rw [ofScene]),
    restoreElements, elements_ofScene, stacked_numbered, missing, localOnly, counter,
    scene_of_written savable catalog]

/-- A scene is written from the top up to the limit, as far as it is durable, and what was written
comes back in its order. -/
theorem written_comes_back (savable : scene.Savable) (catalog : Catalog) :
    (written scene <:+ durable scene ∧
      (written scene).length = min (durable scene).length 200) ∧
    ((ofScene scene).elements.map SavedElement.z = List.range (written scene).length ∧
      (ofScene scene).elements.map SavedElement.element =
        (written scene).map fun e => e.mapImage savedImage) ∧
    ((durable scene).length + (ofScene scene).omitted.skippedLocalOnly = scene.size ∧
      (written scene).length + (ofScene scene).omitted.evicted = (durable scene).length) ∧
    let back := restoreValue (ofScene scene).toJson catalog
    back.rebuilt = false ∧
      back.localOnlyImages = 0 ∧
      back.missingAssets = ((written scene).countP fun e => e.image?.any (lacksAsset catalog)) ∧
      back.scene.nextRefId = scene.nextRefId ∧
      List.Forall₂ (Survives catalog) (written scene) back.scene.elements := by
  have length := length_written scene
  have fewer : (durable scene).length ≤ scene.elements.length := List.length_filter_le _ _
  refine ⟨⟨written_suffix scene, length⟩, ⟨?_, ?_⟩, ⟨?_, ?_⟩, ?_⟩
  · rw [elements_ofScene, numbered_z]
  · rw [elements_ofScene, numbered_element]
  · rw [ofScene, Scene.size]
    change (durable scene).length + (scene.elements.length - (durable scene).length) = _
    omega
  · rw [ofScene]
    change _ + ((durable scene).length - maxElements) = _
    omega
  · rw [restoreValue_ofScene savable catalog]
    dsimp only
    refine ⟨rfl, rfl, rfl, ?_, written_survive savable catalog⟩
    exact Nat.max_eq_left (Nat.le_max_right _ _)

end Written

section Sample

def framed (name : String) (refId : Option Nat) (content : Content Float) : Element Float :=
  ⟨⟨name⟩, ⟨8.0, 8.0, 64.0, 32.0⟩, refId, content⟩

/-- A text, and images with a bitmap of this client, with a stored asset, with an asset that is
gone, and with none yet. -/
def gallery : Scene Float :=
  ⟨[framed "title" none (.text "Owls" 16.0 "black" "" ""),
    framed "sketch" none (.image (Image.ofSrc "data:image/png;base64,AA==")),
    framed "owl" (some 1) (.image { Image.ofSrc "" with assetId := some "a1" }),
    framed "elk" (some 2) (.image { Image.ofSrc "" with assetId := some "a2" }),
    framed "fox" none (.image (Image.placeholder "fox"))], 3⟩

def shelf : Catalog := ⟨[⟨"a1", "h1", "https://assets/a1.png", some 64, none⟩]⟩

theorem gallery_savable : gallery.Savable := by
  have same : ∀ e ∈ gallery.elements, e.rect = ⟨8.0, 8.0, 64.0, 32.0⟩ := by decide
  constructor
  case keys => decide
  case rects =>
    intro e mem
    rw [same e mem]
    exact ⟨by decide, by decide, by decide, by decide⟩
  case contents =>
    simp only [gallery, List.forall_mem_cons]
    have size : (framed "title" none (.text "Owls" 16.0 "black" "" "")).content.Writable := by
      change Float.isFinite 16.0 = true
      decide
    exact ⟨size, ⟨nofun, nofun⟩, ⟨nofun, nofun⟩, ⟨nofun, nofun⟩, ⟨nofun, nofun⟩,
      List.forall_mem_nil _⟩
  case sides =>
    intro e mem
    rw [same e mem]
    exact ⟨by decide, by decide⟩
  case refs => decide
  case counter => decide
  case size => decide

theorem gallery_comes_back :
    gallery.Savable ∧
      let back := restoreValue (ofScene gallery).toJson shelf
      back.rebuilt = false ∧ back.missingAssets = 1 ∧
        back.scene.elements.map Element.key = [⟨"title"⟩, ⟨"owl"⟩, ⟨"elk"⟩, ⟨"fox"⟩] := by
  refine ⟨gallery_savable, ?_⟩
  obtain ⟨-, -, -, rebuilt, -, missing, -, survive⟩ := written_comes_back gallery_savable shelf
  refine ⟨rebuilt, missing.trans ?_, ?_⟩
  · decide
  · rw [map_of_survives (fun _ _ survives => survives.key) survive]
    decide

end Sample

end Document

end PromptCanvas
