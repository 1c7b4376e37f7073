import PromptCanvas.Proofs.Document.RoundTrip
import PromptCanvas.Proofs.Document.Sound
import PromptCanvas.Proofs.Json.Formats
import PromptCanvas.Proofs.Scalar.Whole

/-!
A scene that was read back once is not changed by being written and read back again.

Reading rewrites images: by what the catalog lists, by a failure where an asset is gone, without a
bitmap of this client.  What comes out is durable, so it is written in full, and it is read as it
stands, so it comes back the same.
-/

set_option autoImplicit false
set_option relaxedAutoImplicit false

namespace PromptCanvas

section Boxes

variable {α : Type} [Scalar α]

private theorem Element.fitRect_fitRect (r : Rect α) : fitRect (fitRect r) = fitRect r := by
  simp only [fitRect, Scalar.larger_larger]

private theorem Element.isFinite_fitRect [FiniteScalar α] {r : Rect α} (finite : r.IsFinite) :
    (fitRect r).IsFinite := by
  have side : ∀ {x : α}, Scalar.isFinite x = true →
      Scalar.isFinite (Scalar.larger x 1.0) = true := by
    intro x finite
    rcases Scalar.larger_cases x 1.0 with first | second
    · rwa [first]
    · rw [second]
      exact FiniteScalar.isFinite_one
  exact ⟨finite.x, finite.y, side finite.w, side finite.h⟩

end Boxes

namespace Document

def reread {α : Type} [Scalar α] (catalog : Catalog) (scene : Scene α) : Scene α :=
  ((ofScene scene).restore catalog).scene

section Images

variable {α : Type} {catalog : Catalog} {image back : Image α}

def abandoned (image : Image α) : Image α :=
  { image with
    status := .error
    errorMessage := some missingAssetMessage }

private theorem savedImage_savedImage (image : Image α) :
    savedImage (savedImage image) = savedImage image := by
  cases here : image.hasLocalSrc with
  | true =>
    have empty : (savedImage image).src = "" := if_pos here
    have elsewhere : (savedImage image).hasLocalSrc = false := by
      rw [Image.hasLocalSrc, empty]
      decide
    rw [savedImage, elsewhere]
    rfl
  | false =>
    have elsewhere : (savedImage image).hasLocalSrc = false := by
      rw [Image.hasLocalSrc, savedImage_src here]
      exact here
    rw [savedImage, elsewhere]
    rfl

variable [Scalar α]

private theorem showAsset_savedImage_showAsset (asset : Asset) (image : Image α) :
    showAsset asset (savedImage (showAsset asset image)) = showAsset asset image := by
  simp [showAsset, savedImage, ← Option.or_assoc]

private theorem restoreImage_settles (durable : isDurableImage image = true)
    (restored : (restoreImage catalog (savedImage image)).image = some back) :
    isDurableImage back = true ∧ (restoreImage catalog (savedImage back)).image = some back := by
  have saved := (isDurableImage_savedImage image).trans durable
  cases has : (savedImage image).assetId with
  | none =>
    rw [restoreImage_of_durable has saved] at restored
    obtain rfl : savedImage image = back := Option.some.inj restored
    rw [savedImage_savedImage, restoreImage_of_durable has saved]
    exact ⟨saved, rfl⟩
  | some id =>
    cases found : catalog.get? id with
    | some asset =>
      rw [restoreImage_of_listed has found] at restored
      obtain rfl := Option.some.inj restored
      have again : (savedImage (showAsset asset (savedImage image))).assetId = some id := has
      rw [restoreImage_of_listed again found, showAsset_savedImage_showAsset]
      exact ⟨by simp [isDurableImage, showAsset, has], rfl⟩
    | none =>
      cases remote : (savedImage image).hasRemoteSrc with
      | true =>
        rw [restoreImage_of_remote has found remote] at restored
        obtain rfl : savedImage image = back := Option.some.inj restored
        rw [savedImage_savedImage, restoreImage_of_remote has found remote]
        exact ⟨saved, rfl⟩
      | false =>
        rw [restoreImage_of_gone has found remote] at restored
        obtain rfl : abandoned (savedImage image) = back := Option.some.inj restored
        have kept : savedImage (abandoned (savedImage image)) = abandoned (savedImage image) :=
          congrArg abandoned (savedImage_savedImage image)
        have again : restoreImage catalog (abandoned (savedImage image)) =
            ⟨some (abandoned (savedImage image)), true, false⟩ :=
          restoreImage_of_gone has found remote
        rw [kept, again]
        exact ⟨by simp [isDurableImage, abandoned], rfl⟩

end Images

section Elements

variable {α : Type} [Scalar α] {catalog : Catalog} {e back : Element α}

structure Settled (catalog : Catalog) (e : Element α) : Prop where
  durable : isDurable e = true
  back (z : Nat) : restoreElement catalog ⟨z, e.mapImage savedImage⟩ = some e

private theorem settled_of_restoreElement {z : Nat} (durable : isDurable e = true)
    (restored : restoreElement catalog ⟨z, e.mapImage savedImage⟩ = some back) :
    Settled catalog back := by
  have read := readAs_of_restoreElement restored
  have fits : Element.fitRect back.rect = back.rect := by
    rw [read.rect, Element.fitRect_fitRect]
  suffices settled : isDurable back = true ∧
      restoreContent catalog (back.content.mapImage savedImage) = some back.content from
    ⟨settled.1, fun z => restoreElement_eq z fits settled.2⟩
  have content := read.content
  cases shown : e.content with
  | image image =>
    rw [isDurable, shown] at durable
    have whole :
        (restoreImage catalog (savedImage image)).image.map .image = some back.content := by
      simpa [Element.mapImage, shown, Content.mapImage, restoreContent] using content
    obtain ⟨image', restored, same⟩ := Option.map_eq_some_iff.mp whole
    obtain ⟨durable', again⟩ := restoreImage_settles durable restored
    rw [isDurable, ← same]
    exact ⟨durable', congrArg (Option.map Content.image) again⟩
  | _ =>
    have same : e.content = back.content := by
      simpa [Element.mapImage, shown, Content.mapImage, restoreContent] using content
    rw [isDurable, ← same, shown]
    exact ⟨rfl, rfl⟩

end Elements

section Scenes

variable {α : Type} [Scalar α] {scene : Scene α} {catalog : Catalog}

private theorem reread_eq (scene : Scene α) (catalog : Catalog) :
    reread catalog scene =
      Scene.ofElements
        ((written scene).filterMap fun e => restoreElement catalog ⟨0, e.mapImage savedImage⟩)
        scene.nextRefId := by
  rw [reread, scene_restore_ofScene]
  exact congrArg (Scene.ofElements · scene.nextRefId)
    (filterMap_numbered (fun e => restoreElement catalog ⟨0, e⟩) (written scene))

private theorem exists_written_of_mem_reread {back : Element α}
    (mem : back ∈ (reread catalog scene).elements) :
    ∃ e ∈ written scene, restoreElement catalog ⟨0, e.mapImage savedImage⟩ = some back := by
  rw [reread_eq, Scene.elements_ofElements] at mem
  exact List.mem_filterMap.mp ((Scene.keepsFirst_firstOfKeys.sublist _).subset mem)

private theorem settled_of_mem_reread {back : Element α}
    (mem : back ∈ (reread catalog scene).elements) : Settled catalog back := by
  obtain ⟨e, mem, restored⟩ := exists_written_of_mem_reread mem
  exact settled_of_restoreElement (isDurable_of_mem_written mem) restored

private theorem length_reread_le (scene : Scene α) (catalog : Catalog) :
    (reread catalog scene).elements.length ≤ maxElements := by
  have read := List.length_filterMap_le
    (fun e => restoreElement catalog ⟨0, e.mapImage savedImage⟩) (written scene)
  have kept := (Scene.keepsFirst_firstOfKeys.sublist ((written scene).filterMap fun e =>
    restoreElement catalog ⟨0, e.mapImage savedImage⟩)).length_le
  have few : (written scene).length ≤ maxElements := by
    rw [length_written]
    exact Nat.min_le_right _ _
  rw [reread_eq, Scene.elements_ofElements]
  exact kept.trans (read.trans few)

private theorem durable_reread (scene : Scene α) (catalog : Catalog) :
    durable (reread catalog scene) = (reread catalog scene).elements :=
  List.filter_eq_self.mpr fun _ mem => (settled_of_mem_reread mem).durable

private theorem written_reread (scene : Scene α) (catalog : Catalog) :
    written (reread catalog scene) = (reread catalog scene).elements := by
  have few := length_reread_le scene catalog
  rw [written, durable_reread, topmost, Nat.sub_eq_zero_of_le few, List.drop_zero]

private theorem ofElements_reread (scene : Scene α) (catalog : Catalog) :
    Scene.ofElements (reread catalog scene).elements (reread catalog scene).nextRefId =
      reread catalog scene := by
  rw [reread_eq]
  exact Scene.ofElements_ofElements _ _

private theorem reread_reread (scene : Scene α) (catalog : Catalog) :
    reread catalog (reread catalog scene) = reread catalog scene := by
  have same : ((reread catalog scene).elements.filterMap fun e =>
      restoreElement catalog ⟨0, e.mapImage savedImage⟩) = (reread catalog scene).elements := by
    rw [List.filterMap_congr fun e mem => (settled_of_mem_reread mem).back 0]
    exact List.filterMap_some
  rw [reread_eq (reread catalog scene), written_reread, same, ofElements_reread]

end Scenes

section Storage

variable {α : Type} [Scalar α] [FiniteScalar α] {scene : Scene α} {catalog : Catalog}

private theorem writable_restoreImage {image back : Image α}
    (listed : ∀ a ∈ catalog.assets, a.Writable)
    (writable : image.Writable) (restored : (restoreImage catalog image).image = some back) :
    back.Writable := by
  have side : ∀ {known : Option Nat} {side : Option α}, (∀ n ∈ known, n ≤ Text.max32) →
      (∀ x ∈ side, Scalar.isFinite x = true) →
      ∀ x ∈ (known.map Scalar.ofNat).or side, Scalar.isFinite x = true := by
    intro known side narrow finite x mem
    cases known with
    | none => exact finite x mem
    | some n =>
      obtain rfl := Option.some.inj mem
      exact FiniteScalar.isFinite_ofNat (narrow n rfl)
  simp only [restoreImage] at restored
  split at restored
  · split at restored
    · rename_i asset found
      obtain rfl := Option.some.inj restored
      have writableAsset := listed asset (List.mem_of_find?_eq_some found)
      exact ⟨side writableAsset.width writable.width, side writableAsset.height writable.height⟩
    · split at restored <;>
        exact Option.some.inj restored ▸ ⟨writable.width, writable.height⟩
  · split at restored
    · exact Option.some.inj restored ▸ ⟨writable.width, writable.height⟩
    · split at restored
      · cases restored
      · exact Option.some.inj restored ▸ ⟨writable.width, writable.height⟩

private theorem writable_restoreContent {content back : Content α}
    (listed : ∀ a ∈ catalog.assets, a.Writable) (writable : content.Writable)
    (restored : restoreContent catalog content = some back) : back.Writable := by
  cases content with
  | image image =>
    obtain ⟨image', read, rfl⟩ := Option.map_eq_some_iff.mp restored
    exact writable_restoreImage listed writable read
  | _ =>
    obtain rfl := Option.some.inj restored
    exact writable

private theorem measured_reread (measured : scene.Measured)
    (listed : ∀ a ∈ catalog.assets, a.Writable) : (reread catalog scene).Measured := by
  have source : ∀ back ∈ (reread catalog scene).elements,
      ∃ e ∈ scene.elements, ReadAs catalog ⟨0, e.mapImage savedImage⟩ back := by
    intro back mem
    obtain ⟨e, mem, restored⟩ := exists_written_of_mem_reread mem
    exact ⟨e, (written_sublist scene).subset mem, readAs_of_restoreElement restored⟩
  constructor
  case rects =>
    intro back mem
    obtain ⟨e, mem, read⟩ := source back mem
    rw [read.rect]
    exact Element.isFinite_fitRect (measured.rects e mem)
  case contents =>
    intro back mem
    obtain ⟨e, mem, read⟩ := source back mem
    refine writable_restoreContent listed ?_ read.content
    exact writable_savedContent (measured.contents e mem)
  case refs =>
    intro back mem id has
    obtain ⟨e, mem, read⟩ := source back mem
    rw [read.refId] at has
    exact measured.refs e mem id has
  case counter =>
    rw [reread_eq]
    exact Scene.nextRefId_ofElements_le_max32 measured.counter

/-- Reading a scene back settles it: to write it and read it again changes nothing in it, and
nothing of it is left out.  So it is with the stored form, if measurements are finite; all reference
ids of 32 bits are stored, the last one included. -/
theorem reading_back_settles (scene : Scene α) (catalog : Catalog) :
    let back := reread catalog scene
    reread catalog back = back ∧
      (ofScene back).elements = numbered back.elements ∧
      (ofScene back).omitted = ⟨0, 0⟩ ∧
      (scene.Measured → (∀ a ∈ catalog.assets, a.Writable) →
        let again := restoreValue (ofScene back).toJson catalog
        again.scene = back ∧ again.rebuilt = false) := by
  intro back
  have settled : reread catalog back = back := reread_reread scene catalog
  refine ⟨settled, ?_, ?_, fun measured listed => ?_⟩
  · rw [elements_ofScene, written_reread]
  · have all : back.elements.filter isDurable = back.elements := durable_reread scene catalog
    have few : back.elements.length - maxElements = 0 :=
      Nat.sub_eq_zero_of_le (length_reread_le scene catalog)
    simp only [ofScene, all, Nat.sub_self, few]
  · have small : back.size ≤ Text.max64 := (length_reread_le scene catalog).trans (by decide)
    have writable := writable_ofScene (measured_reread measured listed) small
    intro again
    have read : again = (ofScene back).restore catalog :=
      (restoreValue_toJson writable rfl catalog).trans (if_pos rfl).symm
    rw [read]
    exact ⟨settled, rfl⟩

end Storage

theorem gallery_settles :
    let back := reread shelf gallery
    back.keys = [⟨"title"⟩, ⟨"owl"⟩, ⟨"elk"⟩, ⟨"fox"⟩] ∧
      reread shelf back = back ∧
      (ofScene back).omitted = ⟨0, 0⟩ ∧
      (restoreValue (ofScene back).toJson shelf).scene = back := by
  have listed : ∀ a ∈ shelf.assets, a.Writable := by
    refine List.forall_mem_singleton.mpr ⟨fun w mem => ?_, nofun⟩
    obtain rfl := Option.some.inj mem
    decide
  have keys : (reread shelf gallery).keys = [⟨"title"⟩, ⟨"owl"⟩, ⟨"elk"⟩, ⟨"fox"⟩] := by
    rw [reread_eq]
    decide
  obtain ⟨settled, -, complete, stored⟩ := reading_back_settles gallery shelf
  exact ⟨keys, settled, complete, (stored gallery_savable.measured listed).1⟩

end Document

end PromptCanvas
