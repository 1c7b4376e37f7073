import PromptCanvas.Document

set_option autoImplicit false
set_option relaxedAutoImplicit false

namespace PromptCanvas.Document

variable {α : Type} {catalog : Catalog} {image : Image α} {id : String}

def lacksAsset (catalog : Catalog) (image : Image α) : Bool :=
  image.assetId.any fun id => (catalog.get? id).isNone

/-- What is left of a written image that is read back. -/
structure ImageSurvives (catalog : Catalog) (image back : Image α) : Prop where
  assetId : back.assetId = image.assetId
  prompt : back.prompt = image.prompt
  runId : back.runId = image.runId
  listed : ∀ id ∈ image.assetId, ∀ asset ∈ catalog.get? id,
    back.src = asset.url ∧ back.contentHash = some asset.contentHash ∧ back.status = .done ∧
      back.syncStatus = some .synced
  missing : lacksAsset catalog image = true →
    if image.hasRemoteSrc then back.src = image.src ∧ back.status = image.status
    else back.status = .error ∧ back.errorMessage = some missingAssetMessage
  /-- An image without an asset stays as it is but for a bitmap of this client. -/
  own : image.assetId = none →
    back.status = image.status ∧ back.errorMessage = image.errorMessage ∧
      back.naturalW = image.naturalW ∧ back.naturalH = image.naturalH ∧
      (image.hasLocalSrc = false → back.src = image.src)

section Saved

theorem savedImage_src (elsewhere : image.hasLocalSrc = false) :
    (savedImage image).src = image.src := by
  simp [savedImage, elsewhere]

private theorem hasLocalSrc_eq_false (remote : image.hasRemoteSrc = true) :
    image.hasLocalSrc = false := by
  rw [Image.hasRemoteSrc, Bool.and_eq_true, Bool.not_eq_true'] at remote
  exact remote.2

private theorem hasRemoteSrc_savedImage (image : Image α) :
    (savedImage image).hasRemoteSrc = image.hasRemoteSrc := by
  cases here : image.hasLocalSrc with
  | true => simp [Image.hasRemoteSrc, savedImage, here]
  | false =>
    rw [Image.hasRemoteSrc, Image.hasLocalSrc, savedImage_src here]
    rfl

theorem isDurableImage_savedImage (image : Image α) :
    isDurableImage (savedImage image) = isDurableImage image := by
  rw [isDurableImage, hasRemoteSrc_savedImage]
  rfl

end Saved

namespace ImageSurvives

private theorem of_remote (has : image.assetId = some id) (gone : catalog.get? id = none)
    (remote : image.hasRemoteSrc = true) : ImageSurvives catalog image (savedImage image) := by
  constructor
  case listed => simp [has, gone]
  case missing =>
    rw [if_pos remote]
    exact fun _ => ⟨savedImage_src (hasLocalSrc_eq_false remote), rfl⟩
  case own => simp [has]
  all_goals rfl

private theorem of_gone (has : image.assetId = some id) (gone : catalog.get? id = none)
    (remote : image.hasRemoteSrc = false) :
    ImageSurvives catalog image
      { savedImage image with
        status := .error
        errorMessage := some missingAssetMessage } := by
  constructor
  case listed => simp [has, gone]
  case missing =>
    rw [remote]
    exact fun _ => ⟨rfl, rfl⟩
  case own => simp [has]
  all_goals rfl

private theorem of_none (has : image.assetId = none) :
    ImageSurvives catalog image (savedImage image) := by
  constructor
  case listed => simp [has]
  case missing => simp [lacksAsset, has]
  case own => exact fun _ => ⟨rfl, rfl, rfl, rfl, savedImage_src⟩
  all_goals rfl

private theorem of_listed [Scalar α] {asset : Asset} (has : image.assetId = some id)
    (found : catalog.get? id = some asset) :
    ImageSurvives catalog image (showAsset asset (savedImage image)) := by
  constructor
  case listed =>
    intro id' has' asset' found'
    obtain rfl := Option.some.inj (has.symm.trans has')
    obtain rfl := Option.some.inj (found.symm.trans found')
    exact ⟨rfl, rfl, rfl, rfl⟩
  case missing => simp [lacksAsset, has, found]
  case own => simp [has]
  all_goals rfl

end ImageSurvives

section Restored

variable [Scalar α]

theorem restoreImage_of_listed {asset : Asset} (has : image.assetId = some id)
    (found : catalog.get? id = some asset) :
    restoreImage catalog image = ⟨some (showAsset asset image), false, false⟩ := by
  cases image
  cases has
  simp [restoreImage, found, showAsset]

theorem restoreImage_of_remote (has : image.assetId = some id) (gone : catalog.get? id = none)
    (remote : image.hasRemoteSrc = true) :
    restoreImage catalog image =
      ⟨some { image with
        syncStatus := none
        syncError := none }, true, false⟩ := by
  cases image
  cases has
  simp only [restoreImage, gone]
  exact if_pos remote

theorem restoreImage_of_gone (has : image.assetId = some id) (gone : catalog.get? id = none)
    (remote : image.hasRemoteSrc = false) :
    restoreImage catalog image =
      ⟨some { image with
        syncStatus := none
        syncError := none
        status := .error
        errorMessage := some missingAssetMessage }, true, false⟩ := by
  cases image
  cases has
  simp only [restoreImage, gone]
  exact if_neg (ne_true_of_eq_false remote)

theorem restoreImage_of_durable (has : image.assetId = none)
    (durable : isDurableImage image = true) :
    restoreImage catalog image =
      ⟨some { image with
        syncStatus := none
        syncError := none }, false, false⟩ := by
  cases image
  cases has
  simp only [restoreImage]
  exact if_pos durable

theorem restoreImage_savedImage (catalog : Catalog) (durable : isDurableImage image = true) :
    ∃ back,
      restoreImage catalog (savedImage image) = ⟨some back, lacksAsset catalog image, false⟩ ∧
        ImageSurvives catalog image back := by
  cases has : image.assetId with
  | none =>
    have lacks : lacksAsset catalog image = false := by simp [lacksAsset, has]
    rw [lacks]
    have saved := (isDurableImage_savedImage image).trans durable
    exact ⟨_, restoreImage_of_durable has saved, .of_none has⟩
  | some id =>
    cases found : catalog.get? id with
    | some asset =>
      have lacks : lacksAsset catalog image = false := by simp [lacksAsset, has, found]
      rw [lacks]
      exact ⟨_, restoreImage_of_listed has found, .of_listed has found⟩
    | none =>
      have lacks : lacksAsset catalog image = true := by simp [lacksAsset, has, found]
      rw [lacks]
      cases remote : image.hasRemoteSrc with
      | true =>
        have saved := (hasRemoteSrc_savedImage image).trans remote
        exact ⟨_, restoreImage_of_remote has found saved, .of_remote has found remote⟩
      | false =>
        have saved := (hasRemoteSrc_savedImage image).trans remote
        exact ⟨_, restoreImage_of_gone has found saved, .of_gone has found remote⟩

end Restored

end PromptCanvas.Document
