import PromptCanvas.Asset
import PromptCanvas.Scene

/-!
The saved form of a scene.

`Document.ofScene` writes what can be found again later: elements with remote or no bitmap, at
most `maxElements` of them from the top.  `Document.restore` puts a document together with the
asset catalog again.  A document of another version is given up, and the scene is laid out anew
from the catalog.
-/

set_option autoImplicit false
set_option relaxedAutoImplicit false

namespace PromptCanvas

/-- A saved element: the element, and its height in the stack. -/
structure SavedElement (α : Type) where
  z : Nat
  element : Element α
  deriving Repr, DecidableEq

/-- What a save left out. -/
structure DocumentMeta where
  skippedLocalOnly : Nat
  evicted : Nat
  deriving Repr, DecidableEq

/-- A saved scene. -/
structure Document (α : Type) where
  schemaVersion : Nat
  elements : List (SavedElement α)
  omitted : DocumentMeta
  nextRefId : Nat
  deriving Repr, DecidableEq

/-- A scene read back, and what was found on the way. -/
structure Restored (α : Type) where
  scene : Scene α
  missingAssets : Nat
  /-- Finished images without an asset and without a source that others can reach. -/
  localOnlyImages : Nat
  rebuilt : Bool
  deriving Repr, DecidableEq

namespace Document

def currentVersion : Nat := 2

def maxElements : Nat := 200

def missingAssetMessage : String := "asset missing from catalog"

section Plain

variable {α : Type}

def isDurableImage (image : Image α) : Bool :=
  image.assetId.isSome || image.hasRemoteSrc || image.status = .running || image.status = .error

def isDurable (e : Element α) : Bool :=
  match e.content with
  | .image image => isDurableImage image
  | .generator _ | .shape .. | .text .. => true

/-- What is saved of an image: no bitmap of this client, and nothing about its upload. -/
def savedImage (image : Image α) : Image α :=
  { image with
    src := if image.hasLocalSrc then "" else image.src
    syncStatus := none
    syncError := none }

def topmost (elements : List (Element α)) : List (Element α) :=
  elements.drop (elements.length - maxElements)

def numbered (elements : List (Element α)) : List (SavedElement α) :=
  elements.mapIdx fun z e => ⟨z, e.mapImage savedImage⟩

def ofScene (scene : Scene α) : Document α :=
  let durable := scene.elements.filter isDurable
  { schemaVersion := currentVersion
    elements := numbered (topmost durable)
    omitted :=
      { skippedLocalOnly := scene.elements.length - durable.length
        evicted := durable.length - maxElements }
    nextRefId := scene.nextRefId }

end Plain

variable {α : Type} [Scalar α]

structure RestoredImage (α : Type) where
  image : Option (Image α)
  missingAsset : Bool
  localOnly : Bool
  deriving Repr, DecidableEq

@[specialize] def showAsset (asset : Asset) (image : Image α) : Image α :=
  { image with
    src := asset.url
    contentHash := some asset.contentHash
    naturalW := (asset.width.map Scalar.ofNat).or image.naturalW
    naturalH := (asset.height.map Scalar.ofNat).or image.naturalH
    syncStatus := some .synced
    syncError := none
    status := .done
    errorMessage := none }

/-- Reads an image back.  An asset in the catalog decides what it shows; without one it stays if
it has a remote source, or waits, or failed; a finished one keeps at most an embedded bitmap. -/
@[specialize] def restoreImage (catalog : Catalog) (saved : Image α) : RestoredImage α :=
  let image := { saved with syncStatus := none, syncError := none }
  match image.assetId with
  | some id =>
    match catalog.get? id with
    | some asset => ⟨some (showAsset asset image), false, false⟩
    | none =>
      if image.hasRemoteSrc then ⟨some image, true, false⟩
      else
        ⟨some { image with status := .error, errorMessage := some missingAssetMessage },
          true, false⟩
  | none =>
    if image.hasRemoteSrc || image.status = .running || image.status = .error then
      ⟨some image, false, false⟩
    else ⟨if image.src = "" then none else some image, false, true⟩

@[specialize] def imageOutcome? (catalog : Catalog) (saved : SavedElement α) :
    Option (RestoredImage α) :=
  saved.element.image?.map (restoreImage catalog)

@[specialize] def restoreContent (catalog : Catalog) : Content α → Option (Content α)
  | .image image => (restoreImage catalog image).image.map .image
  | content => some content

@[specialize] def restoreElement (catalog : Catalog) (saved : SavedElement α) :
    Option (Element α) :=
  (restoreContent catalog saved.element.content).map fun content =>
    { Element.make saved.element.key content saved.element.rect with
      refId := saved.element.refId }

/-- The saved elements from bottom to top; those of one height stay in their order. -/
def stacked {α : Type} (elements : List (SavedElement α)) : List (SavedElement α) :=
  elements.mergeSort fun a b => a.z ≤ b.z

@[specialize] def restoreElements (doc : Document α) (catalog : Catalog) : Restored α :=
  let saved := stacked doc.elements
  let images := saved.filterMap (imageOutcome? catalog)
  { scene := Scene.ofElements (saved.filterMap (restoreElement catalog)) doc.nextRefId
    missingAssets := images.countP RestoredImage.missingAsset
    localOnlyImages := images.countP RestoredImage.localOnly
    rebuilt := false }

@[specialize] def cellSide : α := 320.0

@[specialize] def cellGap : α := 24.0

/-- The least number of columns, at least one, whose square layout holds `n` cells, found by
counting up from `columns`. -/
def columnsFrom (n columns : Nat) : Nat → Nat
  | 0 => columns
  | steps + 1 => if n ≤ columns * columns then columns else columnsFrom n (columns + 1) steps

def columns (n : Nat) : Nat := columnsFrom n 1 n

@[specialize] def assetImage (asset : Asset) : Image α :=
  { (Image.ofSrc asset.url : Image α) with
    naturalW := asset.width.map Scalar.ofNat
    naturalH := asset.height.map Scalar.ofNat
    assetId := some asset.id
    contentHash := some asset.contentHash
    syncStatus := some .synced }

/-- The box of the asset at a place in the layout: it fills its cell on the longer side. -/
@[specialize] def cellRect (columns place : Nat) (asset : Asset) : Rect α :=
  let w := (asset.width.map Scalar.ofNat).getD cellSide
  let h := (asset.height.map Scalar.ofNat).getD cellSide
  let scale := Scalar.smaller (cellSide / w) (cellSide / h)
  let pitch : α := cellSide + cellGap
  ⟨Scalar.ofNat (place % columns) * pitch, Scalar.ofNat (place / columns) * pitch, w * scale,
    h * scale⟩

@[specialize] def cellElement (columns place : Nat) (asset : Asset) : Element α :=
  Element.make ⟨"asset-" ++ asset.id⟩ (.image (assetImage asset)) (cellRect columns place asset)

@[specialize] def rebuild (catalog : Catalog) : Restored α :=
  { scene := Scene.ofElements (catalog.assets.mapIdx (cellElement (columns catalog.size))) 1
    missingAssets := 0
    localOnlyImages := 0
    rebuilt := true }

@[specialize] def restore (doc : Document α) (catalog : Catalog) : Restored α :=
  if doc.schemaVersion = currentVersion then doc.restoreElements catalog else rebuild catalog

def nothingSaved {α : Type} : Restored α := ⟨Scene.blank, 0, 0, false⟩

example : (List.range 11).map columns = [1, 1, 2, 2, 2, 3, 3, 3, 3, 3, 4] := by decide

end Document

end PromptCanvas
