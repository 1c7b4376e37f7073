import Mathlib.Data.List.Forall2
import PromptCanvas.Proofs.Document.Image
import PromptCanvas.Proofs.Document.Json
import PromptCanvas.Proofs.Scalar.Order
import PromptCanvas.Proofs.Scene

/-!
Whatever is stored, a sound scene is read.

Saved elements are put in the order of their heights, read one by one, and the first of each key is
kept.  A specification that goes through the ordered elements once, with the keys already seen,
says which of them are there in the end.
-/

set_option autoImplicit false
set_option relaxedAutoImplicit false

namespace PromptCanvas

/-- Different keys, boxes of at least one unit, and reference ids below the next one, which counts
from one.  Only the last id of 32 bits has no next one. -/
structure Scene.Sound {α : Type} [Scalar α] (s : Scene α) : Prop where
  keys : s.keys.Nodup
  sides : ∀ e ∈ s.elements, 1.0 ≤ e.rect.w ∧ 1.0 ≤ e.rect.h
  refs : s.BelowLast → ∀ e ∈ s.elements, ∀ id ∈ e.refId, id < s.nextRefId
  counter : 1 ≤ s.refCounter

theorem Scene.sound_ofElements {α : Type} [Scalar α] {elements : List (Element α)}
    (fit : ∀ e ∈ elements, 1.0 ≤ e.rect.w ∧ 1.0 ≤ e.rect.h) (n : Nat) :
    (ofElements elements n).Sound := by
  constructor
  case keys => exact keys_ofElements_nodup elements n
  case sides => exact fun e mem => fit e ((keepsFirst_firstOfKeys.sublist elements).subset mem)
  case refs => exact fun room e mem id has => lt_nextRefId_ofElements room mem has
  case counter => exact Nat.le_max_right _ _

theorem Element.sides_fitRect {α : Type} [Scalar α] [TotalScalar α] (r : Rect α) :
    1.0 ≤ (fitRect r).w ∧ 1.0 ≤ (fitRect r).h :=
  ⟨Scalar.le_larger TotalScalar.agrees_one, Scalar.le_larger TotalScalar.agrees_one⟩

namespace Catalog

theorem keepsFirst_firstOfIds : KeepsFirst Asset.id firstOfIds := ⟨rfl, fun _ _ => rfl⟩

def ids (catalog : Catalog) : List String := catalog.assets.map Asset.id

theorem nodup_ids_ofList (assets : List Asset) : (ofList assets).ids.Nodup :=
  keepsFirst_firstOfIds.nodup assets

private theorem mem_ids_ofList {assets : List Asset} {id : String} :
    id ∈ (ofList assets).ids ↔ id ∈ assets.map Asset.id :=
  keepsFirst_firstOfIds.mem_map_iff

end Catalog

namespace Document

section Images

variable {α : Type}

/-- A finished image of which nothing is stored: no asset, and a bitmap of this client or none. -/
def isLocalOnly (image : Image α) : Bool :=
  image.status = .done && image.assetId.isNone && (image.src = "" || image.hasLocalSrc)

def isVoid (image : Image α) : Bool :=
  image.status = .done && image.assetId.isNone && image.src = ""

private theorem isLocalOnly_of_none {image : Image α} (has : image.assetId = none) :
    isLocalOnly image = !isDurableImage image := by
  by_cases empty : image.src = "" <;> cases status : image.status <;>
    simp [isLocalOnly, isDurableImage, Image.hasRemoteSrc, has, status, empty]

private theorem isVoid_eq (image : Image α) :
    isVoid image = (isLocalOnly image && image.src = "") := by
  by_cases empty : image.src = "" <;> simp [isVoid, isLocalOnly, empty]

variable [Scalar α]

private theorem restoreImage_of_localOnly {catalog : Catalog} {image : Image α}
    (has : image.assetId = none) (gone : isDurableImage image = false) :
    restoreImage catalog image =
      ⟨if image.src = "" then none
        else some { image with
          syncStatus := none
          syncError := none }, false, true⟩ := by
  cases image
  cases has
  simp only [restoreImage]
  exact if_neg (ne_true_of_eq_false gone)

private theorem restoreImage_outcome (catalog : Catalog) (image : Image α) :
    (restoreImage catalog image).image.isNone = isVoid image ∧
      (restoreImage catalog image).missingAsset = lacksAsset catalog image ∧
      (restoreImage catalog image).localOnly = isLocalOnly image := by
  rw [isVoid_eq]
  cases has : image.assetId with
  | some id =>
    have stored : isLocalOnly image = false := by simp [isLocalOnly, has]
    rw [stored]
    cases found : catalog.get? id with
    | some asset =>
      rw [restoreImage_of_listed has found]
      simp [lacksAsset, has, found]
    | none =>
      cases remote : image.hasRemoteSrc with
      | true =>
        rw [restoreImage_of_remote has found remote]
        simp [lacksAsset, has, found]
      | false =>
        rw [restoreImage_of_gone has found remote]
        simp [lacksAsset, has, found]
  | none =>
    rw [isLocalOnly_of_none has]
    cases durable : isDurableImage image with
    | true =>
      rw [restoreImage_of_durable has durable]
      simp [lacksAsset, has]
    | false =>
      rw [restoreImage_of_localOnly has durable]
      by_cases empty : image.src = "" <;> simp [lacksAsset, has, empty]

end Images

section Elements

variable {α : Type}

def isLost (saved : SavedElement α) : Bool := saved.element.image?.any isVoid

/-- The saved elements that are kept, when some keys are seen already: the first of each key among
those of which something is left. -/
def survivors : List Key → List (SavedElement α) → List (SavedElement α)
  | _, [] => []
  | seen, saved :: rest =>
    if isLost saved ∨ saved.element.key ∈ seen then survivors seen rest
    else saved :: survivors (saved.element.key :: seen) rest

/-- A saved element and what is read of it. -/
structure ReadAs [Scalar α] (catalog : Catalog) (saved : SavedElement α) (e : Element α) :
    Prop where
  key : e.key = saved.element.key
  rect : e.rect = Element.fitRect saved.element.rect
  refId : e.refId = saved.element.refId
  content : restoreContent catalog saved.element.content = some e.content

def BelowLast (doc : Document α) : Prop :=
  ∀ saved ∈ doc.elements, ∀ id ∈ saved.element.refId, id < Text.max32

/-- Saved elements stand in the order of their heights; those of one height stay in theirs. -/
structure StackedFrom (saved ordered : List (SavedElement α)) : Prop where
  perm : ordered.Perm saved
  ascending : ordered.Pairwise fun a b => a.z ≤ b.z
  stable : ∀ z, (ordered.filter fun s => s.z = z) = saved.filter fun s => s.z = z

private theorem stackedFrom_stacked (saved : List (SavedElement α)) :
    StackedFrom saved (stacked saved) := by
  have trans : ∀ a b c : SavedElement α, decide (a.z ≤ b.z) = true → decide (b.z ≤ c.z) = true →
      decide (a.z ≤ c.z) = true := by
    intro a b c ab bc
    exact decide_eq_true (Nat.le_trans (of_decide_eq_true ab) (of_decide_eq_true bc))
  have total : ∀ a b : SavedElement α, (decide (a.z ≤ b.z) || decide (b.z ≤ a.z)) = true := by
    intro a b
    simpa using Nat.le_total a.z b.z
  have perm : (stacked saved).Perm saved := List.mergeSort_perm _ _
  constructor
  case perm => exact perm
  case ascending => exact (List.pairwise_mergeSort trans total saved).imp of_decide_eq_true
  case stable =>
    intro z
    -- Elements of one height are in order, so sorting leaves them a sublist, which is all of them.
    have level : (saved.filter fun s => s.z = z).Pairwise fun a b => decide (a.z ≤ b.z) = true := by
      refine List.pairwise_of_forall_mem_list ?_
      intro a a_mem b b_mem
      have a_at : a.z = z := by simpa using (List.mem_filter.mp a_mem).2
      have b_at : b.z = z := by simpa using (List.mem_filter.mp b_mem).2
      exact decide_eq_true (by omega)
    have inside : (saved.filter fun s => s.z = z).Sublist (stacked saved) :=
      List.sublist_mergeSort trans total level List.filter_sublist
    have part := inside.filter fun s => decide (s.z = z)
    rw [List.filter_filter] at part
    simp only [Bool.and_self] at part
    exact (part.eq_of_length (perm.filter _).length_eq.symm).symm

variable [Scalar α] {catalog : Catalog} {saved : SavedElement α} {e : Element α}

theorem readAs_of_restoreElement (back : restoreElement catalog saved = some e) :
    ReadAs catalog saved e := by
  obtain ⟨content, restored, rfl⟩ := Option.map_eq_some_iff.mp back
  exact ⟨rfl, rfl, rfl, restored⟩

private theorem isNone_restoreElement (catalog : Catalog) (saved : SavedElement α) :
    (restoreElement catalog saved).isNone = isLost saved := by
  obtain ⟨z, key, rect, refId, content⟩ := saved
  cases content with
  | image image =>
    rw [restoreElement, Option.isNone_map, restoreContent, Option.isNone_map]
    exact (restoreImage_outcome catalog image).1
  | _ => rfl

omit [Scalar α] in
private theorem filter_unseen_of_mem {seen : List Key} {key : Key} (known : key ∈ seen)
    (elements : List (Element α)) :
    ((elements.filter fun e => e.key ≠ key).filter fun e => e.key ∉ seen) =
      elements.filter fun e => e.key ∉ seen := by
  rw [List.filter_filter]
  refine List.filter_congr fun e _ => ?_
  by_cases here : e.key = key <;> simp [here, known]

omit [Scalar α] in
private theorem filter_unseen_cons (seen : List Key) (key : Key) (elements : List (Element α)) :
    ((elements.filter fun e => e.key ≠ key).filter fun e => e.key ∉ seen) =
      elements.filter fun e => e.key ∉ key :: seen := by
  rw [List.filter_filter]
  refine List.filter_congr fun e _ => ?_
  by_cases here : e.key = key <;> simp [here]

private theorem forall₂_survivors (catalog : Catalog) (seen : List Key)
    (saved : List (SavedElement α)) :
    List.Forall₂ (ReadAs catalog) (survivors seen saved)
      ((Scene.firstOfKeys (saved.filterMap (restoreElement catalog))).filter
        fun e => e.key ∉ seen) := by
  induction saved generalizing seen with
  | nil => exact .nil
  | cons first rest ih =>
    have lost := isNone_restoreElement catalog first
    cases back : restoreElement catalog first with
    | none =>
      rw [back] at lost
      rw [List.filterMap_cons_none back, survivors, if_pos (.inl lost.symm)]
      exact ih seen
    | some e =>
      rw [back] at lost
      have read := readAs_of_restoreElement back
      rw [List.filterMap_cons_some back, Scene.firstOfKeys, survivors, ← read.key]
      by_cases known : e.key ∈ seen
      · rw [if_pos (.inr known), List.filter_cons_of_neg (by simpa using known),
          filter_unseen_of_mem known]
        exact ih seen
      · have kept : ¬ (isLost first = true ∨ e.key ∈ seen) := by
          rintro (gone | there)
          · exact absurd (lost.trans gone) Bool.false_ne_true
          · exact known there
        rw [if_neg kept, List.filter_cons_of_pos (by simpa using known), filter_unseen_cons]
        exact .cons read (ih (e.key :: seen))

end Elements

section Values

variable {α : Type}

private theorem isCurrent_iff {stored : Json α} :
    isCurrent stored = true ↔ stored.get? "schemaVersion" = some (.int 2) := by
  have known : currentVersion ≤ Text.max64 := by decide
  rw [isCurrent, decide_eq_true_iff, Option.bind_eq_some_iff]
  constructor
  · rintro ⟨json, found, read⟩
    rw [found, (Json.nat?_eq_some_iff.mp read).1]
    rfl
  · exact fun found => ⟨.ofNat currentVersion, found, Json.nat?_ofNat known⟩

variable [Scalar α]

private theorem schemaVersion_eq {stored : Json α} {doc : Document α}
    (current : isCurrent stored = true) (read : ofJson? stored = some doc) :
    doc.schemaVersion = currentVersion := by
  have said := isCurrent_iff.mp current
  cases stored with
  | obj members =>
    obtain ⟨⟨doc', fields⟩, whole, rfl⟩ := Option.map_eq_some_iff.mp read
    obtain ⟨version, _, first, rest⟩ := Json.exists_of_bind whole
    obtain ⟨elements, _, -, rest⟩ := Json.exists_of_bind rest
    obtain ⟨omitted, _, -, rest⟩ := Json.exists_of_bind rest
    obtain ⟨nextRefId, _, -, rest⟩ := Json.exists_of_bind rest
    obtain ⟨rfl, -⟩ := Prod.mk.inj (Option.some.inj rest)
    have number : Json.nat32? (.int 2 : Json α) = some version := Json.eq_of_required said first
    exact (Option.some.inj number).symm
  | _ => cases said

end Values

section Restored

variable {α : Type} [Scalar α]

/-- What is read of a document. -/
structure ReadOf (catalog : Catalog) (doc : Document α) (back : Restored α) : Prop where
  rebuilt : back.rebuilt = false
  elements : ∃ ordered, StackedFrom doc.elements ordered ∧
    List.Forall₂ (ReadAs catalog) (survivors [] ordered) back.scene.elements
  missing : back.missingAssets =
    doc.elements.countP fun saved => saved.element.image?.any (lacksAsset catalog)
  localOnly : back.localOnlyImages =
    doc.elements.countP fun saved => saved.element.image?.any isLocalOnly

private theorem countP_stacked {catalog : Catalog} {outcome : RestoredImage α → Bool}
    {holds : Image α → Bool} (same : ∀ image, outcome (restoreImage catalog image) = holds image)
    (saved : List (SavedElement α)) :
    ((stacked saved).filterMap (imageOutcome? catalog)).countP outcome =
      saved.countP fun saved => saved.element.image?.any holds := by
  rw [List.countP_filterMap, (stackedFrom_stacked saved).perm.countP_eq]
  refine List.countP_congr fun saved _ => ?_
  rw [imageOutcome?]
  cases saved.element.image? <;> simp [same]

private theorem readOf_restoreElements (catalog : Catalog) (doc : Document α) :
    ReadOf catalog doc (doc.restoreElements catalog) := by
  have survive := forall₂_survivors catalog [] (stacked doc.elements)
  simp only [List.not_mem_nil, not_false_eq_true, decide_true, List.filter_true] at survive
  constructor
  case rebuilt => rfl
  case elements => exact ⟨_, stackedFrom_stacked doc.elements, survive⟩
  case missing => exact countP_stacked (fun image => (restoreImage_outcome catalog image).2.1) _
  case localOnly => exact countP_stacked (fun image => (restoreImage_outcome catalog image).2.2) _

theorem elements_rebuild {catalog : Catalog} (nodup : catalog.ids.Nodup) :
    (rebuild catalog : Restored α).scene.elements =
      catalog.assets.mapIdx (cellElement (columns catalog.size)) := by
  refine Scene.keepsFirst_firstOfKeys.eq_self ?_
  have keys : (catalog.assets.mapIdx (cellElement (columns catalog.size)) :
      List (Element α)).map Element.key = catalog.ids.map fun id => ⟨"asset-" ++ id⟩ := by
    apply List.ext_getElem
    · simp [Catalog.ids]
    · intro place _ _
      simp [Catalog.ids, cellElement, Element.make]
  rw [keys]
  refine nodup.map fun id other same => ?_
  exact (String.append_right_inj "asset-").mp (Key.mk.inj same)

private theorem assetIds_rebuild {catalog : Catalog} (nodup : catalog.ids.Nodup) :
    ((rebuild catalog : Restored α).scene.elements.map fun e => e.image?.bind Image.assetId) =
      catalog.ids.map some := by
  rw [elements_rebuild nodup]
  apply List.ext_getElem
  · simp [Catalog.ids]
  · intro place _ _
    simp [Catalog.ids, cellElement, Element.make, Element.image?, Content.image?, assetImage]

theorem restoreValue_cases (stored : Json α) (catalog : Catalog) :
    (∃ doc, stored.get? "schemaVersion" = some (.int 2) ∧ ofJson? stored = some doc ∧
      restoreValue stored catalog = doc.restoreElements catalog) ∨
    ((stored.get? "schemaVersion" ≠ some (.int 2) ∨ ofJson? stored = none) ∧
      restoreValue stored catalog = rebuild catalog) := by
  unfold restoreValue
  split
  · next current =>
    cases read : ofJson? stored with
    | none => exact .inr ⟨.inr rfl, rfl⟩
    | some doc =>
      exact .inl ⟨doc, isCurrent_iff.mp current, rfl, if_pos (schemaVersion_eq current read)⟩
  · next other => exact .inr ⟨.inl fun said => other (isCurrent_iff.mpr said), rfl⟩

private theorem belowLast_restoreElements (catalog : Catalog) {doc : Document α}
    (below : doc.BelowLast) : (doc.restoreElements catalog).scene.BelowLast := by
  refine Scene.belowLast_ofElements (fun e mem id has => ?_) doc.nextRefId
  obtain ⟨saved, inside, back⟩ := List.mem_filterMap.mp mem
  rw [(readAs_of_restoreElement back).refId] at has
  exact below saved ((stackedFrom_stacked doc.elements).perm.subset inside) id has

private theorem belowLast_rebuild (catalog : Catalog) :
    (rebuild catalog : Restored α).scene.BelowLast := by
  refine Scene.belowLast_ofElements (fun e mem id has => ?_) 1
  obtain ⟨place, below, rfl⟩ := List.mem_mapIdx.mp mem
  cases has

variable [TotalScalar α]

theorem sound_restoreElements (catalog : Catalog) (doc : Document α) :
    (doc.restoreElements catalog).scene.Sound := by
  refine Scene.sound_ofElements (fun e mem => ?_) doc.nextRefId
  obtain ⟨saved, -, back⟩ := List.mem_filterMap.mp mem
  rw [(readAs_of_restoreElement back).rect]
  exact Element.sides_fitRect saved.element.rect

theorem sound_rebuild (catalog : Catalog) : (rebuild catalog : Restored α).scene.Sound := by
  refine Scene.sound_ofElements (fun e mem => ?_) 1
  obtain ⟨place, below, rfl⟩ := List.mem_mapIdx.mp mem
  exact Element.sides_fitRect _

/-- Whatever is stored, the scene read is sound, and its reference ids are below the last if those
stored are.  A document of the current version is read element by element, in the order of heights,
and only void images and later elements of a key are missing; of anything else, one element for each
asset is laid out. -/
theorem restoreValue_sound (stored : Json α) (assets : List Asset) :
    let catalog := Catalog.ofList assets
    let back := restoreValue stored catalog
    back.scene.Sound ∧
    ((∀ doc, ofJson? stored = some doc → doc.BelowLast) → back.scene.BelowLast) ∧
    (∀ doc, stored.get? "schemaVersion" = some (.int 2) → ofJson? stored = some doc →
      ReadOf catalog doc back) ∧
    (stored.get? "schemaVersion" ≠ some (.int 2) ∨ ofJson? stored = none →
      back = rebuild catalog ∧ back.rebuilt = true ∧
        (back.scene.elements.map fun e => e.image?.bind Image.assetId) = catalog.ids.map some ∧
        catalog.ids.Nodup ∧ ∀ id, id ∈ catalog.ids ↔ id ∈ assets.map Asset.id) := by
  intro catalog back
  rcases restoreValue_cases stored catalog with ⟨doc, said, read, eq⟩ | ⟨given, eq⟩
  · have eq : back = doc.restoreElements catalog := eq
    rw [eq]
    refine ⟨sound_restoreElements catalog doc,
      fun below => belowLast_restoreElements catalog (below doc read), fun doc' _ read' => ?_,
      fun given => ?_⟩
    · obtain rfl := Option.some.inj (read.symm.trans read')
      exact readOf_restoreElements catalog doc
    · rcases given with other | unread
      · exact absurd said other
      · cases read.symm.trans unread
  · have eq : back = rebuild catalog := eq
    have nodup := Catalog.nodup_ids_ofList assets
    rw [eq]
    refine ⟨sound_rebuild catalog, fun _ => belowLast_rebuild catalog, fun doc said read => ?_,
      fun _ => ?_⟩
    · rcases given with other | unread
      · exact absurd said other
      · cases read.symm.trans unread
    · exact ⟨rfl, rfl, assetIds_rebuild nodup, nodup, fun id => Catalog.mem_ids_ofList⟩

end Restored

/-- Two texts of one key in boxes below one unit, and a finished image of which nothing is left. -/
def heap : Document Float :=
  let text (name : String) : Element Float :=
    ⟨⟨name⟩, ⟨8.0, 8.0, 0.25, -3.0⟩, none, .text "Owls" 16.0 "black" "" ""⟩
  ⟨2, [⟨7, text "owl"⟩, ⟨3, text "owl"⟩,
    ⟨3, ⟨⟨"fox"⟩, ⟨8.0, 8.0, 64.0, 32.0⟩, some 4, .image (Image.ofSrc "")⟩⟩], .none, 0⟩

theorem heap_is_sound :
    let back := restoreValue heap.toJson (Catalog.ofList [])
    ofJson? heap.toJson = some heap ∧ back.scene.Sound ∧ back.scene.BelowLast ∧
      back.rebuilt = false ∧ back.missingAssets = 0 ∧ back.localOnlyImages = 1 := by
  intro back
  obtain ⟨sound, below, document, -⟩ := restoreValue_sound heap.toJson []
  have read : ofJson? heap.toJson = some heap := rfl
  obtain ⟨rebuilt, -, missing, localOnly⟩ := document heap rfl read
  refine ⟨read, sound, below fun doc read' => ?_, rebuilt, missing.trans (by decide),
    localOnly.trans (by decide)⟩
  obtain rfl := Option.some.inj (read.symm.trans read')
  intro saved mem id has
  exact (by decide : ∀ saved ∈ heap.elements, ∀ id ∈ saved.element.refId, id < Text.max32)
    saved mem id has

end Document

end PromptCanvas
