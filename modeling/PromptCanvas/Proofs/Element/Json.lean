import PromptCanvas.Element.Json
import PromptCanvas.Proofs.Json.Record

set_option autoImplicit false
set_option relaxedAutoImplicit false

namespace PromptCanvas

open Json

variable {α : Type}

def Size.IsNarrow (s : Size) : Prop := s.w ≤ Text.max32 ∧ s.h ≤ Text.max32

namespace Size

private theorem reads {members : List (String × Json α)} {s : Size} (narrow : s.IsNarrow)
    (h : Carries members [("w", .ofNat s.w), ("h", .ofNat s.h)]) : Reads Size.reader members s := by
  simp only [carries_cons_iff] at h
  obtain ⟨w, height, -⟩ := h
  exact .bind (.required w (yields_ofNat narrow.1))
    (.bind (.required height (yields_ofNat narrow.2)) (.pure s))

theorem yields {s : Size} (narrow : s.IsNarrow) :
    Yields Size.ofJson? (s.toJson : Json α) s :=
  yields_record? (by simp) fun _ carries => reads narrow carries

end Size

/-- Sizes of at most 32 bits. -/
structure Generator.Writable (g : Generator) : Prop where
  requested : ∀ s ∈ g.requestedSize, s.IsNarrow
  effective : ∀ s ∈ g.effectiveSize, s.IsNarrow

private theorem Generator.reads {members : List (String × Json α)} {g : Generator}
    (writable : g.Writable) (h : Carries members g.members) : Reads Generator.reader members g := by
  simp only [Generator.members, carries_cons_iff] at h
  obtain ⟨prompt, requested, effective, sizeAdjusted, ratioAdjusted, -⟩ := h
  have solid : ∀ s : Size, (s.toJson : Json α) ≠ .null := fun s => by simp [Size.toJson]
  refine .bind (.required prompt (.plain rfl rfl)) ?_
  refine .bind (.placed requested (yields_ofOption ?_ fun s _ => solid s)) ?_
  · exact fun s mem => Size.yields (writable.requested s mem)
  refine .bind (.placed effective (yields_ofOption ?_ fun s _ => solid s)) ?_
  · exact fun s mem => Size.yields (writable.effective s mem)
  exact .bind (.required sizeAdjusted (.plain rfl rfl))
    (.bind (.required ratioAdjusted (.plain rfl rfl)) (.pure g))

private theorem ImageStatus.yields_name (status : ImageStatus) :
    Yields (choice? ImageStatus.options) (.str status.name : Json α) status := by
  cases status <;> exact .plain rfl rfl

private theorem SyncStatus.yields_name (status : SyncStatus) :
    Yields (choice? SyncStatus.options) (.str status.name : Json α) status := by
  cases status <;> exact .plain rfl rfl

private theorem ShapeForm.yields_name (form : ShapeForm) :
    Yields (choice? ShapeForm.options) (.str form.name : Json α) form := by
  cases form <;> exact .plain rfl rfl

private theorem yields_text (s : Option String) :
    Yields (nullable text?) (ofOption .str s : Json α) s :=
  yields_ofOption (fun _ _ => .plain rfl rfl) fun _ _ => nofun

private theorem yields_sync (status : Option SyncStatus) :
    Yields (nullable (choice? SyncStatus.options))
      (ofOption (fun s => .str s.name) status : Json α) status :=
  yields_ofOption (fun s _ => s.yields_name) fun _ _ => nofun

variable [Scalar α]

/-- Measurements of the bitmap are finite. -/
structure Image.Writable (image : Image α) : Prop where
  width : ∀ w ∈ image.naturalW, Scalar.isFinite w = true
  height : ∀ h ∈ image.naturalH, Scalar.isFinite h = true

private theorem yields_number {x : Option α} (finite : ∀ w ∈ x, Scalar.isFinite w = true) :
    Yields (nullable number?) (ofOption ofNumber x) x := by
  refine yields_ofOption (fun w mem => yields_ofNumber (finite w mem)) fun w mem => ?_
  simp [ofNumber, finite w mem]

private theorem Image.reads {members : List (String × Json α)} {image : Image α}
    (writable : image.Writable) (h : Carries members image.members) :
    Reads Image.reader members image := by
  simp only [Image.members, carries_cons_iff] at h
  obtain ⟨src, status, naturalW, naturalH, assetId, contentHash, syncStatus, syncError,
    errorMessage, prompt, runId, -⟩ := h
  refine .bind (.required src (.plain rfl rfl)) ?_
  refine .bind (.required status image.status.yields_name) ?_
  refine .bind (.placed naturalW (yields_number writable.width)) ?_
  refine .bind (.placed naturalH (yields_number writable.height)) ?_
  refine .bind (.placed assetId (yields_text image.assetId)) ?_
  refine .bind (.placed contentHash (yields_text image.contentHash)) ?_
  refine .bind (.placed syncStatus (yields_sync image.syncStatus)) ?_
  refine .bind (.placed syncError (yields_text image.syncError)) ?_
  refine .bind (.placed errorMessage (yields_text image.errorMessage)) ?_
  refine .bind (.placed prompt (yields_text image.prompt)) ?_
  exact .bind (.placed runId (yields_text image.runId)) (.pure image)

namespace Content

/-- Measurements are finite, and whole numbers have at most 32 bits. -/
def Writable : Content α → Prop
  | image i => i.Writable
  | generator g => g.Writable
  | shape .. => True
  | text _ fontSize _ _ _ => Scalar.isFinite fontSize = true

private theorem exists_reader {content : Content α} (writable : content.Writable) :
    ∃ reader, kinds.lookup content.kindName = some reader ∧
      ∀ members, Carries members content.payload → Reads reader members content := by
  cases content with
  | image i => exact ⟨_, rfl, fun _ h => .map (Image.reads writable h)⟩
  | generator g => exact ⟨_, rfl, fun _ h => .map (Generator.reads writable h)⟩
  | shape form fill stroke =>
    refine ⟨_, rfl, fun members h => ?_⟩
    simp only [payload, carries_cons_iff] at h
    obtain ⟨shapeType, filled, stroked, -⟩ := h
    exact .bind (.required shapeType form.yields_name)
      (.bind (.required filled (.plain rfl rfl))
        (.bind (.required stroked (.plain rfl rfl)) (.pure _)))
  | text words fontSize color fill stroke =>
    refine ⟨_, rfl, fun members h => ?_⟩
    simp only [payload, carries_cons_iff] at h
    obtain ⟨said, size, colored, filled, stroked, -⟩ := h
    exact .bind (.required said (.plain rfl rfl))
      (.bind (.required size (yields_ofNumber writable))
        (.bind (.required colored (.plain rfl rfl))
          (.bind (.required filled (.plain rfl rfl))
            (.bind (.required stroked (.plain rfl rfl)) (.pure _)))))

private theorem reads {members : List (String × Json α)} {content : Content α}
    (writable : content.Writable) (h : Carries members content.members) :
    Reads (flattened "kind" kinds) members content := by
  obtain ⟨kind, fields⟩ := carries_cons_iff.mp h
  obtain ⟨reader, known, reads⟩ := exists_reader writable
  exact .flattened kind known (reads members fields)

private theorem members_nodup (content : Content α) : (content.members.map Prod.fst).Nodup := by
  cases content <;> simp [members, payload, Image.members, Generator.members]

theorem yields {content : Content α} (writable : content.Writable) :
    Yields Content.ofJson? content.toJson content :=
  have ⟨_, known, reads⟩ := exists_reader writable
  yields_tagged? content.members_nodup known reads

end Content

/-- All four measurements are finite. -/
structure Rect.IsFinite (r : Rect α) : Prop where
  x : Scalar.isFinite r.x = true
  y : Scalar.isFinite r.y = true
  w : Scalar.isFinite r.w = true
  h : Scalar.isFinite r.h = true

private theorem Rect.reads {members : List (String × Json α)} {r : Rect α} (finite : r.IsFinite)
    (h : Carries members r.members) : Reads Rect.reader members r := by
  simp only [Rect.members, carries_cons_iff] at h
  obtain ⟨x, y, w, height, -⟩ := h
  exact .bind (.required x (yields_ofNumber finite.x))
    (.bind (.required y (yields_ofNumber finite.y))
      (.bind (.required w (yields_ofNumber finite.w))
        (.bind (.required height (yields_ofNumber finite.h)) (.pure r))))

namespace Element

/-- Measurements are finite, and whole numbers have at most 32 bits. -/
structure Writable (e : Element α) : Prop where
  rect : e.rect.IsFinite
  refId : ∀ id ∈ e.refId, id ≤ Text.max32
  content : e.content.Writable

theorem reads {members : List (String × Json α)} {e : Element α} (writable : e.Writable)
    (h : Carries members e.members) : Reads Element.reader members e := by
  obtain ⟨key, h⟩ := carries_cons_iff.mp h
  obtain ⟨refId, content⟩ := carries_cons_iff.mp h.right
  refine .bind (.required key (.plain rfl rfl)) (.bind (Rect.reads writable.rect h.left) ?_)
  refine .bind (.optional refId (yields_ofOption ?_ ?_)) ?_
  · exact fun id mem => yields_ofNat (writable.refId id mem)
  · exact fun id _ => by simp [ofNat]
  · exact .bind (Content.reads writable.content content) (.pure e)

theorem members_nodup (e : Element α) : (e.members.map Prod.fst).Nodup := by
  obtain ⟨key, rect, refId, content⟩ := e
  cases content <;> simp [members, Rect.members, Content.members, Content.payload, Image.members,
    Generator.members]

theorem yields {e : Element α} (writable : e.Writable) : Yields Element.ofJson? e.toJson e :=
  yields_object? e.members_nodup fun _ carries => reads writable carries

end Element

end PromptCanvas
