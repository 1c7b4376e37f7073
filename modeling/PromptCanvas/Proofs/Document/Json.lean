import PromptCanvas.Document.Json
import PromptCanvas.Proofs.Element.Json

set_option autoImplicit false
set_option relaxedAutoImplicit false

namespace PromptCanvas

open Json

variable {α : Type}

private theorem DocumentMeta.yields {m : DocumentMeta} (skipped : m.skippedLocalOnly ≤ Text.max64)
    (evicted : m.evicted ≤ Text.max64) : Yields DocumentMeta.ofJson? (m.toJson : Json α) m := by
  refine yields_record? (by simp) fun members carries => ?_
  simp only [carries_cons_iff] at carries
  obtain ⟨skippedField, evictedField, -⟩ := carries
  exact .bind (.required skippedField (yields_ofNat skipped))
    (.bind (.defaulted evictedField (yields_ofNat evicted)) (.pure m))

variable [Scalar α]

namespace SavedElement

/-- The height has at most 64 bits, and the element can be written. -/
structure Writable (s : SavedElement α) : Prop where
  z : s.z ≤ Text.max64
  element : s.element.Writable

private theorem yields {s : SavedElement α} (writable : s.Writable) :
    Yields SavedElement.ofJson? s.toJson s := by
  have nodup : ((("z", .ofNat s.z) :: s.element.members).map Prod.fst).Nodup := by
    rw [List.map_cons, List.nodup_cons]
    refine ⟨?_, s.element.members_nodup⟩
    obtain ⟨z, key, rect, refId, content⟩ := s
    cases content <;> simp [Element.members, Rect.members, Content.members, Content.payload,
      Image.members, Generator.members]
  refine yields_object? nodup fun members carries => ?_
  obtain ⟨z, element⟩ := carries_cons_iff.mp carries
  exact .bind (.required z (yields_ofNat writable.z))
    (.bind (Element.reads writable.element element) (.pure s))

end SavedElement

namespace Document

/-- All parts can be written, and numbers have the width that readers allow. -/
structure Writable (d : Document α) : Prop where
  schemaVersion : d.schemaVersion ≤ Text.max32
  elements : ∀ s ∈ d.elements, s.Writable
  skipped : d.omitted.skippedLocalOnly ≤ Text.max64
  evicted : d.omitted.evicted ≤ Text.max64
  nextRefId : d.nextRefId ≤ Text.max32

theorem yields {d : Document α} (writable : d.Writable) :
    Yields Document.ofJson? d.toJson d := by
  refine yields_record? (by simp) fun members carries => ?_
  simp only [carries_cons_iff] at carries
  obtain ⟨schemaVersion, elements, omitted, nextRefId, -⟩ := carries
  have each : Yields (list? SavedElement.ofJson?) (.arr (d.elements.map SavedElement.toJson))
      d.elements :=
    yields_list? fun s mem => SavedElement.yields (writable.elements s mem)
  exact .bind (.required schemaVersion (yields_ofNat writable.schemaVersion))
    (.bind (.required elements each)
      (.bind (.defaulted omitted (DocumentMeta.yields writable.skipped writable.evicted))
        (.bind (.defaulted nextRefId (yields_ofNat writable.nextRefId)) (.pure d))))

theorem restoreValue_toJson {d : Document α} (writable : d.Writable)
    (current : d.schemaVersion = currentVersion) (catalog : Catalog) :
    restoreValue d.toJson catalog = d.restoreElements catalog := by
  have isCurrent : isCurrent d.toJson = true := by
    have small : currentVersion ≤ Text.max64 := by decide
    simp [Document.isCurrent, Json.get?, toJson, current, nat?_ofNat small]
  rw [restoreValue, if_pos isCurrent, (yields writable).self]
  exact if_pos current

end Document

end PromptCanvas
