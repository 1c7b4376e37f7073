import PromptCanvas.Document

set_option autoImplicit false
set_option relaxedAutoImplicit false

namespace PromptCanvas

open Json

variable {α : Type}

namespace DocumentMeta

def none : DocumentMeta := ⟨0, 0⟩

def reader : FieldReader α DocumentMeta := do
  let skippedLocalOnly ← required "skippedLocalOnlyCount" (nat? Text.max64)
  let evicted ← defaulted "evictedCount" 0 (nat? Text.max64)
  pure { skippedLocalOnly, evicted }

def ofJson? : Json α → Option DocumentMeta := record? reader

def toJson (m : DocumentMeta) : Json α :=
  .obj [("skippedLocalOnlyCount", .ofNat m.skippedLocalOnly), ("evictedCount", .ofNat m.evicted)]

end DocumentMeta

variable [Scalar α]

namespace SavedElement

def reader : FieldReader α (SavedElement α) := do
  let z ← required "z" (nat? Text.max64)
  let element ← Element.reader
  pure { z, element }

def ofJson? : Json α → Option (SavedElement α) := object? reader

def toJson (s : SavedElement α) : Json α := .obj (("z", .ofNat s.z) :: s.element.members)

end SavedElement

namespace Document

def reader : FieldReader α (Document α) := do
  let schemaVersion ← required "schemaVersion" nat32?
  let elements ← required "elements" (list? SavedElement.ofJson?)
  let omitted ← defaulted "meta" DocumentMeta.none DocumentMeta.ofJson?
  let nextRefId ← defaulted "nextRefId" 0 nat32?
  pure { schemaVersion, elements, omitted, nextRefId }

def ofJson? : Json α → Option (Document α) := record? reader

def toJson (d : Document α) : Json α :=
  .obj [("schemaVersion", .ofNat d.schemaVersion),
    ("elements", .arr (d.elements.map SavedElement.toJson)),
    ("meta", d.omitted.toJson),
    ("nextRefId", .ofNat d.nextRefId)]

/-- Whether a stored value says that it is a document of the current version. -/
def isCurrent (stored : Json α) : Bool :=
  ((stored.get? "schemaVersion").bind (nat? Text.max64)) = some currentVersion

/-- Reads back whatever is stored; a value that is no document of the current version is given
up. -/
def restoreValue (stored : Json α) (catalog : Catalog) : Restored α :=
  if isCurrent stored then
    match ofJson? stored with
    | some doc => doc.restore catalog
    | none => rebuild catalog
  else rebuild catalog

end Document

end PromptCanvas
