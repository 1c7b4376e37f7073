import PromptCanvas.Element.Json

set_option autoImplicit false
set_option relaxedAutoImplicit false

namespace PromptCanvas

open Json

/-- A bitmap in the remote asset store. -/
structure Asset where
  id : String
  contentHash : String
  url : String
  width : Option Nat
  height : Option Nat
  deriving Repr, DecidableEq

namespace Asset

variable {α : Type}

def reader : FieldReader α Asset := do
  let id ← required "id" text?
  let contentHash ← required "contentHash" text?
  let url ← required "url" text?
  let width ← optional "width" nat32?
  let height ← optional "height" nat32?
  pure { id, contentHash, url, width, height }

def ofJson? : Json α → Option Asset := record? reader

def toJson (a : Asset) : Json α :=
  .obj [("id", .str a.id), ("contentHash", .str a.contentHash), ("url", .str a.url),
    ("width", ofOption .ofNat a.width), ("height", ofOption .ofNat a.height)]

end Asset

/-- The assets of a workspace, each id once, in the order in which they are listed. -/
structure Catalog where
  assets : List Asset
  deriving Repr, DecidableEq

namespace Catalog

def firstOfIds : List Asset → List Asset
  | [] => []
  | a :: rest => a :: (firstOfIds rest).filter fun later => later.id ≠ a.id

/-- The catalog of a listing; later assets with an id already seen are passed over. -/
def ofList (assets : List Asset) : Catalog := ⟨firstOfIds assets⟩

def get? (c : Catalog) (id : String) : Option Asset := c.assets.find? fun a => a.id = id

def size (c : Catalog) : Nat := c.assets.length

end Catalog

end PromptCanvas
