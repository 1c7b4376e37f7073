import PromptCanvas.Element
import PromptCanvas.Json.Record

/-!
Elements as JSON.

The content of an element carries a tag for its kind; in an element its fields stand beside the
key and the box.  Every optional field is written, as null where there is nothing.
-/

set_option autoImplicit false
set_option relaxedAutoImplicit false

namespace PromptCanvas

open Json

def ImageStatus.options : List (String × ImageStatus) :=
  [("running", .running), ("done", .done), ("error", .error)]

def ImageStatus.name : ImageStatus → String
  | running => "running"
  | done => "done"
  | error => "error"

def SyncStatus.options : List (String × SyncStatus) :=
  [("pending", .pending), ("synced", .synced), ("failed", .failed)]

def SyncStatus.name : SyncStatus → String
  | pending => "pending"
  | synced => "synced"
  | failed => "failed"

def ShapeForm.options : List (String × ShapeForm) :=
  [("rect", .rect), ("circle", .circle), ("triangle", .triangle), ("star", .star)]

def ShapeForm.name : ShapeForm → String
  | rect => "rect"
  | circle => "circle"
  | triangle => "triangle"
  | star => "star"

variable {α : Type}

def Json.nat32? : Json α → Option Nat := Json.nat? Text.max32

namespace Size

def reader : FieldReader α Size := do
  let w ← required "w" nat32?
  let h ← required "h" nat32?
  pure ⟨w, h⟩

def ofJson? : Json α → Option Size := record? reader

def toJson (s : Size) : Json α := .obj [("w", .ofNat s.w), ("h", .ofNat s.h)]

end Size

section Contents

variable [Scalar α]

def Image.reader : FieldReader α (Image α) := do
  let src ← required "src" text?
  let status ← required "status" (choice? ImageStatus.options)
  let naturalW ← placed "naturalW" number?
  let naturalH ← placed "naturalH" number?
  let assetId ← placed "assetId" text?
  let contentHash ← placed "contentHash" text?
  let syncStatus ← placed "syncStatus" (choice? SyncStatus.options)
  let syncError ← placed "syncError" text?
  let errorMessage ← placed "errorMessage" text?
  let prompt ← placed "prompt" text?
  let runId ← placed "runId" text?
  pure { src, status, naturalW, naturalH, assetId, contentHash, syncStatus, syncError,
         errorMessage, prompt, runId }

def Image.members (image : Image α) : List (String × Json α) :=
  [("src", .str image.src),
    ("status", .str image.status.name),
    ("naturalW", ofOption ofNumber image.naturalW),
    ("naturalH", ofOption ofNumber image.naturalH),
    ("assetId", ofOption .str image.assetId),
    ("contentHash", ofOption .str image.contentHash),
    ("syncStatus", ofOption (fun s => .str s.name) image.syncStatus),
    ("syncError", ofOption .str image.syncError),
    ("errorMessage", ofOption .str image.errorMessage),
    ("prompt", ofOption .str image.prompt),
    ("runId", ofOption .str image.runId)]

def Generator.reader : FieldReader α Generator := do
  let prompt ← required "prompt" text?
  let requestedSize ← placed "requestedSize" Size.ofJson?
  let effectiveSize ← placed "effectiveSize" Size.ofJson?
  let sizeAdjusted ← required "sizeAdjusted" bool?
  let ratioAdjusted ← required "ratioAdjusted" bool?
  pure { prompt, requestedSize, effectiveSize, sizeAdjusted, ratioAdjusted }

def Generator.members (generator : Generator) : List (String × Json α) :=
  [("prompt", .str generator.prompt),
    ("requestedSize", ofOption Size.toJson generator.requestedSize),
    ("effectiveSize", ofOption Size.toJson generator.effectiveSize),
    ("sizeAdjusted", .bool generator.sizeAdjusted),
    ("ratioAdjusted", .bool generator.ratioAdjusted)]

namespace Content

def shapeReader : FieldReader α (Content α) := do
  let form ← required "shapeType" (choice? ShapeForm.options)
  let fill ← required "fill" text?
  let stroke ← required "stroke" text?
  pure (.shape form fill stroke)

def textReader : FieldReader α (Content α) := do
  let words ← required "text" text?
  let fontSize ← required "fontSize" number?
  let color ← required "textColor" text?
  let fill ← required "fill" text?
  let stroke ← required "stroke" text?
  pure (.text words fontSize color fill stroke)

def kinds : List (String × FieldReader α (Content α)) :=
  [("image", Content.image <$> Image.reader),
    ("generator", Content.generator <$> Generator.reader),
    ("shape", shapeReader),
    ("text", textReader)]

def payload : Content α → List (String × Json α)
  | image i => i.members
  | generator g => g.members
  | shape form fill stroke =>
    [("shapeType", .str form.name), ("fill", .str fill), ("stroke", .str stroke)]
  | text words fontSize color fill stroke =>
    [("text", .str words), ("fontSize", ofNumber fontSize), ("textColor", .str color),
      ("fill", .str fill), ("stroke", .str stroke)]

def members (content : Content α) : List (String × Json α) :=
  ("kind", .str content.kindName) :: content.payload

def ofJson? : Json α → Option (Content α) := tagged? "kind" kinds

def toJson (content : Content α) : Json α := .obj content.members

end Content

def Rect.reader : FieldReader α (Rect α) := do
  let x ← required "x" number?
  let y ← required "y" number?
  let w ← required "w" number?
  let h ← required "h" number?
  pure ⟨x, y, w, h⟩

def Rect.members (r : Rect α) : List (String × Json α) :=
  [("x", ofNumber r.x), ("y", ofNumber r.y), ("w", ofNumber r.w), ("h", ofNumber r.h)]

namespace Element

def reader : FieldReader α (Element α) := do
  let key ← required "key" text?
  let rect ← Rect.reader
  let refId ← optional "refId" nat32?
  let content ← flattened "kind" Content.kinds
  pure { key := ⟨key⟩, rect, refId, content }

def ofJson? : Json α → Option (Element α) := object? reader

def members (e : Element α) : List (String × Json α) :=
  ("key", .str e.key.text) :: e.rect.members ++
    ("refId", ofOption .ofNat e.refId) :: e.content.members

def toJson (e : Element α) : Json α := .obj e.members

end Element

end Contents

end PromptCanvas
