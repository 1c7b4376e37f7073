import PromptCanvas.Geometry
import PromptCanvas.Size

/-!
Elements of the canvas: images, generators, shapes and texts.

An element has a key, a box in the world, and a content.  Its height in the stack is not stored:
it is the element's place in the scene.  Boxes are kept at least one unit wide and high by
`Element.make` and `Element.withRect`.
-/

set_option autoImplicit false
set_option relaxedAutoImplicit false

namespace PromptCanvas

/-- Where the making of an image stands. -/
inductive ImageStatus where
  | running
  | done
  | error
  deriving Repr, DecidableEq

inductive SyncStatus where
  | pending
  | synced
  | failed
  deriving Repr, DecidableEq

inductive ShapeForm where
  | rect
  | circle
  | triangle
  | star
  deriving Repr, DecidableEq

/-- The content of an image element. -/
structure Image (α : Type) where
  /-- Where the bitmap is: an inline or remote location, empty while there is none. -/
  src : String
  status : ImageStatus
  naturalW : Option α
  naturalH : Option α
  assetId : Option String
  contentHash : Option String
  syncStatus : Option SyncStatus
  syncError : Option String
  errorMessage : Option String
  prompt : Option String
  runId : Option String
  deriving Repr, DecidableEq

structure Generator where
  prompt : String
  requestedSize : Option Size
  effectiveSize : Option Size
  sizeAdjusted : Bool
  ratioAdjusted : Bool
  deriving Repr, DecidableEq

/-- What an element shows. -/
inductive Content (α : Type) where
  | image (image : Image α)
  | generator (generator : Generator)
  | shape (form : ShapeForm) (fill stroke : String)
  | text (text : String) (fontSize : α) (color fill stroke : String)
  deriving Repr, DecidableEq

/-- An element: its key, its box in the world, its reference id once it has one, its content. -/
structure Element (α : Type) where
  key : Key
  rect : Rect α
  refId : Option Nat
  content : Content α
  deriving Repr, DecidableEq

/-- Whether a source starts with the given scheme, in any case and after white space. -/
def hasScheme (scheme : String) (src : String) : Bool :=
  Text.startsWithIgnoringCase scheme.toList (Text.trimStart src.toList)

def isLocalSrc (src : String) : Bool := hasScheme "data:" src || hasScheme "blob:" src

variable {α : Type}

namespace Image

def ofSrc (src : String) : Image α :=
  { src
    status := .done
    naturalW := none
    naturalH := none
    assetId := none
    contentHash := none
    syncStatus := none
    syncError := none
    errorMessage := none
    prompt := none
    runId := none }

def placeholder (prompt : String) : Image α :=
  { ofSrc "" with
    status := .running
    prompt := some prompt }

def isPersisted (image : Image α) : Bool :=
  image.contentHash.isSome && image.syncStatus = some .synced

def hasLocalSrc (image : Image α) : Bool := isLocalSrc image.src

def hasRemoteSrc (image : Image α) : Bool := image.src ≠ "" && !image.hasLocalSrc

/-- The bitmap's own ratio of width to height, when both are known and positive. -/
@[specialize] def naturalRatio [Scalar α] (image : Image α) : Option α :=
  match image.naturalW, image.naturalH with
  | some w, some h => if (0.0 : α) < w ∧ (0.0 : α) < h then some (w / h) else none
  | _, _ => none

end Image

namespace Content

def kindName : Content α → String
  | image _ => "image"
  | generator _ => "generator"
  | shape .. => "shape"
  | text .. => "text"

def image? : Content α → Option (Image α)
  | image i => some i
  | _ => none

def generator? : Content α → Option Generator
  | generator g => some g
  | _ => none

def isRunning : Content α → Bool
  | image i => i.status = .running
  | _ => false

def mapImage (change : Image α → Image α) : Content α → Content α
  | image i => image (change i)
  | content => content

/-- Whether resizing keeps the proportions unless it is told otherwise. -/
def locksAspect : Content α → Bool
  | image _ | generator _ => true
  | shape .. | text .. => false

end Content

namespace Element

def image? (e : Element α) : Option (Image α) := e.content.image?

/-- Whether a result is still to be written into the element. -/
def isRunning (e : Element α) : Bool := e.content.isRunning

def mapImage (e : Element α) (change : Image α → Image α) : Element α :=
  { e with content := e.content.mapImage change }

def movedTo (e : Element α) (p : Point α) : Element α :=
  { e with rect := { e.rect with x := p.x, y := p.y } }

variable [Scalar α]

@[specialize] def fitRect (r : Rect α) : Rect α :=
  ⟨r.x, r.y, Scalar.larger r.w 1.0, Scalar.larger r.h 1.0⟩

@[specialize] def make (key : Key) (content : Content α) (rect : Rect α) : Element α :=
  { key
    rect := fitRect rect
    refId := none
    content }

@[specialize] def withRect (e : Element α) (rect : Rect α) : Element α :=
  { e with rect := fitRect rect }

@[specialize] def containsPoint (e : Element α) (p : Point α) : Bool := e.rect.contains p

@[specialize] def aspectRatio (e : Element α) : α :=
  (e.image?.bind Image.naturalRatio).getD (e.rect.w / e.rect.h)

end Element

end PromptCanvas
