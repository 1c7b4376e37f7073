import PromptCanvas.Http.Status
import PromptCanvas.Json.Reader
import PromptCanvas.Json.Record
import PromptCanvas.Service.Error
import PromptCanvas.Text.Utf8

set_option autoImplicit false
set_option relaxedAutoImplicit false

namespace PromptCanvas.Http

open Json

/-- Why a service refused. -/
structure Refusal where
  code : String
  message : String
  deriving Repr, DecidableEq

/-- The form of every answer: whether it is a success, its data, and the refusal. -/
structure Envelope (β : Type) where
  success : Bool
  data : Option β
  refusal : Option Refusal
  deriving Repr, DecidableEq

def Refusal.ofJson? {α : Type} : Json α → Option Refusal :=
  once ["code", "message"] (record? do
    pure ⟨← defaulted "code" "" text?, ← defaulted "message" "" text?⟩)

def Envelope.ofJson? {α β : Type} (read : Json α → Option β) : Json α → Option (Envelope β) :=
  once ["success", "data", "error"] (record? do
    let success ← defaulted "success" false bool?
    let data ← placed "data" read
    let refusal ← optional "error" Refusal.ofJson?
    pure { success, data, refusal })

inductive Reply where
  | unreachable
  | answered (status : Nat) (body : List UInt8)
  | broken (status : Nat) (received : List UInt8)
  deriving Repr, DecidableEq

def bodyText (body : List UInt8) : String := String.ofList (Text.decodeUtf8 body)

def statusCode (status : Nat) : String := "HTTP_" ++ toString status

def refusedBy (status : Nat) (refusal : Option Refusal) : ServiceError :=
  let given := refusal.getD ⟨"", ""⟩
  .refused (if given.code = "" then statusCode status else given.code)
    (if given.message = "" then "request failed" else given.message)

def unavailableBy (status : Nat) (body : String) : ServiceError :=
  .unavailable ("HTTP " ++ statusText status ++ ": " ++ body)

def judge {β : Type} (status : Nat) (body : List UInt8) (envelope : Option (Envelope β)) :
    Except ServiceError (Option β) :=
  match envelope with
  | none =>
    if isSuccess status then .error (.unreadable "no envelope")
    else .error (.refused (statusCode status) (bodyText body))
  | some envelope =>
    if isSuccess status && envelope.success then .ok envelope.data
    else .error (refusedBy status envelope.refusal)

/-- Reads a body as an envelope; a field that is repeated makes it none. -/
def readEnvelope? {β : Type} (read : Json Float → Option β) (body : List UInt8) :
    Option (Envelope β) :=
  (Json.rawOfBytes? body).bind (Envelope.ofJson? read)

/-- What a reply means whose body is taken for an envelope by `parse`. -/
def interpretBy {β : Type} (parse : List UInt8 → Option (Envelope β)) :
    Reply → Except ServiceError (Option β)
  | .unreachable => .error (.transport "no answer")
  | .broken status _ =>
    if isUnavailable status then .error (unavailableBy status "")
    else .error (.transport "answer broke off")
  | .answered status body =>
    if isUnavailable status then .error (unavailableBy status (bodyText body))
    else judge status body (parse body)

def interpret {β : Type} (read : Json Float → Option β) : Reply → Except ServiceError (Option β) :=
  interpretBy (readEnvelope? read)

end PromptCanvas.Http
