import PromptCanvas.Address
import PromptCanvas.EventStream
import PromptCanvas.Http.Envelope
import PromptCanvas.Input.Json
import PromptCanvas.Service.Exchange
import PromptCanvas.Text.Quoted

/-!
The services over HTTP: the request for each call, and what its answer means.

All endpoints stand below `api/v1` under the base address.  A token that is not blank is shown with
every request, and writes of a scene or a view carry the name that their repetitions share.
-/

set_option autoImplicit false
set_option relaxedAutoImplicit false

namespace PromptCanvas.Http

open Json

/-- Where the services are, and what they are shown as authority. -/
structure Client where
  base : Address
  token : Option String
  deriving Repr, DecidableEq

/-- What a service is asked to do. -/
inductive Call where
  | upload (workspace : String) (source : UploadSource)
  | deleteAsset (workspace : String) (id : String)
  | createRun (workspace : String) (request : RunRequest)
  | streamRun (runId : String)
  | plan (text : String)
  | loadScene (workspace : String)
  | saveScene (workspace : String) (version : Nat) (document : Json Float) (key : String)
  | saveView (workspace : String) (view : ViewState Float) (key : String)
  | listAssets (workspace : String)

inductive Method where
  | get
  | post
  | put
  | delete
  deriving Repr, DecidableEq

structure Request where
  method : Method
  address : Address
  authorization : Option String
  accept : String
  idempotencyKey : Option String
  body : Option (Json Float)

/-- What an answer brought. -/
inductive Result where
  | done
  | asset (asset : Asset)
  | run (handle : RunHandle)
  | stream (items : List (Except ServiceError (Json Float)))
  | prompts (steps : List PlanStep)
  | scene (loaded : LoadedScene Float)
  | view (view : ViewState Float)
  | assets (assets : List Asset)

namespace Method

def name : Method → String
  | get => "GET"
  | post => "POST"
  | put => "PUT"
  | delete => "DELETE"

end Method

namespace Client

/-- A client for an address, which must be able to carry a path; a blank token counts as none. -/
def connect (address : String) (token : Option String) : Except ServiceError Client :=
  match Address.parse address.toList with
  | .error e => .error (.invalidUrl e.message)
  | .ok base =>
    if base.carriesPath then
      .ok ⟨base, token.filter fun token => !(Text.trim token.toList).isEmpty⟩
    else .error (.invalidUrl (base.text ++ " cannot carry a path"))

def description (c : Client) : String :=
  "HttpBackend \x7b base: " ++ Text.quoted c.base.text ++ ", authenticated: " ++
    toString c.token.isSome ++ " \x7d"

def endpoint (c : Client) (names : List String) : Address :=
  c.base.endpoint (["api", "v1"] ++ names)

def workspaceEndpoint (c : Client) (workspace : String) (names : List String) : Address :=
  c.endpoint (["workspaces", workspace] ++ names)

def plain (c : Client) (method : Method) (address : Address) : Request :=
  { method
    address
    authorization := c.token.map fun token => "Bearer " ++ token
    accept := "*/*"
    idempotencyKey := none
    body := none }

def carrying (c : Client) (method : Method) (address : Address) (body : Json Float) : Request :=
  { c.plain method address with body := some body }

def uploadBody : UploadSource → Json Float
  | .dataUri text => .obj [("dataUri", .str text)]
  | .url text => .obj [("sourceUrl", .str text)]

def request (c : Client) : Call → Request
  | .upload workspace source =>
    c.carrying .post (c.workspaceEndpoint workspace ["assets"]) (uploadBody source)
  | .deleteAsset workspace id => c.plain .delete (c.workspaceEndpoint workspace ["assets", id])
  | .createRun workspace request =>
    c.carrying .post (c.workspaceEndpoint workspace ["runs"]) request.toJson
  | .streamRun runId =>
    { c.plain .get (c.endpoint ["runs", runId, "stream"]) with accept := "text/event-stream" }
  | .plan text => c.carrying .post (c.endpoint ["plan"]) (.obj [("text", .str text)])
  | .loadScene workspace => c.plain .get (c.workspaceEndpoint workspace ["scene"])
  | .saveScene workspace version document key =>
    { c.carrying .put (c.workspaceEndpoint workspace ["scene"])
        (.obj [("schemaVersion", .ofNat version), ("document", document)]) with
      idempotencyKey := some key }
  | .saveView workspace view key =>
    { c.carrying .put (c.workspaceEndpoint workspace ["viewport"]) view.toJson with
      idempotencyKey := some key }
  | .listAssets workspace => c.plain .get (c.workspaceEndpoint workspace ["assets"])

end Client

/-- Whether a value can stand in a header: no control characters but the tabulator. -/
def isHeaderValue (value : String) : Bool :=
  value.toList.all fun c => c = '\t' || (0x20 ≤ c.toNat && c.toNat ≠ 0x7F)

def Request.isSendable (r : Request) : Bool :=
  r.authorization.all isHeaderValue && r.idempotencyKey.all isHeaderValue

/-- What arrives on a result stream, which fails where its body broke off. -/
def streamItems (body : List UInt8) (complete : Bool) :
    List (Except ServiceError (Json Float)) :=
  let (payloads, decoder) := EventStream.Decoder.start.push body
  payloads.map .ok ++
    if complete then decoder.finish.1.toList.map .ok
    else [.error (.transport "answer broke off")]

def interpretStream : Reply → Except ServiceError (List (Except ServiceError (Json Float)))
  | .unreachable => .error (.transport "no answer")
  | .broken status received =>
    if isSuccess status then .ok (streamItems received false)
    else if isUnavailable status then .error (unavailableBy status "")
    else .error (.refused (statusCode status) "")
  | .answered status body =>
    if isSuccess status then .ok (streamItems body true)
    else if isUnavailable status then .error (unavailableBy status (bodyText body))
    else .error (.refused (statusCode status) (bodyText body))

def requireData {β : Type} (what : String) : Option β → Except ServiceError β
  | some data => .ok data
  | none => .error (.unexpectedResponse (what ++ " response had no data"))

def asset? : Json Float → Option Asset :=
  once ["id", "contentHash", "url", "width", "height"] Asset.ofJson?

def Call.interpret (reply : Reply) : Call → Except ServiceError Result
  | upload .. => do
    let data ← Http.interpret asset? reply
    pure (.asset (← requireData "upload" data))
  | deleteAsset .. => do
    let _ ← Http.interpret any? reply
    pure .done
  | createRun .. => do pure (.run ((← Http.interpret RunHandle.ofJson? reply).getD ⟨none⟩))
  | streamRun _ => do pure (.stream (← interpretStream reply))
  | plan _ => do pure (.prompts ((← Http.interpret (list? PlanStep.ofJson?) reply).getD []))
  | loadScene _ => do
    pure (.scene ((← Http.interpret LoadedScene.ofJson? reply).getD LoadedScene.nothing))
  | saveScene .. => do
    let _ ← Http.interpret any? reply
    pure .done
  | saveView _ view _ => do
    pure (.view
      ((← Http.interpret (once ["zoom", "x", "y"] ViewState.ofJson?) reply).getD view))
  | listAssets _ => do pure (.assets ((← Http.interpret (list? asset?) reply).getD []))

/-- Makes a call over a network: the request that went out, if it could, and the result. -/
def Client.perform (c : Client) (call : Call) (network : Request → Reply) :
    Option Request × Except ServiceError Result :=
  let request := c.request call
  if request.isSendable then (some request, call.interpret (network request))
  else (none, .error (.transport "header cannot be sent"))

end PromptCanvas.Http
