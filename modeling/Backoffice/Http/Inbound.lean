import Backoffice.Http.Bodies
import Backoffice.Http.MediaType
import Backoffice.Http.Request
import Backoffice.Json.Printer

namespace Backoffice.Http

inductive Body where
  | empty
  | json (v : Json)
  | members (fields : List (String × Json))
  | text (s : String)

namespace Body

def written : Body → String
  | empty => ""
  | json v => v.render
  | members fields => (Json.obj fields).render
  | text s => s

def view (b : Body) : Json := (Json.parse? b.written).getD (.str b.written)

end Body

structure Response where
  status : Nat
  body : Body

namespace Response

def ok (v : Json) : Response := ⟨200, .json v⟩

def created (v : Json) : Response := ⟨201, .json v⟩

def noContent : Response := ⟨204, .empty⟩

end Response

structure Inbound where
  request : Request
  actor : Option Actor
  /-- The parts of the path that the route leaves open, as they were sent. -/
  params : List String

abbrev Handler := Inbound → Call Office Response

namespace Inbound

def pairs (i : Inbound) : List (String × String) := formPairs i.request.query

def context (i : Inbound) : Call Office Context :=
  Call.asks fun o => contextOf ⟨o.config.defaultLocale, o.config.defaultEnvironment⟩
    i.request.headers (formDict i.pairs) i.actor

def pathFault (detail : String) : Fault := .invalid "path" ("Invalid URL: " ++ detail)

def allParams (i : Inbound) : Except Fault (List String) :=
  match i.params.mapM pathText? with
  | some params => .ok params
  | none => .error (pathFault "a part of the path is not text")

def paramCountFault (expected got : Nat) : Fault :=
  .invalid "path" ("Wrong number of path arguments for `Path`. Expected " ++ toString expected ++
    " but got " ++ toString got ++ (if expected == 1 then
      ". Note that multiple parameters must be extracted with a tuple `Path<(_, _)>` or a struct " ++
        "`Path<YourParams>`" else ""))

def param (i : Inbound) : Call Office String := do
  match ← Call.ofExcept i.allParams with
  | [a] => pure a
  | params => throw (paramCountFault 1 params.length)

def params2 (i : Inbound) : Call Office (String × String) := do
  match ← Call.ofExcept i.allParams with
  | a :: b :: _ => pure (a, b)
  | params => throw (paramCountFault 2 params.length)

def queryFault : Fault :=
  .invalid "query" "Failed to deserialize query string: a field has no value of its type"

def fields {α : Type} (i : Inbound) (known : List String) (d : Decoder α) : Call Office α :=
  match (formFields? known i.pairs).bind fun r => d (.obj r) with
  | some a => pure a
  | none => throw queryFault

def announcesJson (headers : List (String × String)) : Bool :=
  match (Request.headerText? headers "content-type").bind MediaType.parse? with
  | some m => m.isJson
  | none => false

def bodyFault (text : String) : Fault := .invalid "body" text

def obstacleText : Obstacle → String
  | .malformed => "Failed to parse the request body as JSON: the text is no value"
  | .mismatched =>
    "Failed to deserialize the JSON body into the target type: the value has another shape"

/-- The body of a request, if it is announced and not too long. -/
def readBody {α : Type} (i : Inbound) (limit : Nat) (b : BodyType α) : Except Fault α :=
  if !announcesJson i.request.headers then
    .error (bodyFault "Expected request with `Content-Type: application/json`")
  else if limit < (Digest.utf8 i.request.body).length then
    .error (bodyFault "Failed to buffer the request body: length limit exceeded")
  else (b.read i.request.body).mapError (bodyFault ∘ obstacleText)

def body {α : Type} (i : Inbound) (b : BodyType α) : Call Office α :=
  Call.asks fun o => i.readBody o.config.server.maxBodySize b

end Inbound

def requireFeature (ctx : Context) (key : String) : Call Office Unit :=
  Call.asks fun o => o.gate.require ctx key

/-- Refuses without the permission that a guard asks for; an empty permission is public. -/
def requirePermission (ctx : Context) (g : Guard) (resource : String) : Call Office Unit :=
  Call.asks fun o =>
    let permission := o.config.permission g
    if permission == "" then .ok () else o.authorizer.require ctx permission resource

end Backoffice.Http
