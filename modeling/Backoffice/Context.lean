import Backoffice.Fault
import Backoffice.Json.Decode
import Backoffice.Text.Key

namespace Backoffice

inductive RenderMode where
  | json
  | html
  | fragment
  deriving DecidableEq, Repr

namespace RenderMode

def text : RenderMode → String
  | json => "json"
  | html => "html"
  | fragment => "partial"

def parse (s : String) : Except Fault RenderMode :=
  match Text.key s with
  | "json" | "api" => .ok json
  | "html" | "page" => .ok html
  | "partial" | "fragment" => .ok fragment
  | other => .error (.invalid "render_mode" ("unknown render mode: " ++ other))

end RenderMode

structure Actor where
  id : String
  tenantId : Option String
  orgId : Option String
  roles : List String
  deriving DecidableEq, Repr

namespace Actor

def named (id : String) : Actor := ⟨id, none, none, []⟩

def decode : Decoder Actor := Reader.decoder do
  let id ← Reader.required "id" Decode.string
  let tenantId ← Reader.optional "tenant_id" Decode.string
  let orgId ← Reader.optional "org_id" Decode.string
  let roles ← Reader.defaulted "roles" [] Decode.strings
  pure ⟨id, tenantId, orgId, roles⟩

def toJson (a : Actor) : Json :=
  .ofFields ([("id", .str a.id)] ++ Json.optional "tenant_id" .str a.tenantId ++
    Json.optional "org_id" .str a.orgId ++
    (if a.roles.isEmpty then [] else [("roles", .ofStrings a.roles)]))

end Actor

structure Context where
  actor : Option Actor
  locale : String
  environment : String
  renderMode : Option RenderMode
  values : Dict Json
  cancelled : Bool

namespace Context

def empty : Context := ⟨none, "", "", none, .empty, false⟩

instance : Inhabited Context := ⟨empty⟩

def system : Context := { empty with actor := some (.named "system") }

def withLocale (c : Context) (locale : String) : Context :=
  { c with locale := Text.trim locale }

def withEnvironment (c : Context) (environment : String) : Context :=
  { c with environment := Text.key environment }

def userId (c : Context) : String :=
  match c.actor with
  | some a => a.id
  | none => ""

def ensureActive (c : Context) : Except Fault Unit :=
  if c.cancelled then .error .cancelled else .ok ()

def requireActor (c : Context) : Except Fault Actor :=
  match c.actor with
  | some a => .ok a
  | none => .error .unauthenticated

end Context

end Backoffice
