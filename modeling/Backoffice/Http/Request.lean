import Backoffice.Http.Form
import Backoffice.Office.Basic

namespace Backoffice.Http

structure Request where
  method : String
  path : String
  query : String
  /-- Names are in lower case. -/
  headers : List (String × String)
  body : String

namespace Request

def splitTarget (target : String) : String × String :=
  let (path, query) := cutAt '?' (cutAt '#' target).1
  (path, query.getD "")

def isReadable (value : String) : Bool :=
  value.toList.all fun c => c == '\t' || (32 ≤ c.toNat && c.toNat < 127)

def headerText? (headers : List (String × String)) (name : String) : Option String :=
  ((headers.find? (·.1 == name)).map (·.2)).filter isReadable

def header? (headers : List (String × String)) (name : String) : Option String :=
  (headerText? headers name).bind Text.nonBlank

end Request

def headerActor? (headers : List (String × String)) : Option Actor :=
  (Request.header? headers "x-user-id").map fun id => {
    id
    tenantId := Request.header? headers "x-tenant-id"
    orgId := Request.header? headers "x-org-id"
    roles := match Request.header? headers "x-user-roles" with
      | some roles => ((Text.splitAt ',' roles).map Text.trim).filter (· != "")
      | none => [] }

def authenticate (a : Authenticator) (headers : List (String × String)) :
    Except Fault (Option Actor) :=
  match a with
  | .headers => .ok (headerActor? headers)
  | .anonymous => .ok none
  | .required =>
    match headerActor? headers with
    | some actor => .ok (some actor)
    | none => .error .unauthenticated

structure Defaults where
  locale : String
  environment : String

def environmentOf (d : Defaults) (headers : List (String × String)) (query : Dict String) : String :=
  let named := (Request.header? headers "x-admin-environment").or
    (((query.get? "env").bind Text.nonBlank).or ((query.get? "environment").bind Text.nonBlank))
  match named with
  | some e => Text.key e
  | none => d.environment

def contextOf (d : Defaults) (headers : List (String × String)) (query : Dict String)
    (actor : Option Actor) : Except Fault Context := do
  let mode ← match (query.get? "render_mode").bind Text.nonBlank with
    | some mode => RenderMode.parse mode
    | none => .ok .json
  let locale := ((query.get? "locale").bind Text.nonBlank).getD d.locale
  .ok { (Context.empty.withLocale locale).withEnvironment (environmentOf d headers query) with
    renderMode := some mode, actor }

end Backoffice.Http
