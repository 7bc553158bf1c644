import Backoffice.Instant
import Backoffice.Permission
import Backoffice.Record

namespace Backoffice

namespace ContentType

inductive Status where
  | draft
  | active
  | deprecated
  | published
  deriving DecidableEq, Repr, Inhabited

namespace Status

def names : List (String × Status) :=
  [("draft", draft), ("active", active), ("deprecated", deprecated), ("published", published)]

def text : Status → String
  | draft => "draft"
  | active => "active"
  | deprecated => "deprecated"
  | published => "published"

def decode : Decoder Status := Decode.choice names

def exposesPanel : Status → Bool
  | active | published => true
  | _ => false

end Status

end ContentType

structure ContentType where
  id : String
  name : String
  slug : String
  description : String
  status : ContentType.Status
  schema : Json
  uiSchema : Json
  capabilities : Record
  environment : String
  createdAt : Instant
  updatedAt : Instant

namespace ContentType

def decode (now : Instant) : Decoder ContentType := Reader.decoder do
  let id ← Reader.defaulted "id" "" Decode.string
  let name ← Reader.defaulted "name" "" Decode.string
  let slug ← Reader.required "slug" Decode.string
  let description ← Reader.defaulted "description" "" Decode.string
  let status ← Reader.defaulted "status" .draft Status.decode
  let schema ← Reader.defaulted "schema" .null Decode.value
  let uiSchema ← Reader.defaulted "ui_schema" .null Decode.value
  let capabilities ← Reader.defaulted "capabilities" [] Decode.record
  let environment ← Reader.defaulted "environment" "" Decode.string
  let createdAt ← Reader.defaulted "created_at" now Instant.decode
  let updatedAt ← Reader.defaulted "updated_at" now Instant.decode
  pure ⟨id, name, slug, description, status, schema, uiSchema, capabilities, environment, createdAt,
    updatedAt⟩

def toJson (c : ContentType) : Json :=
  .ofFields [("id", .str c.id), ("name", .str c.name), ("slug", .str c.slug),
    ("description", .str c.description), ("status", .str c.status.text), ("schema", c.schema),
    ("ui_schema", c.uiSchema), ("capabilities", .obj c.capabilities),
    ("environment", .str c.environment), ("created_at", c.createdAt.toJson),
    ("updated_at", c.updatedAt.toJson)]

def capabilityText? (c : ContentType) (keys : List String) : Option String :=
  keys.findSome? fun k => (c.capabilities.strField? k).bind Text.nonBlank

/-- A capability that is switched on: `true`, a word for it, or an object not disabled. -/
def capabilityFlag (c : ContentType) (key : String) : Bool :=
  match c.capabilities.field? key with
  | some (.bool b) => b
  | some (.str s) => Json.truthWord? s == some true
  | some (.obj o) => ((Entries.get? "enabled" o).bind Json.asBool?).getD true
  | _ => false

def panelSlug (c : ContentType) : String :=
  Text.key ((c.capabilityText? ["panel_slug", "panelSlug"]).getD c.slug)

def explicitWorkflow? (c : ContentType) : Option String :=
  c.capabilityText? ["workflow_id", "workflowId", "workflow-id"]

def legacyWorkflow? (c : ContentType) : Option String :=
  c.capabilityText? ["workflow", "workflow_key", "workflowKey"]

def panelTraits (c : ContentType) : List String :=
  Text.distinctKeys (match c.capabilities.field? "panel_traits" with
    | some (.arr items) => items.filterMap Json.asStr?
    | some (.str s) => Text.splitAt ',' s
    | _ => [])

def panelPreset? (c : ContentType) : Option String :=
  (c.capabilityText? ["panel_preset"]).map Text.key

def hasTrait (c : ContentType) (name : String) : Bool :=
  c.panelTraits.contains name || c.panelPreset? == some name

inductive Permissions where
  | base (base : String)
  | explicit (set : PermissionSet)

def permissions? (c : ContentType) : Option Permissions :=
  match c.capabilities.field? "permissions" with
  | some (.str s) => (Text.nonBlank s).map .base
  | some (.obj o) =>
    let get (k : String) : String := Text.trim ((Record.strField? o k).getD "")
    some (.explicit ⟨get "view", get "create", get "edit", get "delete"⟩)
  | _ => none

def usesBlocks (c : ContentType) : Bool := c.capabilityFlag "blocks"

def usesSeo (c : ContentType) : Bool := c.capabilityFlag "seo"

def treeView (c : ContentType) : Bool := c.capabilityFlag "tree"

def localized (c : ContentType) : Bool := c.capabilityFlag "translations"

def label (c : ContentType) : String := if Text.blank c.name then c.slug else c.name

def checkSchema (c : ContentType) : Except Fault Unit := do
  if c.schema.asObj?.isNone then .error (.invalid "schema" "schema must be a JSON object")
  match (c.schema.get? "type").bind Json.asStr? with
  | some kind =>
    if kind != "object" then .error (.invalid "schema" ("schema type must be object, got " ++ kind))
  | none => .ok ()
  match c.schema.get? "properties" with
  | none | some (.obj _) => .ok ()
  | some _ => .error (.invalid "schema" "properties must be an object")

def requiredFields (c : ContentType) : List String :=
  ((c.schema.get? "required").map Json.asStrings).getD []

def isMissing : Option Json → Bool
  | none | some .null => true
  | some (.str s) => Text.blank s
  | some _ => false

def checkRequired (c : ContentType) (record : Record) : Except Fault Unit :=
  match c.requiredFields.find? fun f => isMissing (record.field? f) with
  | some field => .error (.invalid field (field ++ " is required"))
  | none => .ok ()

def normalized (c : ContentType) : Except Fault ContentType := do
  let slug := Text.key c.slug
  if slug == "" then .error (.invalid "slug" "content type slug is required")
  .ok { c with slug, environment := Text.key c.environment, name := if Text.blank c.name then slug else c.name }

end ContentType

end Backoffice
