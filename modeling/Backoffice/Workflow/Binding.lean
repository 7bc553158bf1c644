import Backoffice.Instant
import Backoffice.Fault
import Backoffice.Text.Key

namespace Backoffice.Workflow

inductive ScopeType where
  | global
  | byTrait
  | contentType
  deriving DecidableEq, Repr

namespace ScopeType

def names : List (String × ScopeType) :=
  [("global", global), ("trait", byTrait), ("content_type", contentType)]

def text : ScopeType → String
  | global => "global"
  | byTrait => "trait"
  | contentType => "content_type"

def rank : ScopeType → Nat
  | global => 0
  | byTrait => 1
  | contentType => 2

def decode : Decoder ScopeType := Decode.choice names

def parse (s : String) : Except Fault ScopeType :=
  let word := Text.replaceChar '-' '_' (Text.key s)
  match names.find? (·.1 == word) with
  | some (_, t) => .ok t
  | none => .error (.invalid "scope_type" ("unknown scope type " ++ word))

end ScopeType

structure Binding where
  id : String
  scopeType : ScopeType
  scopeRef : String
  workflowId : String
  priority : Nat
  active : Bool
  environment : String
  version : Nat
  createdAt : Instant
  updatedAt : Instant
  deriving DecidableEq, Repr

namespace Binding

def statusNames : List (String × Bool) := [("active", true), ("inactive", false)]

def decodeStatus : Decoder Bool := Decode.choice statusNames

def statusText (active : Bool) : String := if active then "active" else "inactive"

def decode : Decoder Binding := Reader.decoder do
  let id ← Reader.required "id" Decode.string
  let scopeType ← Reader.required "scope_type" ScopeType.decode
  let scopeRef ← Reader.required "scope_ref" Decode.string
  let workflowId ← Reader.required "workflow_id" Decode.string
  let priority ← Reader.required "priority" Decode.halfWord
  let active ← Reader.required "status" decodeStatus
  let environment ← Reader.defaulted "environment" "" Decode.string
  let version ← Reader.required "version" Decode.word
  let createdAt ← Reader.required "created_at" Instant.decode
  let updatedAt ← Reader.required "updated_at" Instant.decode
  pure ⟨id, scopeType, scopeRef, workflowId, priority, active, environment, version, createdAt,
    updatedAt⟩

def toJson (b : Binding) : Json :=
  .ofFields ([("id", .str b.id), ("scope_type", .str b.scopeType.text), ("scope_ref", .str b.scopeRef),
    ("workflow_id", .str b.workflowId), ("priority", .ofNat b.priority),
    ("status", .str (statusText b.active)), ("version", .ofNat b.version),
    ("created_at", b.createdAt.toJson), ("updated_at", b.updatedAt.toJson)] ++
    (if b.environment == "" then [] else [("environment", .str b.environment)]))

def globalRef : String := "global"

def normalized (b : Binding) : Binding :=
  { b with
    scopeRef := if b.scopeType == .global then globalRef else Text.key b.scopeRef
    workflowId := Text.key b.workflowId
    environment := Text.key b.environment }

def validate (b : Binding) : Except Fault Unit := do
  if b.scopeType != .global && Text.blank b.scopeRef then
    .error (.invalid "scope_ref" ("scope_ref is required for " ++ b.scopeType.text ++ " bindings"))
  if Text.blank b.workflowId then .error (.invalid "workflow_id" "workflow_id is required")

/-- Both are active, for the same scope and environment, at the same priority. -/
def collides (a b : Binding) : Bool :=
  a.active && b.active && a.id != b.id && a.scopeType == b.scopeType && a.scopeRef == b.scopeRef &&
    a.environment == b.environment && a.priority == b.priority

def taken (b : Binding) : Fault :=
  .bindingTaken b.id b.scopeType.text b.scopeRef
    (if b.environment == "" then none else some b.environment) b.priority

def fitsEnvironment (b : Binding) (environment : String) : Bool :=
  b.environment == "" || (environment != "" && b.environment == environment)

def precedence (a b : Binding) : Ordering :=
  (compare (a.environment == "").toNat (b.environment == "").toNat).then <|
    (compare a.priority b.priority).then <|
      (compare a.scopeType.rank b.scopeType.rank).then <|
        (compare a.scopeRef b.scopeRef).then (compare a.id b.id)

def inOrder (bs : List Binding) : List Binding :=
  bs.mergeSort fun a b => (precedence a b).isLE

def listingOrder (a b : Binding) : Ordering :=
  (compare a.scopeType.rank b.scopeType.rank).then <|
    (compare a.scopeRef b.scopeRef).then <|
      (compare a.priority b.priority).then (compare a.id b.id)

structure Draft where
  id : Option String
  scopeType : ScopeType
  scopeRef : Option String
  workflowId : String
  priority : Nat
  active : Bool
  environment : Option String

namespace Draft

def decode : Decoder Draft := Reader.decoder do
  let id ← Reader.optional "id" Decode.string
  let scopeType ← Reader.required "scope_type" ScopeType.decode
  let scopeRef ← Reader.optional "scope_ref" Decode.string
  let workflowId ← Reader.required "workflow_id" Decode.string
  let priority ← Reader.defaulted "priority" 0 Decode.halfWord
  let active ← Reader.defaulted "status" true decodeStatus
  let environment ← Reader.optional "environment" Decode.string
  pure ⟨id, scopeType, scopeRef, workflowId, priority, active, environment⟩

def binding (d : Draft) (now : Instant) (fresh : String) : Binding :=
  normalized ⟨(d.id.bind Text.nonBlank).getD fresh, d.scopeType, d.scopeRef.getD "", d.workflowId,
    d.priority, d.active, d.environment.getD "", 1, now, now⟩

end Draft

structure Update where
  scopeType : Option ScopeType
  scopeRef : Option String
  workflowId : Option String
  priority : Option Nat
  active : Option Bool
  environment : Option String

namespace Update

def none : Update := ⟨.none, .none, .none, .none, .none, .none⟩

def reader : Reader Update := do
  let scopeType ← Reader.optional "scope_type" ScopeType.decode
  let scopeRef ← Reader.optional "scope_ref" Decode.string
  let workflowId ← Reader.optional "workflow_id" Decode.string
  let priority ← Reader.optional "priority" Decode.halfWord
  let active ← Reader.optional "status" decodeStatus
  let environment ← Reader.optional "environment" Decode.string
  pure ⟨scopeType, scopeRef, workflowId, priority, active, environment⟩

def decode : Decoder Update := reader.decoder

def applyTo (u : Update) (now : Instant) (b : Binding) : Binding :=
  normalized { b with
    scopeType := u.scopeType.getD b.scopeType
    scopeRef := u.scopeRef.getD b.scopeRef
    workflowId := u.workflowId.getD b.workflowId
    priority := u.priority.getD b.priority
    active := u.active.getD b.active
    environment := u.environment.getD b.environment
    updatedAt := now }

end Update

structure Filter where
  scopeType : Option ScopeType
  scopeRef : Option String
  active : Option Bool
  environment : Option String

namespace Filter

def all : Filter := ⟨none, none, none, none⟩

def decode : Decoder Filter := Reader.decoder do
  let scopeType ← Reader.optional "scope_type" ScopeType.decode
  let scopeRef ← Reader.optional "scope_ref" Decode.string
  let active ← Reader.optional "status" decodeStatus
  let environment ← Reader.optional "environment" Decode.string
  pure ⟨scopeType, scopeRef, active, environment⟩

def accepts (f : Filter) (b : Binding) : Bool :=
  f.scopeType.all (· == b.scopeType) && f.active.all (· == b.active) &&
    (f.scopeRef.all fun r => b.scopeRef == Text.key r) &&
    f.environment.all fun e => b.environment == Text.key e

end Filter

structure Query where
  contentType : String
  traits : List String
  environment : String

namespace Query

def empty : Query := ⟨"", [], ""⟩

def decode : Decoder Query := Reader.decoder do
  let contentType ← Reader.defaulted "content_type" "" Decode.string
  let traits ← Reader.defaulted "traits" [] Decode.strings
  let environment ← Reader.defaulted "environment" "" Decode.string
  pure ⟨contentType, traits, environment⟩

end Query

def resolvedJson (b : Binding) : Json :=
  .ofFields ([("workflow_id", .str b.workflowId), ("binding_id", .str b.id),
    ("scope_type", .str b.scopeType.text), ("scope_ref", .str b.scopeRef),
    ("priority", .ofNat b.priority)] ++
    (if b.environment == "" then [] else [("environment", .str b.environment)]))

def tiers (q : Query) : List (ScopeType × String) :=
  let named (t : ScopeType) (s : String) : List (ScopeType × String) :=
    if Text.key s == "" then [] else [(t, Text.key s)]
  named .contentType q.contentType ++ q.traits.flatMap (named .byTrait)

/-- The binding that governs what the query describes. -/
def resolve (bs : List Binding) (q : Query) : Option Binding :=
  let candidates := inOrder (bs.filter fun b => b.active && b.fitsEnvironment (Text.key q.environment))
  ((tiers q).findSome? fun (t, ref) =>
      candidates.find? fun b => b.scopeType == t && b.scopeRef == ref).or
    (candidates.find? (·.scopeType == .global))

end Binding

end Backoffice.Workflow
