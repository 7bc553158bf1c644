import Backoffice.Instant
import Backoffice.Workflow.Definition

namespace Backoffice

structure Workflow where
  id : String
  name : String
  status : Workflow.Status
  version : Nat
  environment : String
  definition : Workflow.Definition
  createdAt : Instant
  updatedAt : Instant
  deriving DecidableEq, Repr

namespace Workflow

def isActive (w : Workflow) : Bool := w.status == .active

def validate (w : Workflow) : Except Fault Unit := do
  if w.id == "" then .error (.invalid "id" "workflow id is required")
  if Text.blank w.name then .error (.invalid "name" "workflow name is required")
  w.definition.validate

def shared (name : String) (status : Status) (version : Nat) (environment : String)
    (definition : Definition) (createdAt updatedAt : Instant) : List (String × Json) :=
  [("name", .str name), ("status", .str status.text), ("version", .ofNat version),
    ("definition", definition.toJson), ("created_at", createdAt.toJson),
    ("updated_at", updatedAt.toJson)] ++
    (if environment == "" then [] else [("environment", .str environment)])

def toJson (w : Workflow) : Json :=
  .ofFields (("id", .str w.id) ::
    shared w.name w.status w.version w.environment w.definition w.createdAt w.updatedAt)

structure Revision where
  workflowId : String
  version : Nat
  name : String
  status : Status
  environment : String
  definition : Definition
  createdAt : Instant
  updatedAt : Instant
  deriving DecidableEq, Repr

def Revision.toJson (r : Revision) : Json :=
  .ofFields (("workflow_id", .str r.workflowId) ::
    shared r.name r.status r.version r.environment r.definition r.createdAt r.updatedAt)

def revision (w : Workflow) : Revision :=
  ⟨w.id, w.version, w.name, w.status, w.environment, w.definition, w.createdAt, w.updatedAt⟩

structure Draft where
  id : Option String
  name : String
  status : Option Status
  environment : Option String
  definition : Definition

namespace Draft

def decode : Decoder Draft := Reader.decoder do
  let id ← Reader.optional "id" Decode.string
  let name ← Reader.required "name" Decode.string
  let status ← Reader.optional "status" Status.decode
  let environment ← Reader.optional "environment" Decode.string
  let definition ← Reader.required "definition" Definition.decode
  pure ⟨id, name, status, environment, definition⟩

/-- The first version of the workflow; `fresh` is its id when the input names none. -/
def workflow (d : Draft) (now : Instant) (fresh : String) : Workflow where
  id := match d.id.bind Text.nonBlank with
    | some id => Text.key id
    | none => fresh
  name := Text.trim d.name
  status := d.status.getD .draft
  version := 1
  environment := Text.key (d.environment.getD "")
  definition := d.definition.trimmed
  createdAt := now
  updatedAt := now

end Draft

structure Update where
  name : Option String
  status : Option Status
  environment : Option String
  definition : Option Definition

namespace Update

def none : Update := ⟨.none, .none, .none, .none⟩

def reader : Reader Update := do
  let name ← Reader.optional "name" Decode.string
  let status ← Reader.optional "status" Status.decode
  let environment ← Reader.optional "environment" Decode.string
  let definition ← Reader.optional "definition" Definition.decode
  pure ⟨name, status, environment, definition⟩

def decode : Decoder Update := reader.decoder

def ofRevision (r : Revision) : Update :=
  ⟨some r.name, some r.status, some r.environment, some r.definition⟩

def applyTo (u : Update) (now : Instant) (w : Workflow) : Workflow :=
  { w with
    name := match u.name with
      | some name => Text.trim name
      | .none => w.name
    status := u.status.getD w.status
    environment := match u.environment with
      | some environment => Text.key environment
      | .none => w.environment
    definition := match u.definition with
      | some definition => definition.trimmed
      | .none => w.definition
    updatedAt := now }

end Update

structure Filter where
  status : Option Status
  environment : Option String

namespace Filter

def all : Filter := ⟨none, none⟩

def decode : Decoder Filter := Reader.decoder do
  let status ← Reader.optional "status" Status.decode
  let environment ← Reader.optional "environment" Decode.string
  pure ⟨status, environment⟩

def accepts (f : Filter) (w : Workflow) : Bool :=
  f.status.all (· == w.status) && f.environment.all fun e => w.environment == Text.key e

end Filter

end Workflow

end Backoffice
