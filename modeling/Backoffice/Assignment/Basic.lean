import Backoffice.Fault
import Backoffice.Instant
import Backoffice.Text.Key

namespace Backoffice

namespace Assignment

inductive Pool where
  | assigned
  | openPool
  deriving DecidableEq, Repr, Inhabited

namespace Pool

def names : List (String × Pool) := [("assigned", assigned), ("open_pool", openPool)]

def text : Pool → String
  | assigned => "assigned"
  | openPool => "open_pool"

def decode : Decoder Pool := Decode.choice names

end Pool

inductive Status where
  | pending
  | assigned
  | inProgress
  | review
  | rejected
  | approved
  | published
  | archived
  deriving DecidableEq, Repr, Inhabited

namespace Status

def all : List Status :=
  [pending, assigned, inProgress, review, rejected, approved, published, archived]

def text : Status → String
  | pending => "pending"
  | assigned => "assigned"
  | inProgress => "in_progress"
  | review => "review"
  | rejected => "rejected"
  | approved => "approved"
  | published => "published"
  | archived => "archived"

def names : List (String × Status) := all.map fun s => (s.text, s)

def decode : Decoder Status := Decode.choice names

def isTerminal : Status → Bool
  | published | archived => true
  | _ => false

def parse (s : String) : Except Fault Status :=
  match names.find? (·.1 == Text.replaceChar '-' '_' (Text.key s)) with
  | some (_, status) => .ok status
  | none => .error (.invalid "status" ("unknown assignment status: " ++ s))

end Status

inductive Priority where
  | low
  | normal
  | high
  | urgent
  deriving DecidableEq, Repr, Inhabited

namespace Priority

def names : List (String × Priority) :=
  [("low", low), ("normal", normal), ("high", high), ("urgent", urgent)]

def text : Priority → String
  | low => "low"
  | normal => "normal"
  | high => "high"
  | urgent => "urgent"

def rank : Priority → Nat
  | low => 0
  | normal => 1
  | high => 2
  | urgent => 3

def decode : Decoder Priority := Decode.choice names

end Priority

structure Work where
  groupId : String
  entityType : String
  sourceLocale : String
  targetLocale : String
  deriving DecidableEq, Repr

def Work.text (w : Work) : String :=
  w.groupId ++ "/" ++ w.entityType ++ "/" ++ w.sourceLocale ++ "->" ++ w.targetLocale

end Assignment

structure Assignment where
  id : String
  groupId : String
  entityType : String
  sourceRecordId : String
  sourceLocale : String
  targetLocale : String
  targetRecordId : Option String
  pool : Assignment.Pool
  status : Assignment.Status
  priority : Assignment.Priority
  assigneeId : Option String
  assignerId : Option String
  reviewerId : Option String
  rejectionReason : Option String
  dueDate : Option Instant
  version : Nat
  /-- The key of the last write, if it carried one, and the operation it was used for. -/
  lastKey : Option String
  lastOperation : Option String
  createdAt : Instant
  updatedAt : Instant
  claimedAt : Option Instant
  submittedAt : Option Instant
  reviewedAt : Option Instant
  publishedAt : Option Instant
  archivedAt : Option Instant
  deriving DecidableEq, Repr

namespace Assignment

def work (a : Assignment) : Work := ⟨a.groupId, a.entityType, a.sourceLocale, a.targetLocale⟩

def isOpen (a : Assignment) : Bool := !a.status.isTerminal

def requiredTexts (a : Assignment) : List (String × String) :=
  [("id", a.id), ("translation_group_id", a.groupId), ("entity_type", a.entityType),
    ("source_record_id", a.sourceRecordId), ("source_locale", a.sourceLocale),
    ("target_locale", a.targetLocale)]

def validate (a : Assignment) : Except Fault Unit := do
  match a.requiredTexts.find? fun (_, v) => Text.blank v with
  | some (field, _) => .error (.invalid field (field ++ " is required"))
  | none => .ok ()
  if a.sourceLocale == a.targetLocale then
    .error (.invalid "target_locale" "target locale must differ from source locale")
  if a.pool == .assigned && a.assigneeId.isNone then
    .error (.invalid "assignee_id" "assigned work needs an assignee")

def decode : Decoder Assignment := Reader.decoder do
  let id ← Reader.required "id" Decode.string
  let groupId ← Reader.required "translation_group_id" Decode.string
  let entityType ← Reader.required "entity_type" Decode.string
  let sourceRecordId ← Reader.required "source_record_id" Decode.string
  let sourceLocale ← Reader.required "source_locale" Decode.string
  let targetLocale ← Reader.required "target_locale" Decode.string
  let targetRecordId ← Reader.optional "target_record_id" Decode.string
  let pool ← Reader.required "assignment_type" Pool.decode
  let status ← Reader.required "status" Status.decode
  let priority ← Reader.defaulted "priority" .normal Priority.decode
  let assigneeId ← Reader.optional "assignee_id" Decode.string
  let assignerId ← Reader.optional "assigner_id" Decode.string
  let reviewerId ← Reader.optional "reviewer_id" Decode.string
  let rejectionReason ← Reader.optional "rejection_reason" Decode.string
  let dueDate ← Reader.optional "due_date" Instant.decode
  let version ← Reader.required "version" Decode.word
  let lastKey ← Reader.optional "last_idempotency_key" Decode.string
  let lastOperation ← Reader.optional "last_operation" Decode.string
  let createdAt ← Reader.required "created_at" Instant.decode
  let updatedAt ← Reader.required "updated_at" Instant.decode
  let claimedAt ← Reader.optional "claimed_at" Instant.decode
  let submittedAt ← Reader.optional "submitted_at" Instant.decode
  let reviewedAt ← Reader.optional "reviewed_at" Instant.decode
  let publishedAt ← Reader.optional "published_at" Instant.decode
  let archivedAt ← Reader.optional "archived_at" Instant.decode
  pure ⟨id, groupId, entityType, sourceRecordId, sourceLocale, targetLocale, targetRecordId, pool,
    status, priority, assigneeId, assignerId, reviewerId, rejectionReason, dueDate, version, lastKey,
    lastOperation, createdAt, updatedAt, claimedAt, submittedAt, reviewedAt, publishedAt, archivedAt⟩

def toJson (a : Assignment) : Json :=
  .ofFields ([("id", .str a.id), ("translation_group_id", .str a.groupId),
    ("entity_type", .str a.entityType), ("source_record_id", .str a.sourceRecordId),
    ("source_locale", .str a.sourceLocale), ("target_locale", .str a.targetLocale),
    ("assignment_type", .str a.pool.text), ("status", .str a.status.text),
    ("priority", .str a.priority.text), ("version", .ofNat a.version),
    ("created_at", a.createdAt.toJson), ("updated_at", a.updatedAt.toJson)] ++
    Json.optional "target_record_id" .str a.targetRecordId ++
    Json.optional "assignee_id" .str a.assigneeId ++
    Json.optional "assigner_id" .str a.assignerId ++
    Json.optional "reviewer_id" .str a.reviewerId ++
    Json.optional "rejection_reason" .str a.rejectionReason ++
    Json.optional "due_date" Instant.toJson a.dueDate ++
    Json.optional "last_idempotency_key" .str a.lastKey ++
    Json.optional "last_operation" .str a.lastOperation ++
    Json.optional "claimed_at" Instant.toJson a.claimedAt ++
    Json.optional "submitted_at" Instant.toJson a.submittedAt ++
    Json.optional "reviewed_at" Instant.toJson a.reviewedAt ++
    Json.optional "published_at" Instant.toJson a.publishedAt ++
    Json.optional "archived_at" Instant.toJson a.archivedAt)

/-- The input of a creation; with an assignee it is direct work, else it joins the open pool. -/
structure Draft where
  id : Option String
  groupId : String
  entityType : String
  sourceRecordId : String
  sourceLocale : String
  targetLocale : String
  targetRecordId : Option String
  assigneeId : Option String
  priority : Priority
  dueDate : Option Instant
  actorId : String
  deriving DecidableEq, Repr

namespace Draft

def decode : Decoder Draft := Reader.decoder do
  let id ← Reader.optional "id" Decode.string
  let groupId ← Reader.required "translation_group_id" Decode.string
  let entityType ← Reader.required "entity_type" Decode.string
  let sourceRecordId ← Reader.required "source_record_id" Decode.string
  let sourceLocale ← Reader.required "source_locale" Decode.string
  let targetLocale ← Reader.required "target_locale" Decode.string
  let targetRecordId ← Reader.optional "target_record_id" Decode.string
  let assigneeId ← Reader.optional "assignee_id" Decode.string
  let priority ← Reader.defaulted "priority" .normal Priority.decode
  let dueDate ← Reader.optional "due_date" Instant.decode
  let actorId ← Reader.defaulted "actor_id" "" Decode.string
  pure ⟨id, groupId, entityType, sourceRecordId, sourceLocale, targetLocale, targetRecordId,
    assigneeId, priority, dueDate, actorId⟩

def toJson (d : Draft) : Json :=
  .ofFields [("id", .ofOption .str d.id), ("translation_group_id", .str d.groupId),
    ("entity_type", .str d.entityType), ("source_record_id", .str d.sourceRecordId),
    ("source_locale", .str d.sourceLocale), ("target_locale", .str d.targetLocale),
    ("target_record_id", .ofOption .str d.targetRecordId),
    ("assignee_id", .ofOption .str d.assigneeId), ("priority", .str d.priority.text),
    ("due_date", .ofOption Instant.toJson d.dueDate), ("actor_id", .str d.actorId)]

def assignment (d : Draft) (actor : String) (now : Instant) (fresh : String) : Assignment :=
  let assignee := d.assigneeId.bind Text.nonBlank
  { id := (d.id.bind Text.nonBlank).getD fresh
    groupId := Text.trim d.groupId
    entityType := Text.key d.entityType
    sourceRecordId := Text.trim d.sourceRecordId
    sourceLocale := Text.key d.sourceLocale
    targetLocale := Text.key d.targetLocale
    targetRecordId := d.targetRecordId.bind Text.nonBlank
    pool := if assignee.isSome then .assigned else .openPool
    status := if assignee.isSome then .assigned else .pending
    priority := d.priority
    assigneeId := assignee
    assignerId := if assignee.isSome then Text.nonBlank actor else none
    reviewerId := none
    rejectionReason := none
    dueDate := d.dueDate
    version := 1
    lastKey := none
    lastOperation := none
    createdAt := now
    updatedAt := now
    claimedAt := none
    submittedAt := none
    reviewedAt := none
    publishedAt := none
    archivedAt := none }

end Draft

structure Action where
  id : String
  expectedVersion : Nat
  /-- Blank for the actor of the request. -/
  actorId : String
  assigneeId : Option String
  reason : Option String
  /-- A key that was already applied answers the stored assignment. -/
  key : Option String
  deriving DecidableEq, Repr

namespace Action

def decode : Decoder Action := Reader.decoder do
  let id ← Reader.required "id" Decode.string
  let expectedVersion ← Reader.required "expected_version" Decode.word
  let actorId ← Reader.defaulted "actor_id" "" Decode.string
  let assigneeId ← Reader.optional "assignee_id" Decode.string
  let reason ← Reader.optional "reason" Decode.string
  let key ← Reader.optional "idempotency_key" Decode.string
  pure ⟨id, expectedVersion, actorId, assigneeId, reason, key⟩

def toJson (a : Action) : Json :=
  .ofFields [("id", .str a.id), ("expected_version", .ofNat a.expectedVersion),
    ("actor_id", .str a.actorId), ("assignee_id", .ofOption .str a.assigneeId),
    ("reason", .ofOption .str a.reason), ("idempotency_key", .ofOption .str a.key)]

def validate (a : Action) : Except Fault Unit := do
  if Text.blank a.id then .error (.invalid "id" "assignment id is required")
  if a.expectedVersion == 0 then .error (.invalid "expected_version" "expected_version is required")
  if Text.blank a.actorId then .error (.invalid "actor_id" "an actor is required")

end Action

structure Target where
  id : String
  expectedVersion : Nat
  deriving DecidableEq, Repr

namespace Target

def decode : Decoder Target := Reader.decoder do
  let id ← Reader.required "id" Decode.string
  let expectedVersion ← Reader.required "expected_version" Decode.word
  pure ⟨id, expectedVersion⟩

def toJson (t : Target) : Json :=
  .ofFields [("id", .str t.id), ("expected_version", .ofNat t.expectedVersion)]

end Target

structure BulkAction where
  items : List Target
  actorId : String
  assigneeId : Option String
  reason : Option String
  deriving DecidableEq, Repr

namespace BulkAction

def decode : Decoder BulkAction := Reader.decoder do
  let items ← Reader.required "items" (Decode.list Target.decode)
  let actorId ← Reader.defaulted "actor_id" "" Decode.string
  let assigneeId ← Reader.optional "assignee_id" Decode.string
  let reason ← Reader.optional "reason" Decode.string
  pure ⟨items, actorId, assigneeId, reason⟩

def toJson (b : BulkAction) : Json :=
  .ofFields [("items", .arr (b.items.map (·.toJson))), ("actor_id", .str b.actorId),
    ("assignee_id", .ofOption .str b.assigneeId), ("reason", .ofOption .str b.reason)]

def actions (b : BulkAction) : List Action :=
  b.items.map fun t => ⟨t.id, t.expectedVersion, b.actorId, b.assigneeId, b.reason, none⟩

end BulkAction

structure Outcome where
  id : String
  result : Except Fault Assignment

namespace Outcome

def succeeded (o : Outcome) : Bool :=
  match o.result with
  | .ok _ => true
  | .error _ => false

def toJson (o : Outcome) : Json :=
  match o.result with
  | .ok a => .ofFields [("id", .str o.id), ("assignment", a.toJson)]
  | .error f => .ofFields [("id", .str o.id), ("error", .ofFields [("text_code", .str f.code),
      ("category", .str f.category.text), ("message", .str f.message)])]

end Outcome

structure Filter where
  status : Option Status
  assigneeId : Option String
  targetLocale : Option String
  groupId : Option String
  entityType : Option String
  deriving DecidableEq, Repr

namespace Filter

def all : Filter := ⟨none, none, none, none, none⟩

def decode : Decoder Filter := Reader.decoder do
  let status ← Reader.optional "status" Status.decode
  let assigneeId ← Reader.optional "assignee_id" Decode.string
  let targetLocale ← Reader.optional "target_locale" Decode.string
  let groupId ← Reader.optional "translation_group_id" Decode.string
  let entityType ← Reader.optional "entity_type" Decode.string
  pure ⟨status, assigneeId, targetLocale, groupId, entityType⟩

def toJson (f : Filter) : Json :=
  .ofFields [("status", .ofOption (fun s => .str s.text) f.status),
    ("assignee_id", .ofOption .str f.assigneeId), ("target_locale", .ofOption .str f.targetLocale),
    ("translation_group_id", .ofOption .str f.groupId),
    ("entity_type", .ofOption .str f.entityType)]

/-- Locale and entity type are compared without regard to ASCII case. -/
def accepts (f : Filter) (a : Assignment) : Bool :=
  f.status.all (· == a.status) && (f.assigneeId.all fun id => a.assigneeId == some id) &&
    f.targetLocale.all (Text.sameIgnoringCase a.targetLocale) && f.groupId.all (· == a.groupId) &&
    f.entityType.all (Text.sameIgnoringCase a.entityType)

end Filter

end Assignment

end Backoffice
