import Backoffice.Assignment.Store
import Backoffice.Call

/-!
The lifecycle of assignments.

An operation is carried out in two steps on the store: the row is read, checked and changed locally
(`prepare`), and then written under the version the caller expects. `execute` is one after the
other.
-/

namespace Backoffice.Assignment

inductive Operation where
  | claim
  | assign
  | release
  | submitReview
  | approve
  | reject
  | publish
  | archive
  deriving DecidableEq, Repr, Inhabited

namespace Operation

def all : List Operation :=
  [claim, assign, release, submitReview, approve, reject, publish, archive]

def text : Operation → String
  | claim => "claim"
  | assign => "assign"
  | release => "release"
  | submitReview => "submit_review"
  | approve => "approve"
  | reject => "reject"
  | publish => "publish"
  | archive => "archive"

def parse? (s : String) : Option Operation :=
  all.find? (·.text == Text.replaceChar '-' '_' (Text.key s))

def notAvailable (op : Operation) (status : Status) : Fault :=
  .invalidTransition "translation_assignment" status.text op.text

def notYours (op : Operation) (a : Assignment) : Fault :=
  .forbidden op.text ("translation assignment " ++ a.id)

def taken (a : Assignment) (now : Instant) : Assignment :=
  { a with status := .inProgress, claimedAt := some now }

def apply (op : Operation) (a : Assignment) (action : Action) (now : Instant) :
    Except Fault Assignment :=
  let actor := action.actorId
  let isAssignee := a.assigneeId == some actor
  match op, a.status with
  | claim, .pending =>
    if a.pool == .openPool then
      .ok (taken { a with assigneeId := some actor, pool := .assigned } now)
    else .error (claim.notAvailable .pending)
  | claim, .assigned | claim, .rejected =>
    if isAssignee then .ok (taken a now) else .error (claim.notYours a)
  | assign, .pending | assign, .assigned | assign, .rejected =>
    match action.assigneeId.bind Text.nonBlank with
    | none => .error (.invalid "assignee_id" "assign needs an assignee")
    | some assignee => .ok { a with
        assigneeId := some assignee, assignerId := some actor, pool := .assigned, status := .assigned }
  | release, .assigned | release, .inProgress =>
    .ok { a with assigneeId := none, pool := .openPool, status := .pending, claimedAt := none }
  | submitReview, .inProgress =>
    if isAssignee then .ok { a with status := .review, submittedAt := some now }
    else .error (submitReview.notYours a)
  | approve, .review =>
    .ok { a with
      status := .approved, reviewerId := some actor, reviewedAt := some now, rejectionReason := none }
  | reject, .review =>
    .ok { a with
      status := .rejected, reviewerId := some actor, reviewedAt := some now,
      rejectionReason := action.reason.bind Text.nonBlank }
  | publish, .approved => .ok { a with status := .published, publishedAt := some now }
  | archive, status =>
    if status.isTerminal then .error (archive.notAvailable status)
    else .ok { a with status := .archived, archivedAt := some now }
  | op, status => .error (op.notAvailable status)

end Operation

namespace Queue

def actor (ctx : Context) (named : String) : String :=
  if Text.blank named then ctx.userId else Text.trim named

def letIn (ctx : Context) (action : Action) : Except Fault Action := do
  ctx.ensureActive
  let action := { action with actorId := actor ctx action.actorId }
  action.validate
  .ok action

inductive Plan where
  | replay (row : Assignment)
  | write (row : Assignment)

/-- Checks an action that was let in against the row read, and applies it. -/
def prepare (op : Operation) (action : Action) (current : Assignment) (now : Instant) :
    Except Fault Plan :=
  if action.key.isSome && action.key == current.lastKey then
    if current.lastOperation == some op.text then .ok (.replay current)
    else .error (.invalid "idempotency_key"
      ("idempotency key " ++ action.key.getD "" ++ " was already used for another operation"))
  else if current.version != action.expectedVersion then
    .error (.staleAssignment current.id action.expectedVersion current.version)
  else do
    let next ← op.apply current action now
    .ok (.write { next with
      updatedAt := now, lastKey := action.key, lastOperation := action.key.map fun _ => op.text })

def create (ctx : Context) (d : Draft) : Call Store Assignment := do
  let a := d.assignment (actor ctx d.actorId) (← Call.now) (← Call.fresh)
  Call.ofExcept a.validate
  Call.atomic fun s => s.insert ctx a

def get (ctx : Context) (id : String) : Call Store Assignment :=
  Call.asks fun s => s.get ctx id

def list (ctx : Context) (f : Filter) : Call Store (List Assignment) :=
  Call.asks fun s => s.list ctx f

def execute (ctx : Context) (op : Operation) (action : Action) : Call Store Assignment := do
  let action ← Call.ofExcept (letIn ctx action)
  let current ← Call.asks fun s => s.get ctx action.id
  match ← Call.ofExcept (prepare op action current (← Call.now)) with
  | .replay row => pure row
  | .write row => Call.atomic fun s => s.replace ctx row action.expectedVersion

/-- Carries out one operation on every target; failures are reported by target. -/
def executeBulk (ctx : Context) (op : Operation) (b : BulkAction) : Call Store (List Outcome) := do
  if b.items.isEmpty then throw (.invalid "items" "bulk operations need at least one item")
  b.actions.mapM fun action => do
    Call.ofExcept ctx.ensureActive
    pure ⟨action.id, ← Call.attempt (execute ctx op action)⟩

inductive Command where
  | create (d : Draft)
  | list (f : Filter)
  | single (op : Operation) (a : Action)
  | bulk (op : Operation) (b : BulkAction)

inductive Verb where
  | create
  | list
  | single (op : Operation)
  | bulk (op : Operation)
  deriving DecidableEq, Repr

namespace Verb

def all : List Verb :=
  [create, list] ++ Operation.all.flatMap fun op => [single op, bulk op]

def name : Verb → String
  | create => "translation.queue.create"
  | list => "translation.queue.list"
  | single op => "translation.queue." ++ op.text
  | bulk op => "translation.queue.bulk_" ++ op.text

def decode : Verb → Decoder Command
  | create => fun v => (Draft.decode v).map .create
  | list => fun v => (Filter.decode v).map .list
  | single op => fun v => (Action.decode v).map (.single op)
  | bulk op => fun v => (BulkAction.decode v).map (.bulk op)

end Verb

namespace Command

def verb : Command → Verb
  | create _ => .create
  | list _ => .list
  | single op _ => .single op
  | bulk op _ => .bulk op

def toJson : Command → Json
  | create d => d.toJson
  | list f => f.toJson
  | single _ a => a.toJson
  | bulk _ b => b.toJson

end Command

inductive Answer where
  | row (a : Assignment)
  | rows (as : List Assignment)
  | outcomes (os : List Outcome)

def Answer.toJson : Answer → Json
  | .row a => a.toJson
  | .rows as => .arr (as.map (·.toJson))
  | .outcomes os => .arr (os.map (·.toJson))

def run (ctx : Context) : Command → Call Store Answer
  | .create d => do pure (.row (← create ctx d))
  | .list f => do pure (.rows (← list ctx f))
  | .single op a => do pure (.row (← execute ctx op a))
  | .bulk op b => do pure (.outcomes (← executeBulk ctx op b))

end Queue

end Backoffice.Assignment
