import Backoffice.Http.Inbound

namespace Backoffice.Http

open Assignment (Operation)

def guardOf : Operation → Guard
  | .claim | .release | .submitReview => .assignmentsClaim
  | .assign => .assignmentsAssign
  | .approve | .reject => .assignmentsReview
  | .publish | .archive => .assignmentsManage

def guardAssignments (ctx : Context) (g : Guard) : Call Office Unit := do
  requireFeature ctx Feature.assignmentQueue
  requirePermission ctx g "translations"

def parseOperation (name : String) : Call Office Operation :=
  match Operation.parse? name with
  | some op => pure op
  | none => throw (.notFound "queue operation" name)

def listAssignments : Handler := fun i => do
  let ctx ← i.context
  let filter ← i.fields ["status", "assignee_id", "target_locale", "translation_group_id",
    "entity_type"] Assignment.Filter.decode
  guardAssignments ctx .assignmentsView
  let rows ← Office.onAssignments (Assignment.Queue.list ctx filter)
  pure (.ok (.arr (rows.map (·.toJson))))

/-- A draft with an assignee is an assignment, which has a guard of its own. -/
def createAssignment : Handler := fun i => do
  let ctx ← i.context
  let draft ← i.body .assignmentDraft
  guardAssignments ctx (if draft.assigneeId.isSome then .assignmentsAssign else .assignmentsManage)
  let row ← Office.onAssignments (Assignment.Queue.create ctx { draft with actorId := "" })
  pure (.created row.toJson)

def getAssignment : Handler := fun i => do
  let ctx ← i.context
  let id ← i.param
  guardAssignments ctx .assignmentsView
  let row ← Office.onAssignments (Assignment.Queue.get ctx id)
  pure (.ok row.toJson)

def runOperation : Handler := fun i => do
  let ctx ← i.context
  let (id, name) ← i.params2
  let action ← i.body (.assignmentAction id)
  let op ← parseOperation name
  guardAssignments ctx (guardOf op)
  let row ← Office.onAssignments (Assignment.Queue.execute ctx op action)
  pure (.ok row.toJson)

def runBulkOperation : Handler := fun i => do
  let ctx ← i.context
  let name ← i.param
  let bulk ← i.body .bulkAction
  let op ← parseOperation name
  guardAssignments ctx (guardOf op)
  let outcomes ← Office.onAssignments (Assignment.Queue.executeBulk ctx op { bulk with actorId := "" })
  let succeeded := (outcomes.filter (·.succeeded)).length
  pure (.ok (.ofFields [("operation", .str op.text), ("succeeded", .ofNat succeeded),
    ("failed", .ofNat (outcomes.length - succeeded)),
    ("results", .arr (outcomes.map (·.toJson)))]))

end Backoffice.Http
