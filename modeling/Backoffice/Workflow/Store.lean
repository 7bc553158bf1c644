import Backoffice.Context
import Backoffice.Version
import Backoffice.Workflow.Basic
import Backoffice.Workflow.Binding

namespace Backoffice.Workflow

/-- Puts a revision at its version: in place of the one that is there, else in order. -/
def Revision.enter (r : Revision) : List Revision → List Revision
  | [] => [r]
  | other :: rest =>
    if r.version < other.version then r :: other :: rest
    else if r.version = other.version then r :: rest
    else other :: r.enter rest

structure Store where
  workflows : Dict Workflow
  revisions : Dict (List Revision)
  bindings : Dict Binding

namespace Store

def empty : Store := ⟨.empty, .empty, .empty⟩

def write (s : Store) (w : Workflow) : Store :=
  { s with
    workflows := s.workflows.set w.id w
    revisions := s.revisions.set w.id (w.revision.enter ((s.revisions.get? w.id).getD [])) }

def getWorkflow (s : Store) (ctx : Context) (id : String) : Except Fault Workflow := do
  ctx.ensureActive
  match s.workflows.get? id with
  | some w => .ok w
  | none => .error (.notFound "workflow" id)

def insertWorkflow (s : Store) (ctx : Context) (w : Workflow) : Except Fault (Workflow × Store) := do
  ctx.ensureActive
  if s.workflows.contains w.id then .error (.alreadyExists "workflow" w.id)
  .ok (w, s.write w)

def replaceWorkflow (s : Store) (ctx : Context) (w : Workflow) (expected : Nat) :
    Except Fault (Workflow × Store) := do
  let current ← s.getWorkflow ctx w.id
  let version ← Version.next expected current.version
    (.staleWorkflow current.id expected current.version)
  let stored := { w with version, createdAt := current.createdAt }
  .ok (stored, s.write stored)

def listWorkflows (s : Store) (ctx : Context) (f : Filter) : Except Fault (List Workflow) := do
  ctx.ensureActive
  .ok (s.workflows.values.filter f.accepts)

def getRevision (s : Store) (ctx : Context) (id : String) (version : Nat) : Except Fault Revision := do
  ctx.ensureActive
  match ((s.revisions.get? id).getD []).find? (·.version == version) with
  | some r => .ok r
  | none => .error (.notFound "workflow revision" (id ++ "@" ++ toString version))

def listRevisions (s : Store) (ctx : Context) (id : String) : Except Fault (List Revision) := do
  let _ ← s.getWorkflow ctx id
  .ok ((s.revisions.get? id).getD [])

/-- A binding names a stored workflow, and an active binding an active one. -/
def checkReference (s : Store) (b : Binding) : Except Fault Unit :=
  match s.workflows.get? b.workflowId with
  | none => .error (.invalid "workflow_id" ("workflow " ++ b.workflowId ++ " does not exist"))
  | some w =>
    if b.active && !w.isActive then
      .error (.invalid "workflow_id" ("workflow " ++ w.id ++ " is " ++ w.status.text ++
        "; active bindings require an active workflow"))
    else .ok ()

def checkUnique (s : Store) (b : Binding) : Except Fault Unit :=
  match s.bindings.values.find? (·.collides b) with
  | some other => .error other.taken
  | none => .ok ()

def getBinding (s : Store) (ctx : Context) (id : String) : Except Fault Binding := do
  ctx.ensureActive
  match s.bindings.get? id with
  | some b => .ok b
  | none => .error (.notFound "workflow binding" id)

def writeBinding (s : Store) (b : Binding) : Except Fault (Binding × Store) := do
  s.checkReference b
  s.checkUnique b
  .ok (b, { s with bindings := s.bindings.set b.id b })

def insertBinding (s : Store) (ctx : Context) (b : Binding) : Except Fault (Binding × Store) := do
  ctx.ensureActive
  if s.bindings.contains b.id then .error (.alreadyExists "workflow binding" b.id)
  s.writeBinding b

def replaceBinding (s : Store) (ctx : Context) (b : Binding) (expected : Nat) :
    Except Fault (Binding × Store) := do
  let current ← s.getBinding ctx b.id
  let version ← Version.next expected current.version
    (.staleBinding current.id expected current.version)
  s.writeBinding { b with version, createdAt := current.createdAt }

def deleteBinding (s : Store) (ctx : Context) (id : String) : Except Fault Store := do
  let _ ← s.getBinding ctx id
  .ok { s with bindings := s.bindings.erase id }

def listBindings (s : Store) (ctx : Context) (f : Binding.Filter) : Except Fault (List Binding) := do
  ctx.ensureActive
  .ok ((s.bindings.values.filter f.accepts).mergeSort fun a b => (Binding.listingOrder a b).isLE)

end Store

end Backoffice.Workflow
