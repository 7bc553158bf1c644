import Backoffice.Call
import Backoffice.Workflow.Engine
import Backoffice.Workflow.Store

/-!
Managing workflows and bindings over a store, with an engine that follows the store.

Once the engine is bound, every write of an active workflow is handed on to it. Updates read the
stored row, build the next one from it and replace it under the version the caller expects.
-/

namespace Backoffice.Workflow

structure Runtime where
  store : Store
  engine : Engine
  bound : Bool

namespace Runtime

def empty : Runtime := ⟨.empty, .empty, false⟩

def onStore {α : Type} (f : Store → Except Fault (α × Store)) : Call Runtime α :=
  Call.atomic fun r => do
    let (a, store) ← f r.store
    .ok (a, { r with store })

/-- Hands an active workflow on to the engine, if it is bound. -/
def follow (w : Workflow) : Call Runtime Unit :=
  Call.update fun r =>
    if w.isActive && r.bound then do
      .ok { r with engine := ← r.engine.register w.id w.definition }
    else .ok r

def createWorkflow (ctx : Context) (d : Draft) : Call Runtime Workflow := do
  let w := d.workflow (← Call.now) (← Call.fresh)
  Call.ofExcept w.validate
  let stored ← onStore fun s => s.insertWorkflow ctx w
  follow stored
  pure stored

def updateWorkflow (ctx : Context) (id : String) (u : Update) (expected : Nat) :
    Call Runtime Workflow := do
  Call.ofExcept (Version.requireExpected expected)
  let current ← Call.asks fun r => r.store.getWorkflow ctx (Text.key id)
  let w := u.applyTo (← Call.now) current
  Call.ofExcept w.validate
  let stored ← onStore fun s => s.replaceWorkflow ctx w expected
  follow stored
  pure stored

def rollbackWorkflow (ctx : Context) (id : String) (target expected : Nat) : Call Runtime Workflow := do
  Call.ofExcept (Version.requireExpected expected)
  let key := Text.key id
  let _ ← Call.asks fun r => r.store.getWorkflow ctx key
  let revision ← Call.asks fun r =>
    match r.store.getRevision ctx key target with
    | .ok revision => .ok revision
    | .error f => .error (if f.isNotFound then .noRevision key target else f)
  updateWorkflow ctx key (.ofRevision revision) expected

def getWorkflow (ctx : Context) (id : String) : Call Runtime Workflow :=
  Call.asks fun r => r.store.getWorkflow ctx (Text.key id)

def getRevision (ctx : Context) (id : String) (version : Nat) : Call Runtime Revision :=
  Call.asks fun r => r.store.getRevision ctx (Text.key id) version

def listWorkflows (ctx : Context) (f : Filter) : Call Runtime (List Workflow) :=
  Call.asks fun r => r.store.listWorkflows ctx f

def listRevisions (ctx : Context) (id : String) : Call Runtime (List Revision) :=
  Call.asks fun r => r.store.listRevisions ctx (Text.key id)

def createBinding (ctx : Context) (d : Binding.Draft) : Call Runtime Binding := do
  let b := d.binding (← Call.now) (← Call.fresh)
  Call.ofExcept b.validate
  onStore fun s => s.insertBinding ctx b

def updateBinding (ctx : Context) (id : String) (u : Binding.Update) (expected : Nat) :
    Call Runtime Binding := do
  Call.ofExcept (Version.requireExpected expected)
  let current ← Call.asks fun r => r.store.getBinding ctx (Text.trim id)
  let b := u.applyTo (← Call.now) current
  Call.ofExcept b.validate
  onStore fun s => s.replaceBinding ctx b expected

def deleteBinding (ctx : Context) (id : String) : Call Runtime Unit :=
  onStore fun s => do .ok ((), ← s.deleteBinding ctx (Text.trim id))

def getBinding (ctx : Context) (id : String) : Call Runtime Binding :=
  Call.asks fun r => r.store.getBinding ctx (Text.trim id)

def listBindings (ctx : Context) (f : Binding.Filter) : Call Runtime (List Binding) :=
  Call.asks fun r => r.store.listBindings ctx f

def resolve (r : Runtime) (ctx : Context) (q : Binding.Query) : Except Fault (Option Binding) := do
  .ok (Binding.resolve (← r.store.listBindings ctx { Binding.Filter.all with active := some true }) q)

/-- Hands every active workflow to the engine, and all later writes; answers their number. -/
def bindEngine (ctx : Context) : Call Runtime Nat := do
  let active ← Call.asks fun r => r.store.listWorkflows ctx { Filter.all with status := some .active }
  active.forM fun w => Call.update fun r => do
    .ok { r with engine := ← r.engine.register w.id w.definition }
  Call.change fun r => { r with bound := true }
  pure active.length

end Runtime

end Backoffice.Workflow
