import Backoffice.Http.Inbound

namespace Backoffice.Http

open Workflow (Runtime Binding)

def guardWorkflows (ctx : Context) (g : Guard) : Call Office Unit := do
  requireFeature ctx Feature.workflows
  requirePermission ctx g "workflows"

def listWorkflows : Handler := fun i => do
  let ctx ← i.context
  let filter ← i.fields ["status", "environment"] Workflow.Filter.decode
  guardWorkflows ctx .workflowsView
  let ws ← Office.onRuntime (Runtime.listWorkflows ctx filter)
  pure (.ok (.arr (ws.map (·.toJson))))

def createWorkflow : Handler := fun i => do
  let ctx ← i.context
  let draft ← i.body .workflowDraft
  guardWorkflows ctx .workflowsEdit
  let w ← Office.onRuntime (Runtime.createWorkflow ctx draft)
  pure (.created w.toJson)

def getWorkflow : Handler := fun i => do
  let ctx ← i.context
  let id ← i.param
  guardWorkflows ctx .workflowsView
  let w ← Office.onRuntime (Runtime.getWorkflow ctx id)
  pure (.ok w.toJson)

def requireVersion (expected : Option Nat) : Call Office Nat :=
  match expected with
  | some v => pure v
  | none => throw (.invalid "expected_version" "expected_version is required")

def updateWorkflow : Handler := fun i => do
  let ctx ← i.context
  let id ← i.param
  let (expected, target, update) ← i.body .workflowUpdate
  guardWorkflows ctx .workflowsEdit
  let expected ← requireVersion expected
  let w ← Office.onRuntime (match target with
    | some target => Runtime.rollbackWorkflow ctx id target expected
    | none => Runtime.updateWorkflow ctx id update expected)
  pure (.ok w.toJson)

def listRevisions : Handler := fun i => do
  let ctx ← i.context
  let id ← i.param
  guardWorkflows ctx .workflowsView
  let rs ← Office.onRuntime (Runtime.listRevisions ctx id)
  pure (.ok (.arr (rs.map (·.toJson))))

def getRevision : Handler := fun i => do
  let ctx ← i.context
  let (id, version) ← i.params2
  match number? 64 version with
  | none => throw (Inbound.pathFault "the version is no number")
  | some version =>
    guardWorkflows ctx .workflowsView
    let r ← Office.onRuntime (Runtime.getRevision ctx id version)
    pure (.ok r.toJson)

def listBindings : Handler := fun i => do
  let ctx ← i.context
  let filter ← i.fields ["scope_type", "scope_ref", "status", "environment"] Binding.Filter.decode
  guardWorkflows ctx .workflowsView
  let bs ← Office.onRuntime (Runtime.listBindings ctx filter)
  pure (.ok (.arr (bs.map (·.toJson))))

def createBinding : Handler := fun i => do
  let ctx ← i.context
  let draft ← i.body .bindingDraft
  guardWorkflows ctx .workflowsEdit
  let b ← Office.onRuntime (Runtime.createBinding ctx draft)
  pure (.created b.toJson)

def getBinding : Handler := fun i => do
  let ctx ← i.context
  let id ← i.param
  guardWorkflows ctx .workflowsView
  let b ← Office.onRuntime (Runtime.getBinding ctx id)
  pure (.ok b.toJson)

def updateBinding : Handler := fun i => do
  let ctx ← i.context
  let id ← i.param
  let (expected, update) ← i.body .bindingUpdate
  guardWorkflows ctx .workflowsEdit
  let expected ← requireVersion expected
  let b ← Office.onRuntime (Runtime.updateBinding ctx id update expected)
  pure (.ok b.toJson)

def deleteBinding : Handler := fun i => do
  let ctx ← i.context
  let id ← i.param
  guardWorkflows ctx .workflowsEdit
  Office.onRuntime (Runtime.deleteBinding ctx id)
  pure .noContent

def resolveBinding : Handler := fun i => do
  let ctx ← i.context
  let (contentType, traits, environment) ←
    i.fields ["content_type", "traits", "environment"] (Reader.decoder do
      let contentType ← Reader.defaulted "content_type" "" Decode.string
      let traits ← Reader.defaulted "traits" "" Decode.string
      let environment ← Reader.optional "environment" Decode.string
      pure (contentType, traits, environment))
  guardWorkflows ctx .workflowsView
  let query : Binding.Query :=
    ⟨contentType, ((Text.splitAt ',' traits).map Text.trim).filter (· != ""),
      environment.getD ctx.environment⟩
  let b ← Call.asks fun o => o.services.runtime.resolve ctx query
  pure (.ok (.ofFields [("binding", .ofOption Binding.resolvedJson b)]))

end Backoffice.Http
