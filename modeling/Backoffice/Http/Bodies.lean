import Backoffice.Assignment.Basic
import Backoffice.Dashboard
import Backoffice.Feature.Scope
import Backoffice.Json.Scan
import Backoffice.Workflow.Basic
import Backoffice.Workflow.Binding

namespace Backoffice.Http

structure BodyType (α : Type) where
  shape : Shape
  decode : Decoder α

def BodyType.read {α : Type} (b : BodyType α) (text : String) : Scanned α := do
  Scan.fitting (b.decode (← b.shape.read text))

namespace BodyType

def choice {α : Type} (names : List (String × α)) : Shape := .choice (names.map (·.1))

def record : BodyType Record := ⟨.record, Decode.record⟩

def transition : Shape := .struct <|
  .required "name" .text <| .required "from" .text <| .required "to" .text <|
  .defaulted "description" .text .done

def definition : Shape := .struct <|
  .required "initial_state" .text <| .required "transitions" (.list transition) .done

def workflowDraft : BodyType Workflow.Draft where
  shape := .struct <|
    .optional "id" .text <| .required "name" .text <|
    .optional "status" (choice Workflow.Status.names) <| .optional "environment" .text <|
    .required "definition" definition .done
  decode := Workflow.Draft.decode

def workflowUpdate : BodyType (Option Nat × Option Nat × Workflow.Update) where
  shape := .merged
    (.optional "expected_version" .word <| .optional "rollback_to_version" .word .done)
    (.optional "name" .text <| .optional "status" (choice Workflow.Status.names) <|
      .optional "environment" .text <| .optional "definition" definition .done)
  decode := Reader.decoder do
    let expected ← Reader.optional "expected_version" Decode.word
    let target ← Reader.optional "rollback_to_version" Decode.word
    let update ← Workflow.Update.reader
    pure (expected, target, update)

def bindingDraft : BodyType Workflow.Binding.Draft where
  shape := .struct <|
    .optional "id" .text <| .required "scope_type" (choice Workflow.ScopeType.names) <|
    .optional "scope_ref" .text <| .required "workflow_id" .text <|
    .defaulted "priority" .halfWord <|
    .defaulted "status" (choice Workflow.Binding.statusNames) <|
    .optional "environment" .text .done
  decode := Workflow.Binding.Draft.decode

def bindingUpdate : BodyType (Option Nat × Workflow.Binding.Update) where
  shape := .merged (.optional "expected_version" .word .done)
    (.optional "scope_type" (choice Workflow.ScopeType.names) <| .optional "scope_ref" .text <|
      .optional "workflow_id" .text <| .optional "priority" .halfWord <|
      .optional "status" (choice Workflow.Binding.statusNames) <|
      .optional "environment" .text .done)
  decode := Reader.decoder do
    let expected ← Reader.optional "expected_version" Decode.word
    let update ← Workflow.Binding.Update.reader
    pure (expected, update)

def assignmentDraft : BodyType Assignment.Draft where
  shape := .struct <|
    .optional "id" .text <| .required "translation_group_id" .text <|
    .required "entity_type" .text <| .required "source_record_id" .text <|
    .required "source_locale" .text <| .required "target_locale" .text <|
    .optional "target_record_id" .text <| .optional "assignee_id" .text <|
    .defaulted "priority" (choice Assignment.Priority.names) <|
    .optional "due_date" .instant <| .defaulted "actor_id" .text .done
  decode := Assignment.Draft.decode

def assignmentAction (id : String) : BodyType Assignment.Action where
  shape := .struct <|
    .defaulted "expected_version" .word <| .optional "assignee_id" .text <|
    .optional "reason" .text <| .optional "idempotency_key" .text .done
  decode := Reader.decoder do
    let expectedVersion ← Reader.defaulted "expected_version" 0 Decode.word
    let assigneeId ← Reader.optional "assignee_id" Decode.string
    let reason ← Reader.optional "reason" Decode.string
    let key ← Reader.optional "idempotency_key" Decode.string
    pure { id, expectedVersion, actorId := "", assigneeId, reason, key }

def bulkTarget : Shape := .struct <|
  .required "id" .text <| .required "expected_version" .word .done

def bulkAction : BodyType Assignment.BulkAction where
  shape := .struct <|
    .required "items" (.list bulkTarget) <| .defaulted "actor_id" .text <|
    .optional "assignee_id" .text <| .optional "reason" .text .done
  decode := Assignment.BulkAction.decode

def preferences : BodyType Dashboard.Preferences where
  shape := .struct <|
    .defaulted "layout" (.list .text) <| .defaulted "hidden" (.list .text) <|
    .optional "updated_at" .instant .done
  decode := Dashboard.Preferences.decode

def actionRequest : BodyType Panel.ActionRequest where
  shape := .struct <|
    .defaulted "ids" (.list .text) <| .defaulted "payload" .record .done
  decode := Panel.ActionRequest.decode

end BodyType

end Backoffice.Http
