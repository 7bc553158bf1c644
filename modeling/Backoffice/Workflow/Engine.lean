import Backoffice.Context
import Backoffice.Supply
import Backoffice.Workflow.Definition

namespace Backoffice.Workflow

structure TransitionRequest where
  entityId : String
  entityType : String
  currentState : String
  transition : String
  actorId : String
  metadata : Record

namespace TransitionRequest

def decode : Decoder TransitionRequest := Reader.decoder do
  let entityId ← Reader.required "entity_id" Decode.string
  let entityType ← Reader.required "entity_type" Decode.string
  let currentState ← Reader.required "current_state" Decode.string
  let transition ← Reader.required "transition" Decode.string
  let actorId ← Reader.defaulted "actor_id" "" Decode.string
  let metadata ← Reader.defaulted "metadata" [] Decode.record
  pure ⟨entityId, entityType, currentState, transition, actorId, metadata⟩

end TransitionRequest

structure TransitionResult where
  fromState : String
  toState : String
  completedAt : Instant
  actorId : String
  metadata : Record

namespace TransitionResult

def toJson (r : TransitionResult) : Json :=
  .ofFields [("from_state", .str r.fromState), ("to_state", .str r.toState),
    ("completed_at", r.completedAt.toJson), ("actor_id", .str r.actorId), ("metadata", .obj r.metadata)]

end TransitionResult

structure Engine where
  definitions : Dict Definition

namespace Engine

def empty : Engine := ⟨.empty⟩

def definition? (e : Engine) (entityType : String) : Option Definition :=
  e.definitions.get? (Text.key entityType)

def has (e : Engine) (entityType : String) : Bool := (e.definition? entityType).isSome

def count (e : Engine) : Nat := e.definitions.entries.length

def register (e : Engine) (entityType : String) (d : Definition) : Except Fault Engine := do
  if Text.key entityType == "" then .error (.invalid "entity_type" "entity type is required")
  d.trimmed.validate
  .ok ⟨e.definitions.set (Text.key entityType) d.trimmed⟩

def unregister (e : Engine) (entityType : String) : Option Definition × Engine :=
  (e.definition? entityType, ⟨e.definitions.erase (Text.key entityType)⟩)

def require (e : Engine) (entityType : String) : Except Fault Definition :=
  match e.definition? entityType with
  | some d => .ok d
  | none => .error (.noWorkflow entityType)

def fire (e : Engine) (ctx : Context) (r : TransitionRequest) : Except Fault (String × String) := do
  ctx.ensureActive
  let d ← e.require r.entityType
  let state := d.stateOf r.currentState
  match d.find? state r.transition with
  | some t => .ok (state, t.target)
  | none => .error (.invalidTransition r.entityType state r.transition)

def transition (e : Engine) (ctx : Context) (r : TransitionRequest) (supply : Supply) :
    Except Fault (TransitionResult × Supply) := do
  let (fromState, toState) ← e.fire ctx r
  let (now, supply) := supply.now
  .ok (⟨fromState, toState, now, r.actorId, r.metadata⟩, supply)

def available (e : Engine) (ctx : Context) (entityType state : String) :
    Except Fault (List Transition) := do
  ctx.ensureActive
  let d ← e.require entityType
  .ok (d.leaving (d.stateOf state))

end Engine

end Backoffice.Workflow
