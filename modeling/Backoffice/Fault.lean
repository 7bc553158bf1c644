import Backoffice.Json.Basic

namespace Backoffice

inductive Category where
  | validation
  | notFound
  | conflict
  | forbidden
  | unauthenticated
  | featureDisabled
  | notConfigured
  | rateLimited
  | internal
  deriving DecidableEq, Repr, Inhabited

namespace Category

def all : List Category :=
  [validation, notFound, conflict, forbidden, unauthenticated, featureDisabled, notConfigured,
    rateLimited, internal]

def text : Category → String
  | validation => "validation"
  | notFound => "not-found"
  | conflict => "conflict"
  | forbidden => "forbidden"
  | unauthenticated => "unauthenticated"
  | featureDisabled => "feature-disabled"
  | notConfigured => "service-not-configured"
  | rateLimited => "rate-limited"
  | internal => "internal"

/-- A disabled feature is answered like a missing one. -/
def status : Category → Nat
  | validation => 400
  | notFound => 404
  | conflict => 409
  | forbidden => 403
  | unauthenticated => 401
  | featureDisabled => 404
  | notConfigured => 503
  | rateLimited => 429
  | internal => 500

def confidential : Category → Bool
  | forbidden | unauthenticated => true
  | _ => false

end Category

structure LocaleBlock where
  entityType : String
  entityId : String
  transition : String
  environment : String
  requestedLocale : String
  missing : List String
  deriving DecidableEq, Repr

inductive Fault where
  | invalid (field constraint : String)
  | notFound (resource id : String)
  | alreadyExists (resource id : String)
  | conflict (message : String)
  | staleWorkflow (id : String) (expected actual : Nat)
  | staleBinding (id : String) (expected actual : Nat)
  | bindingTaken (id scopeType scopeRef : String) (environment : Option String) (priority : Nat)
  | staleAssignment (id : String) (expected actual : Nat)
  | assignmentTaken (id work : String)
  | noRevision (workflow : String) (version : Nat)
  | noWorkflow (entityType : String)
  | invalidTransition (entityType fromState transition : String)
  | missingLocales (block : LocaleBlock)
  | forbidden (action resource : String)
  | unauthenticated
  | featureDisabled (feature : String) (reason : Option String)
  | featureRenamed (removed replacement hint : String)
  | notConfigured (service : String)
  | unsupported (resource operation : String)
  | rateLimited (message : String)
  | cancelled
  | internal (message : String)
  | inCommand (command : String) (cause : Fault)
  deriving DecidableEq, Repr, Inhabited

namespace Fault

def root : Fault → Fault
  | inCommand _ cause => cause.root
  | f => f

def category : Fault → Category
  | invalid .. => .validation
  | notFound .. | noWorkflow _ | noRevision .. => .notFound
  | alreadyExists .. | conflict _ | staleWorkflow .. | staleBinding .. | bindingTaken ..
  | staleAssignment .. | assignmentTaken .. | invalidTransition .. | missingLocales _ => .conflict
  | forbidden .. => .forbidden
  | unauthenticated => .unauthenticated
  | featureDisabled .. => .featureDisabled
  | featureRenamed .. => .validation
  | notConfigured _ | unsupported .. => .notConfigured
  | rateLimited _ => .rateLimited
  | cancelled | internal _ => .internal
  | inCommand _ cause => cause.category

def code : Fault → String
  | invalid .. => "VALIDATION_ERROR"
  | notFound .. => "NOT_FOUND"
  | alreadyExists .. => "ALREADY_EXISTS"
  | conflict _ => "CONFLICT"
  | staleWorkflow .. => "WORKFLOW_VERSION_CONFLICT"
  | staleBinding .. => "BINDING_VERSION_CONFLICT"
  | bindingTaken .. => "BINDING_CONFLICT"
  | staleAssignment .. => "ASSIGNMENT_VERSION_CONFLICT"
  | assignmentTaken .. => "ASSIGNMENT_ACTIVE_CONFLICT"
  | noRevision .. => "ROLLBACK_VERSION_NOT_FOUND"
  | noWorkflow _ => "WORKFLOW_NOT_FOUND"
  | invalidTransition .. => "WORKFLOW_INVALID_TRANSITION"
  | missingLocales _ => "TRANSLATION_MISSING"
  | forbidden .. => "FORBIDDEN"
  | unauthenticated => "UNAUTHENTICATED"
  | featureDisabled .. => "FEATURE_DISABLED"
  | featureRenamed .. => "FEATURE_ALIAS_DISABLED"
  | notConfigured _ => "SERVICE_NOT_CONFIGURED"
  | unsupported .. => "UNSUPPORTED_OPERATION"
  | rateLimited _ => "RATE_LIMITED"
  | cancelled => "CANCELLED"
  | internal _ => "INTERNAL_ERROR"
  | inCommand _ cause => cause.code

def status (f : Fault) : Nat := f.category.status

def staleText (kind id : String) (expected actual : Nat) : String :=
  kind ++ " " ++ id ++ " version conflict: expected " ++ toString expected ++ ", actual " ++
    toString actual

def message : Fault → String
  | invalid field constraint => "validation failed for " ++ field ++ ": " ++ constraint
  | notFound resource id => resource ++ " not found: " ++ id
  | alreadyExists resource id => resource ++ " already exists: " ++ id
  | conflict message => "conflict: " ++ message
  | staleWorkflow id expected actual => staleText "workflow" id expected actual
  | staleBinding id expected actual => staleText "binding" id expected actual
  | bindingTaken id scopeType scopeRef _ priority =>
    "active binding " ++ id ++ " already covers " ++ scopeType ++ "/" ++ scopeRef ++ " at priority " ++
      toString priority
  | staleAssignment id expected actual => staleText "assignment" id expected actual
  | assignmentTaken id work => "active assignment " ++ id ++ " already covers " ++ work
  | noRevision workflow version => "workflow " ++ workflow ++ " has no revision " ++ toString version
  | noWorkflow entityType => "no workflow registered for " ++ entityType
  | invalidTransition entityType fromState transition =>
    "transition " ++ transition ++ " is not available from " ++ fromState ++ " for " ++ entityType
  | missingLocales b =>
    "transition " ++ b.transition ++ " on " ++ b.entityType ++ "/" ++ b.entityId ++
      " is blocked by missing translations: " ++ ", ".intercalate b.missing
  | forbidden action resource => "permission denied for " ++ action ++ " on " ++ resource
  | unauthenticated => "authentication required"
  | featureDisabled feature _ => "feature disabled: " ++ feature
  | featureRenamed removed replacement _ =>
    "feature key " ++ removed ++ " has been removed, use " ++ replacement
  | notConfigured service => service ++ " is not configured"
  | unsupported resource operation => resource ++ " does not support " ++ operation
  | rateLimited message => "rate limit exceeded: " ++ message
  | cancelled => "operation cancelled"
  | internal message => "internal error: " ++ message
  | inCommand command cause => "command " ++ command ++ " failed: " ++ cause.message

def staleData (name id : String) (expected actual : Nat) : Record :=
  Entries.ofList [(name, .str id), ("expected_version", .ofNat expected),
    ("actual_version", .ofNat actual)]

def texts (fields : List (String × String)) : Record :=
  Entries.ofList (fields.map fun (k, v) => (k, .str v))

/-- The data of a fault; forbidden and unauthenticated faults have none at any depth. -/
def data : Fault → Record
  | invalid field constraint => texts [("field", field), ("constraint", constraint)]
  | notFound resource id | alreadyExists resource id => texts [("resource", resource), ("id", id)]
  | staleWorkflow id expected actual => staleData "workflow_id" id expected actual
  | staleBinding id expected actual => staleData "binding_id" id expected actual
  | bindingTaken id scopeType scopeRef environment priority =>
    Entries.set "priority" (.ofNat priority) (texts [("existing_binding_id", id),
      ("scope_type", scopeType), ("scope_ref", scopeRef), ("environment", environment.getD "")])
  | staleAssignment id expected actual => staleData "assignment_id" id expected actual
  | assignmentTaken id work => texts [("existing_assignment_id", id), ("uniqueness_key", work)]
  | noRevision workflow version =>
    Entries.set "version" (.ofNat version) (texts [("workflow_id", workflow)])
  | noWorkflow entityType => texts [("entity_type", entityType)]
  | invalidTransition entityType fromState transition =>
    texts [("entity_type", entityType), ("from_state", fromState), ("transition", transition)]
  | missingLocales b =>
    Entries.set "missing_locales" (.ofStrings b.missing) (texts [("entity_type", b.entityType),
      ("entity_id", b.entityId), ("transition", b.transition), ("environment", b.environment),
      ("requested_locale", b.requestedLocale)])
  | featureDisabled feature reason =>
    texts (("feature", feature) :: reason.toList.map fun r => ("reason", r))
  | featureRenamed removed replacement hint =>
    texts [("alias", removed), ("replacement", replacement), ("hint", hint)]
  | notConfigured service => texts [("service", service)]
  | unsupported resource operation => texts [("resource", resource), ("operation", operation)]
  | conflict _ | forbidden .. | unauthenticated | rateLimited _ | cancelled | internal _ => []
  | inCommand command cause =>
    if cause.category.confidential then cause.data
    else Entries.set "command" (.str command) cause.data

def isNotFound (f : Fault) : Bool := f.root.category == .notFound

def isAlreadyExists (f : Fault) : Bool :=
  match f.root with
  | alreadyExists .. => true
  | _ => false

def chain : Fault → List String
  | inCommand command cause => (inCommand command cause).message :: cause.chain
  | f => [f.message]

def toJson (f : Fault) : Json :=
  .ofFields [("category", .str f.category.text), ("error", .str f.code), ("message", .str f.message),
    ("metadata", .obj f.data), ("status", .ofNat f.status)]

end Fault

end Backoffice
