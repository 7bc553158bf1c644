import Backoffice.Fault

namespace Backoffice

structure Presentation where
  status : Nat
  code : String
  category : Category
  message : String
  metadata : Record
  causes : Option (List String)

def Presentation.toJson (p : Presentation) : Json :=
  .ofFields ([("code", .ofNat p.status), ("text_code", .str p.code),
    ("category", .str p.category.text), ("message", .str p.message)] ++
    (if p.metadata.isEmpty then [] else [("metadata", .obj p.metadata)]) ++
    Json.optional "stack" .ofStrings p.causes)

structure RequestLine where
  method : String
  path : String
  deriving DecidableEq, Repr

inductive Failure where
  | fault (f : Fault)
  | malformed (text : String)
  | io (text : String)
  | service (f : Fault)

namespace Failure

def message : Failure → String
  | fault f => f.message
  | malformed text | io text => text
  | service f => "Admin error: " ++ f.message

def chain : Failure → List String
  | fault f => f.chain
  | malformed text | io text => [text]
  | service f => ("Admin error: " ++ f.message) :: f.chain

/-- The fault a failure counts as, unless a host says otherwise. -/
def classify : Failure → Fault
  | fault f => f
  | malformed text => .invalid "body" text
  | failure => .internal failure.message

end Failure

structure Presenter where
  development : Bool
  /-- Consulted first about failures, by their message. -/
  mapper : Option (String → Option Fault)

namespace Presenter

def new (development : Bool) : Presenter := ⟨development, none⟩

def safeMessage : Category → String
  | .validation => "the request is invalid"
  | .notFound => "the requested resource was not found"
  | .conflict => "the request conflicts with the current state"
  | .forbidden => "permission denied"
  | .unauthenticated => "authentication required"
  | .featureDisabled => "the requested feature is disabled"
  | .notConfigured => "the required service is not configured"
  | .rateLimited => "rate limit exceeded"
  | .internal => "an internal error occurred"

def messageFor (p : Presenter) (f : Fault) : String :=
  if p.development then f.message
  else if f.category == .internal || f.data.isEmpty then safeMessage f.category
  else f.root.message

def metadataFor (f : Fault) (request : Option RequestLine) : Record :=
  match request with
  | some r =>
    if f.category.confidential then f.data
    else Entries.set "request_path" (.str r.path) (Entries.set "request_method" (.str r.method) f.data)
  | none => f.data

def present (p : Presenter) (f : Fault) (request : Option RequestLine) : Presentation where
  status := f.status
  code := f.code
  category := f.category
  message := p.messageFor f
  metadata := metadataFor f request
  causes := if p.development then some f.chain else none

def classify (p : Presenter) (e : Failure) : Fault :=
  (p.mapper.bind fun m => m e.message).getD e.classify

def presentFailure (p : Presenter) (e : Failure) (request : Option RequestLine) : Presentation :=
  { p.present (p.classify e) request with causes := if p.development then some e.chain else none }

end Presenter

end Backoffice
