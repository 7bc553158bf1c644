import Backoffice.Stores

namespace Backoffice.Command

inductive Message where
  | queue (c : Assignment.Queue.Command)
  | host (body : Json)

structure Topic where
  label : String
  /-- Messages of a query kind are answered with a value. -/
  isQuery : Bool
  read : Decoder Message

abbrev Dispatch := Context → String → Record → Call Stores (Option Json)

inductive Handler where
  | queue
  /-- Code of the host. The bus that it dispatches on is the one that it was called from. -/
  | host (run : Dispatch → Context → Json → Call Stores (Option Json))

/-- Handlers by the label of their topic, and topics by name. -/
structure Bus where
  commands : Dict Handler
  queries : Dict Handler
  routes : Dict Topic

namespace Bus

def empty : Bus := ⟨.empty, .empty, .empty⟩

def handlers (b : Bus) (isQuery : Bool) : Dict Handler := if isQuery then b.queries else b.commands

def handler (b : Bus) (t : Topic) (name : String) : Except Fault Handler :=
  match (b.handlers t.isQuery).get? t.label with
  | some h => .ok h
  | none => .error (.notFound "command" name)

def register (b : Bus) (t : Topic) (h : Handler) (replace : Bool) : Except Fault Bus := do
  if !replace && (b.handlers t.isQuery).contains t.label then
    .error (.alreadyExists (if t.isQuery then "query handler" else "command handler") t.label)
  if t.isQuery then .ok { b with queries := b.queries.set t.label h }
  else .ok { b with commands := b.commands.set t.label h }

def bind (b : Bus) (name : String) (t : Topic) (replace : Bool) : Except Fault Bus := do
  let name := Text.trim name
  if name == "" then .error (.invalid "name" "command name is required")
  if !replace && b.routes.contains name then .error (.alreadyExists "command" name)
  .ok { b with routes := b.routes.set name t }

/-- Registers a handler, then binds its topic. A refused name leaves the handler registered. -/
def registerNamed (name : String) (t : Topic) (h : Handler) : Call Bus Unit := do
  Call.update fun b => b.register t h false
  Call.update fun b => b.bind name t false

def route (b : Bus) (name : String) : Except Fault Topic :=
  match b.routes.get? name with
  | some t => .ok t
  | none => .error (.notFound "command" name)

def names (b : Bus) : List String := b.routes.keys

end Bus

/-- How reports call the types of queue commands. -/
def typeName (v : Assignment.Queue.Verb) : String :=
  let noun : Assignment.Operation → String
    | .claim => "ClaimAssignment"
    | .assign => "AssignAssignment"
    | .release => "ReleaseAssignment"
    | .submitReview => "SubmitAssignmentReview"
    | .approve => "ApproveAssignment"
    | .reject => "RejectAssignment"
    | .publish => "PublishAssignment"
    | .archive => "ArchiveAssignment"
  "larch_translation::commands::" ++ match v with
    | .create => "CreateAssignment"
    | .list => "ListAssignments"
    | .single op => noun op
    | .bulk op => "Bulk" ++ noun op ++ "s"

def queueTopic (label : Assignment.Queue.Verb → String) (v : Assignment.Queue.Verb) : Topic :=
  ⟨label v, true, fun p => (v.decode p).map .queue⟩

def registerQueue (label : Assignment.Queue.Verb → String) : Call Bus Unit :=
  Assignment.Queue.Verb.all.forM fun v => Bus.registerNamed v.name (queueTopic label v) .queue

end Backoffice.Command
