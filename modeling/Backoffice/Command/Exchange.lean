import Backoffice.Command.Bus

/-!
Dispatching over the bus. The fault of a handler is framed with the name under which it was called.
Handlers may dispatch in turn, to a depth of `hopLimit`.
-/

namespace Backoffice

structure Services extends Stores where
  bus : Command.Bus

namespace Services

def onStores {α : Type} (c : Call Stores α) : Call Services α :=
  c.within (·.toStores) fun x s => { s with toStores := x }

def onContent {α : Type} (c : Call ContentRecords α) : Call Services α :=
  c.within (·.content) fun x s => { s with content := x }

def onRuntime {α : Type} (c : Call Workflow.Runtime α) : Call Services α :=
  c.within (·.runtime) fun x s => { s with runtime := x }

def onEnforcer {α : Type} (c : Call Workflow.Enforcer α) : Call Services α :=
  c.within (·.enforcer) fun x s => { s with enforcer := x }

def onBus {α : Type} (c : Call Command.Bus α) : Call Services α :=
  c.within (·.bus) fun x s => { s with bus := x }

def table (s : Services) (handle : String) : Repository :=
  (s.tables.get? handle).getD (Repository.new handle)

def onTable {α : Type} (handle : String) (f : Repository → Except Fault (α × Repository)) :
    Call Services α :=
  Call.atomic fun s => do
    let (a, r) ← f (s.table handle)
    .ok (a, { s with tables := s.tables.set handle r })

def log (lines : List String) : Call Services Unit :=
  Call.change fun s => { s with journal := s.journal ++ lines }

end Services

namespace Command.Exchange

inductive Result where
  | host (value : Option Json)
  | queue (a : Assignment.Queue.Answer)

def Result.toJson? : Result → Option Json
  | .host value => value
  | .queue a => some a.toJson

def react (dispatch : Dispatch) (ctx : Context) (h : Handler) (m : Message) : Call Stores Result :=
  match h, m with
  | .queue, .queue c => do pure (.queue (← Stores.onAssignments (Assignment.Queue.run ctx c)))
  | .host run, .host body => do pure (.host (← run dispatch ctx body))
  | _, _ => throw (.internal "message of another kind")

def framed {α : Type} (name : String) (c : Call Stores α) : Call Stores α :=
  tryCatch c fun f => throw (.inCommand name f)

/-- Dispatches by name; the handler dispatches by `dispatch`. -/
def deliver (b : Bus) (dispatch : Dispatch) : Dispatch := fun ctx name payload => do
  Call.ofExcept ctx.ensureActive
  let topic ← Call.ofExcept (b.route name)
  let handler ← Call.ofExcept (b.handler topic name)
  match topic.read (.obj payload) with
  | none => throw (.invalid "payload" "the payload does not have the expected shape")
  | some m =>
    let result ← framed name (react dispatch ctx handler m)
    pure result.toJson?

def dispatchWithin (b : Bus) : Nat → Dispatch
  | 0 => deliver b fun _ _ _ => throw (.internal "too many forwarded commands")
  | hops + 1 => deliver b (dispatchWithin b hops)

def hopLimit : Nat := 256

def dispatchByName (ctx : Context) (name : String) (payload : Record) :
    Call Services (Option Json) := do
  let s ← Call.state
  Services.onStores (dispatchWithin s.bus hopLimit ctx name payload)

def send (ctx : Context) (topic : Topic) (m : Message) : Call Services Result := do
  Call.ofExcept ctx.ensureActive
  let s ← Call.state
  let handler ← Call.ofExcept (s.bus.handler topic topic.label)
  Services.onStores (framed topic.label (react (dispatchWithin s.bus hopLimit) ctx handler m))

def dispatchInto {α : Type} (ctx : Context) (d : Decoder α) (name : String) (payload : Record) :
    Call Services (Option α) := do
  match ← dispatchByName ctx name payload with
  | none => pure none
  | some v =>
    match d v with
    | some a => pure (some a)
    | none => throw (.internal ("decode " ++ name ++ " result: the value has another shape"))

end Command.Exchange

end Backoffice
