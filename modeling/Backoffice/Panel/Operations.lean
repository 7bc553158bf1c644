import Backoffice.Panel.Basic

/-!
What can be done with a panel.

Every operation takes the same path: permission, hook before, repository, hook after. Transitions
read the record, ask policy and engine, and write the state field.
-/

namespace Backoffice

namespace Panel

open Services

namespace Source

def list (ctx : Context) (o : ListOptions) : Source → Call Services Listing
  | .table handle => Call.asks fun s => (s.table handle).list ctx o
  | .content c => onContent (ContentRecords.list ctx c o)

def get (ctx : Context) (id : String) : Source → Call Services Record
  | .table handle => Call.asks fun s => (s.table handle).get ctx id
  | .content c => onContent (ContentRecords.get ctx c id)

def create (ctx : Context) (record : Record) : Source → Call Services Record
  | .table handle => do
    let fresh ← Call.fresh
    onTable handle fun r => r.create ctx fresh record
  | .content c => onContent (ContentRecords.create ctx c record)

def update (ctx : Context) (id : String) (patch : Record) : Source → Call Services Record
  | .table handle => onTable handle fun r => r.update ctx id patch
  | .content c => onContent (ContentRecords.update ctx c id patch)

def delete (ctx : Context) (id : String) : Source → Call Services Unit
  | .table handle => onTable handle fun r => do .ok ((), ← r.delete ctx id)
  | .content c => onContent (ContentRecords.delete ctx c id)

end Source

def listOptions (p : Panel) (ctx : Context) (o : ListOptions) : ListOptions :=
  let o := if p.localized && ctx.locale != "" && (Entries.get? "locale" o.filters).isNone then
      { o with filters := Entries.set "locale" (.str ctx.locale) o.filters }
    else o
  if !Text.blank o.search && (Entries.get? Repository.searchKey o.filters).isNone then
    { o with filters := Entries.set Repository.searchKey (.str (Text.trim o.search)) o.filters }
  else o

def list (p : Panel) (ctx : Context) (o : ListOptions) : Call Services Listing := do
  Call.ofExcept (p.authorize ctx p.permissions.view)
  p.source.list ctx (p.listOptions ctx o)

def get (p : Panel) (ctx : Context) (id : String) : Call Services Record := do
  Call.ofExcept (p.authorize ctx p.permissions.view)
  p.source.get ctx id

def create (p : Panel) (ctx : Context) (record : Record) : Call Services Record := do
  Call.ofExcept (p.authorize ctx p.permissions.create)
  let record ← p.hooks.beforeCreate ctx record
  let created ← p.source.create ctx record
  p.hooks.afterCreate ctx created
  pure created

def write (p : Panel) (ctx : Context) (id : String) (patch : Record) : Call Services Record := do
  let patch ← p.hooks.beforeUpdate ctx id patch
  let updated ← p.source.update ctx id patch
  p.hooks.afterUpdate ctx updated
  pure updated

def update (p : Panel) (ctx : Context) (id : String) (patch : Record) : Call Services Record := do
  Call.ofExcept (p.authorize ctx p.permissions.edit)
  p.write ctx id patch

def delete (p : Panel) (ctx : Context) (id : String) : Call Services Unit := do
  Call.ofExcept (p.authorize ctx p.permissions.delete)
  p.hooks.beforeDelete ctx id
  p.source.delete ctx id
  p.hooks.afterDelete ctx id

def stateOf (l : Lifecycle) (record : Record) : String := (record.textField? l.stateField).getD ""

def transitionRecord (p : Panel) (ctx : Context) (id transition : String) (metadata : Record) :
    Call Services Record := do
  match p.lifecycle with
  | none => throw (.unsupported p.name "workflow transition")
  | some l =>
    let record ← p.source.get ctx id
    let transition := Text.key transition
    if p.policed then
      onEnforcer (Workflow.Enforcer.check
        ⟨p.name, id, transition, ctx.environment, ctx.locale, metadata⟩)
    let (_, target) ← Call.asks fun s => s.runtime.engine.fire ctx
      ⟨id, l.workflowId, stateOf l record, transition, ctx.userId, metadata⟩
    p.write ctx id [(l.stateField, .str target)]

/-- One record stands for itself, several are an array. -/
def resultOf : List Record → Json
  | [record] => .obj record
  | records => .arr (records.map .obj)

def execute (p : Panel) (ctx : Context) (a : Action) (r : ActionRequest) :
    Call Services (Option Json) := do
  Call.ofExcept ctx.ensureActive
  Call.ofExcept (p.authorize ctx (p.permissionFor a))
  match a.target with
  | .handler run => run ctx r
  | .client => throw (.unsupported p.name (a.name ++ " runs in the client"))
  | .command name =>
    if p.commands then Command.Exchange.dispatchByName ctx name r.toPayload
    else throw (.notConfigured "command bus")
  | .transition t =>
    if r.ids.isEmpty then throw (.invalid "ids" "a transition needs a record id")
    let updated ← r.ids.mapM fun id => p.transitionRecord ctx id t r.payload
    pure (some (resultOf updated))

/-- Runs an action on records; with a workflow, an undeclared name is a transition. -/
def runAction (p : Panel) (ctx : Context) (name : String) (r : ActionRequest) :
    Call Services (Option Json) :=
  match Action.find? p.actions name with
  | some a => p.execute ctx a r
  | none =>
    if p.lifecycle.isSome then p.execute ctx (.transition name) r
    else throw (.notFound "action" (p.name ++ "/" ++ name))

def runBulkAction (p : Panel) (ctx : Context) (name : String) (r : ActionRequest) :
    Call Services (Option Json) := do
  if r.ids.isEmpty then throw (.invalid "ids" "bulk actions need at least one id")
  match Action.find? p.bulkActions name with
  | some a => p.execute ctx a r
  | none => throw (.notFound "bulk action" (p.name ++ "/" ++ name))

def isOffered (reachable : Option (List String)) (a : Action) : Bool :=
  a.isPassive ||
    match a.transitionName?, reachable with
    | some t, some names => names.contains (Text.key t)
    | some _, none => false
    | none, _ => true

/-- The actions offered for a record: transitions only if the record's state has them. -/
def availableActions (p : Panel) (ctx : Context) (engine : Workflow.Engine) (record : Record) :
    Except Fault (List Action) := do
  let reachable ← match p.lifecycle with
    | none => .ok none
    | some l => do
      let ts ← engine.available ctx l.workflowId (stateOf l record)
      .ok (some (ts.map fun t => Text.key t.name))
  .ok (p.actions.filter fun a => isOffered reachable a && p.allows ctx (p.permissionFor a))

end Panel

end Backoffice
