import Backoffice.Content.Catalog
import Backoffice.Panel.Site

/-!
Panels made from content types.

A content type whose status exposes a panel has exactly one, under its panel slug and environment,
with a search adapter and, where there are menus, a menu item. Every step accepts that what it brings
about is there already, so that a repeated call ends in the same site.
-/

namespace Backoffice.Panel

inductive WorkflowSource where
  | capability
  | legacyCapability
  | binding
  | traitDefault
  deriving DecidableEq, Repr

def WorkflowSource.text : WorkflowSource → String
  | .capability => "capability"
  | .legacyCapability => "legacy_capability"
  | .binding => "binding"
  | .traitDefault => "trait_default"

structure WorkflowResolution where
  workflowId : String
  source : WorkflowSource
  deriving DecidableEq, Repr

def WorkflowResolution.toJson (r : WorkflowResolution) : Json :=
  .ofFields [("workflow_id", .str r.workflowId), ("source", .str r.source.text)]

structure Factory where
  menuCode : String
  parentId : Option String
  basePath : String
  hasMenus : Bool
  usesBindings : Bool
  /-- Whether panels can have a workflow at all. -/
  usesEngine : Bool
  policed : Bool
  authorizer : Option Authorizer
  /-- Whether schemas are checked, by the one validator that is shipped (`ContentType.checkSchema`). -/
  validates : Bool
  commands : Bool
  traitDefaults : Dict String

namespace Factory

/-- Menu items that are never taken for stale, by id or target key. -/
def protectedKeys : List String := ["content"]

def panelName (slug environment : String) : String :=
  if environment == "" then slug else slug ++ "@" ++ environment

def environmentFor (ctx : Context) (c : ContentType) : String :=
  let own := Text.key c.environment
  if own == "" then Text.key ctx.environment else own

def passivePermission (p : PermissionSet) : String → String
  | "view" => p.view
  | "delete" => p.delete
  | "create_translation" => p.create
  | _ => p.edit

def passiveActions (p : PermissionSet) : List Action :=
  Action.passiveNames.map fun name =>
    { Action.client name with permission := some (passivePermission p name) }

def permissionsFor (c : ContentType) : PermissionSet :=
  let own := PermissionSet.ofBase c.slug
  match c.permissions? with
  | some (.base base) => .ofBase base
  | some (.explicit set) => set.or own
  | none => own

/-- The workflow of a content type: named by a capability, by a binding, or by a trait. -/
def resolveWorkflow (f : Factory) (runtime : Workflow.Runtime) (ctx : Context) (c : ContentType)
    (environment : String) : Except Fault (Option WorkflowResolution) :=
  match c.explicitWorkflow?, c.legacyWorkflow? with
  | some id, _ => .ok (some ⟨id, .capability⟩)
  | none, some id => .ok (some ⟨id, .legacyCapability⟩)
  | none, none => do
    let bound ← if f.usesBindings then runtime.resolve ctx ⟨c.slug, c.panelTraits, environment⟩
      else .ok none
    match bound with
    | some b => .ok (some ⟨b.workflowId, .binding⟩)
    | none => .ok (c.panelTraits.findSome? fun t =>
        (f.traitDefaults.get? t).map fun id => ⟨id, .traitDefault⟩)

/-- The workflow a panel runs: the one resolved, if the engine knows it. -/
def lifecycleFor (f : Factory) (runtime : Workflow.Runtime) (ctx : Context) (c : ContentType)
    (environment : String) : Except Fault (Option Lifecycle) := do
  match ← f.resolveWorkflow runtime ctx c environment with
  | some r =>
    if f.usesEngine && runtime.engine.has r.workflowId then .ok (some ⟨r.workflowId, defaultStateField⟩)
    else .ok none
  | none => .ok none

def transitionActions (engine : Workflow.Engine) (l : Lifecycle) : List Action :=
  match engine.definition? l.workflowId with
  | some d => (d.transitions.map (·.name)).foldl
      (fun names n => if names.contains n then names else names ++ [n]) [] |>.map Action.transition
  | none => []

def buildPanel (f : Factory) (runtime : Workflow.Runtime) (ctx : Context) (c : ContentType)
    (environment slug : String) : Except Fault Panel := do
  let editorial := c.hasTrait "editorial"
  let fields := FieldSets.ofSchemas c.schema c.uiSchema
  let permissions := permissionsFor c
  let lifecycle ← f.lifecycleFor runtime ctx c environment
  let builder := { Builder.new (panelName slug environment) with
    label := some c.label
    source := some (.content c)
    fields := if editorial then fields.withEditorial else fields
    actions := passiveActions permissions ++
      (lifecycle.map (transitionActions runtime.engine)).getD []
    permissions := some permissions
    lifecycle
    policed := lifecycle.isSome && f.policed
    contentSchema := some c.schema
    traits := c.panelTraits
    useBlocks := c.usesBlocks
    useSeo := c.usesSeo
    treeView := c.treeView
    localized := c.localized || editorial
    authorizer := f.authorizer.getD Authorizer.allowAll
    commands := f.commands }
  builder.build

def titleField (c : ContentType) (p : Panel) : String :=
  if ((c.schema.get? "properties").bind (·.get? "title")).isSome then "title"
  else match p.fields.list with
    | f :: _ => f.name
    | [] => "id"

def menuItem (f : Factory) (ctx : Context) (p : Panel) (c : ContentType) (slug : String)
    (position : Option Int) : Menu.Item :=
  Menu.Item.withId { Menu.Item.new f.menuCode c.label
      (.panel (f.basePath ++ "/" ++ slug) p.name p.name) with
    locale := ctx.locale
    permissions := [p.permissions.view]
    parentId := f.parentId
    position }

/-- Another item for the same target, left from before. -/
def isStale (item other : Menu.Item) : Bool :=
  other.id != item.id && other.target.path == item.target.path &&
    other.target.key == item.target.key && other.parentId == item.parentId &&
    !other.target.isGroup && !protectedKeys.contains other.id &&
    !protectedKeys.contains other.target.key

/-- Adds or updates the menu item of a panel and drops stale ones; answers the id of the item. The
position is the one asked for, else that of the item as it was, else that of a stale item. -/
def linkMenu (f : Factory) (ctx : Context) (p : Panel) (c : ContentType) (slug : String)
    (position : Option Int) : Call Site String := do
  Site.onMenus (·.ensureMenu ctx f.menuCode)
  let item := f.menuItem ctx p c slug position
  let existing ← Call.asks fun s => s.menus.listItems ctx f.menuCode
  let stale := existing.filter (isStale item)
  stale.forM fun i => Site.onMenus (·.dropItem ctx f.menuCode i.id)
  let current := existing.find? (·.id == item.id)
  let item := { item with position := item.position.or ((current.bind (·.position)).or
    (stale.findSome? (·.position))) }
  let put (g : Menu.Service → Except Fault (Menu.Item × Menu.Service)) : Call Site Menu.Item :=
    Call.atomic fun s => do
      let (i, menus) ← g s.menus
      .ok (i, { s with menus })
  let stored ← match current with
    | some _ => put (·.updateItem ctx item)
    | none => do
      match ← Call.attempt (put (·.addItem ctx item)) with
      | .ok i => pure i
      | .error e => if e.isAlreadyExists then put (·.updateItem ctx item) else throw e
  pure stored.id

def link (f : Factory) (runtime : Workflow.Runtime) (ctx : Context) (c : ContentType)
    (environment slug : String) (position : Option Int) : Call Site Panel := do
  if f.validates then Call.ofExcept c.checkSchema
  let p ← Call.ofExcept (f.buildPanel runtime ctx c environment slug)
  Site.onRegistry (·.put p)
  Site.onRegistry (·.adapt p.name ⟨p, titleField c p⟩)
  if f.hasMenus then
    let itemId ← f.linkMenu ctx p c slug position
    Site.onRegistry (·.attach p.name ⟨f.menuCode, itemId⟩)
  pure p

def detach (f : Factory) (ctx : Context) (name : String) : Call Site Unit := do
  match (← Call.state).registry.attachments.get? name with
  | some a => if f.hasMenus then Site.onMenus (·.dropItem ctx a.menuCode a.itemId)
  | none => pure ()
  let _ ← Site.unregister ctx name

def cleanup (f : Factory) (ctx : Context) (c : ContentType) (environment : String) :
    Call Site Unit := do
  let slug := (← Call.reads (·.slug? environment c.id)).getD c.panelSlug
  Site.release environment c.id none
  if slug != "" then f.detach ctx (panelName slug environment)

/-- Brings about the panel of a content type, or its absence. A failed attempt leaves the slug reserved
as it was. -/
def createAt (f : Factory) (runtime : Workflow.Runtime) (ctx : Context) (c : ContentType)
    (position : Option Int) : Call Site (Option Panel) := do
  Call.ofExcept ctx.ensureActive
  let environment := environmentFor ctx c
  if c.status.exposesPanel then
    let slug := c.panelSlug
    if slug == "" then throw (.invalid "slug" "content type slug is required")
    let previous ← Site.reserve environment c.id slug
    match ← Call.attempt (f.link runtime ctx c environment slug position) with
    | .ok p => pure (some p)
    | .error e => do
      Site.release environment c.id previous
      throw e
  else
    if f.validates then Call.ofExcept c.checkSchema
    f.cleanup ctx c environment
    pure none

def create (f : Factory) (runtime : Workflow.Runtime) (ctx : Context) (c : ContentType) :
    Call Site (Option Panel) :=
  f.createAt runtime ctx c none

def position? (f : Factory) (s : Site) (ctx : Context) (name : String) : Option Int :=
  if f.hasMenus then
    (s.registry.attachments.get? name).bind fun a =>
      match s.menus.getMenu ctx a.menuCode with
      | .ok m => (m.item? a.itemId).bind (·.position)
      | .error _ => none
  else none

/-- Leaves the slug `old`; answers the position of its menu item. -/
def leave (f : Factory) (ctx : Context) (c : ContentType) (environment old : String)
    (exposes : Bool) : Call Site (Option Int) := do
  if exposes then
    let _ ← Site.reserve environment c.id c.panelSlug
  let name := panelName old environment
  let position ← Call.reads fun s => f.position? s ctx name
  match ← Call.attempt (f.detach ctx name) with
  | .ok () => do
    if !exposes then Site.release environment c.id none
    pure position
  | .error e => do
    if exposes then Site.release environment c.id (some old)
    throw e

/-- Brings the panel of a content type up to date. A new slug moves it, and it keeps its position in
the menu. -/
def refresh (f : Factory) (runtime : Workflow.Runtime) (ctx : Context) (c : ContentType) :
    Call Site (Option Panel) := do
  Call.ofExcept ctx.ensureActive
  let environment := environmentFor ctx c
  let slug := c.panelSlug
  let left := (← Call.reads (·.slug? environment c.id)).filter (· != slug)
  match left with
  | none => f.createAt runtime ctx c none
  | some old => do
    let exposes := c.status.exposesPanel && slug != ""
    let position ← f.leave ctx c environment old exposes
    match ← Call.attempt (f.createAt runtime ctx c position) with
    | .ok p => pure p
    | .error e => do
      if exposes then Site.release environment c.id none
      throw e

def remove (f : Factory) (ctx : Context) (c : ContentType) : Call Site Unit := do
  Call.ofExcept ctx.ensureActive
  f.cleanup ctx c (environmentFor ctx c)

def follow (f : Factory) (runtime : Workflow.Runtime) (ctx : Context) :
    ContentType.Event → Call Site Unit
  | .created c => do let _ ← f.create runtime ctx c
  | .updated c => do let _ ← f.refresh runtime ctx c
  | .deleted c => f.remove ctx c

def reconcile (f : Factory) (runtime : Workflow.Runtime) (ctx : Context) :
    List ContentType → Call Site Nat
  | [] => pure 0
  | c :: rest => do
    let p ← f.refresh runtime ctx c
    let n ← f.reconcile runtime ctx rest
    pure (n + if p.isSome then 1 else 0)

end Factory

end Backoffice.Panel
