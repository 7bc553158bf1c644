import Backoffice.Content.Type
import Backoffice.Field
import Backoffice.Panel.Action

namespace Backoffice

namespace Panel

inductive Source where
  | table (handle : String)
  | content (type : ContentType)

structure Lifecycle where
  workflowId : String
  stateField : String
  deriving DecidableEq, Repr

def defaultStateField : String := "status"

end Panel

structure Panel where
  name : String
  label : String
  source : Panel.Source
  fields : FieldSets
  actions : List Panel.Action
  bulkActions : List Panel.Action
  permissions : PermissionSet
  lifecycle : Option Panel.Lifecycle
  /-- Whether transitions are subject to the locale policy. -/
  policed : Bool
  contentSchema : Option Json
  traits : List String
  useBlocks : Bool
  useSeo : Bool
  treeView : Bool
  localized : Bool
  authorizer : Authorizer
  hooks : Panel.Hooks
  commands : Bool

namespace Panel

structure Builder where
  name : String
  label : Option String
  source : Option Source
  fields : FieldSets
  actions : List Action
  bulkActions : List Action
  permissions : Option PermissionSet
  lifecycle : Option Lifecycle
  policed : Bool
  contentSchema : Option Json
  traits : List String
  useBlocks : Bool
  useSeo : Bool
  treeView : Bool
  localized : Bool
  authorizer : Authorizer
  hooks : Hooks
  commands : Bool

namespace Builder

def new (name : String) : Builder :=
  ⟨name, none, none, .empty, [], [], none, none, false, none, [], false, false, false, false,
    Authorizer.allowAll, Hooks.none, false⟩

def addField (b : Builder) (f : Field) : Builder :=
  { b with fields := { b.fields with
      list := b.fields.list ++ [f], form := b.fields.form ++ [f], detail := b.fields.detail ++ [f] } }

def addFilter (b : Builder) (f : Field) : Builder :=
  { b with fields := { b.fields with filters := b.fields.filters ++ [f] } }

def checkActions (panel : String) (seen : List String) : List Action → Except Fault Unit
  | [] => .ok ()
  | a :: rest =>
    if seen.contains (Text.key a.name) then
      .error (.invalid "actions" ("duplicate action " ++ a.name ++ " on panel " ++ panel))
    else checkActions panel (Text.key a.name :: seen) rest

/-- A panel has a name and a source, and distinct actions; permissions left blank are those of its
name. -/
def build (b : Builder) : Except Fault Panel := do
  let name := Text.key b.name
  if name == "" then .error (.invalid "name" "panel name is required")
  let source ← match b.source with
    | some s => .ok s
    | none => .error (.invalid "repository" ("panel " ++ name ++ " has no repository"))
  checkActions name [] b.actions
  checkActions name [] b.bulkActions
  let own := PermissionSet.ofBase ("admin." ++ name)
  .ok {
    name := name
    label := b.label.getD name
    source := source
    fields := b.fields
    actions := b.actions
    bulkActions := b.bulkActions
    permissions := match b.permissions with
      | some p => p.or own
      | none => own
    lifecycle := b.lifecycle
    policed := b.policed
    contentSchema := b.contentSchema
    traits := b.traits.map Text.key
    useBlocks := b.useBlocks
    useSeo := b.useSeo
    treeView := b.treeView
    localized := b.localized
    authorizer := b.authorizer
    hooks := b.hooks
    commands := b.commands }

end Builder

/-- Asks for a permission; a blank one is granted. -/
def authorize (p : Panel) (ctx : Context) (permission : String) : Except Fault Unit :=
  if Text.blank permission || p.authorizer ctx permission p.name then .ok ()
  else .error (.forbidden permission p.name)

def allows (p : Panel) (ctx : Context) (permission : String) : Bool :=
  match p.authorize ctx permission with
  | .ok () => true
  | .error _ => false

def canView (p : Panel) (ctx : Context) : Bool := p.allows ctx p.permissions.view

def permissionFor (p : Panel) (a : Action) : String := a.permission.getD p.permissions.edit

def formSchema (p : Panel) : Json := FormSchema.build p.fields.form p.contentSchema

def describe (p : Panel) : Json :=
  .ofFields [("name", .str p.name), ("label", .str p.label), ("fields", p.fields.toJson),
    ("permissions", p.permissions.toJson), ("actions", .arr (p.actions.map (·.describe))),
    ("bulk_actions", .arr (p.bulkActions.map (·.describe))), ("traits", .ofStrings p.traits),
    ("capabilities", .ofFields [("use_blocks", .bool p.useBlocks), ("use_seo", .bool p.useSeo),
      ("tree_view", .bool p.treeView)]),
    ("workflow", .ofOption (fun l => .str l.workflowId) p.lifecycle), ("schema", p.formSchema)]

end Panel

end Backoffice
