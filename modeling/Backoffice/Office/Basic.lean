import Backoffice.Module
import Backoffice.Navigation

namespace Backoffice

structure Office extends Premises where
  modules : List Module
  navigation : Navigation
  report : Option Module.Report
  queueLabel : Assignment.Queue.Verb → String

namespace Office

structure Provisions where
  authorizer : Option Authorizer
  authenticator : Authenticator
  hasMenus : Bool
  readOnlyContent : Bool
  policy : Option Workflow.LocalePolicy
  series : Workflow.VetoLabels.Series
  /-- In place of the gate that the settings describe. -/
  gate : Option Feature.Gate
  queueLabel : Assignment.Queue.Verb → String

def Provisions.services (p : Provisions) (gate : Feature.Gate) : Services where
  toStores := { Stores.empty with
    content := { ContentRecords.empty with readOnly := p.readOnlyContent }
    enforcer := ⟨p.policy, p.series, []⟩
    gate }
  bus := .empty

def factoryFor (c : Config) (p : Provisions) : Panel.Factory where
  menuCode := if p.hasMenus then Text.key c.navMenuCode else "admin"
  parentId := none
  basePath := c.base
  hasMenus := p.hasMenus
  usesBindings := true
  usesEngine := true
  policed := true
  authorizer := some (p.authorizer.getD Authorizer.allowAll)
  validates := false
  commands := true
  traitDefaults := Dict.ofList (c.workflowTraitDefaults.entries.map fun (t, id) => (Text.key t, id))

def new (c : Config) (p : Provisions) : Except Fault Office := do
  c.validate
  let gate ← match p.gate with
    | some gate => .ok gate
    | none => Feature.Gate.layered c.featureDefaults.entries
  .ok {
    config := c
    authorizer := p.authorizer.getD Authorizer.allowAll
    authenticator := p.authenticator
    services := p.services gate
    site := ⟨Panel.Registry.empty p.hasMenus, .empty, []⟩
    catalog := .empty
    factory := factoryFor c p
    follows := true
    dashboard := .empty
    modules := Module.standard c
    navigation := .empty
    report := none
    queueLabel := p.queueLabel }

abbrev gate (o : Office) : Feature.Gate := o.services.gate

def onPremises {α : Type} (c : Call Premises α) : Call Office α :=
  c.within (·.toPremises) fun x o => { o with toPremises := x }

def onServices {α : Type} (c : Call Services α) : Call Office α :=
  c.within (·.services) fun x o => { o with services := x }

def onRuntime {α : Type} (c : Call Workflow.Runtime α) : Call Office α :=
  onServices (Services.onRuntime c)

def onAssignments {α : Type} (c : Call Assignment.Store α) : Call Office α :=
  onServices (Services.onStores (Stores.onAssignments c))

def onSite {α : Type} (c : Call Site α) : Call Office α :=
  c.within (·.site) fun x o => { o with site := x }

def onBus {α : Type} (c : Call Command.Bus α) : Call Office α :=
  onServices (Services.onBus c)

def onMenus {α : Type} (f : Menu.Service → Except Fault (α × Menu.Service)) : Call Office α :=
  Call.atomic fun o => do
    let (a, menus) ← f o.site.menus
    .ok (a, { o with site := { o.site with menus } })

def onGate (f : Feature.Gate → Except Fault Feature.Gate) : Call Office Unit :=
  onServices (Call.update fun s => do .ok { s with gate := ← f s.gate })

def onDashboard {α : Type} (f : Dashboard → Except Fault (α × Dashboard)) : Call Office α :=
  Call.atomic fun o => do
    let (a, dashboard) ← f o.dashboard
    .ok (a, { o with dashboard })

def registerWidget (w : Dashboard.Widget) : Call Office Unit :=
  onDashboard fun d => do .ok ((), ← d.register w)

def savePreferences (ctx : Context) (p : Dashboard.Preferences) : Call Office Dashboard.Preferences := do
  let now ← Call.now
  onDashboard fun d => d.save ctx now p

def renderDashboard (ctx : Context) : Call Office (List Dashboard.Tile) := do
  let o ← Call.state
  onServices (o.dashboard.render o.site.registry o.authorizer ctx)

def withFactory {α : Type} (f : Panel.Factory → Workflow.Runtime → Call Site α) : Call Office α := do
  let o ← Call.state
  onSite (f o.factory o.services.runtime)

/-- A write on the catalogue, followed by the panels. The write stays when they fail to follow. -/
def writeType (event : ContentType → ContentType.Event) (ctx : Context)
    (f : ContentType.Catalog → Except Fault (ContentType × ContentType.Catalog)) :
    Call Office ContentType := do
  let c ← Call.atomic fun o => do
    let (c, catalog) ← f o.catalog
    .ok (c, { o with catalog })
  if (← Call.state).follows then withFactory fun factory runtime => factory.follow runtime ctx (event c)
  pure c

def createType (ctx : Context) (c : ContentType) : Call Office ContentType := do
  let now ← Call.now
  let fresh ← Call.fresh
  writeType .created ctx fun cat => cat.create ctx now fresh c

def updateType (ctx : Context) (c : ContentType) : Call Office ContentType := do
  let now ← Call.now
  writeType .updated ctx fun cat => cat.update ctx now c

def deleteType (ctx : Context) (id : String) : Call Office Unit := do
  let _ ← writeType .deleted ctx fun cat => cat.delete ctx id

def reconcile (ctx : Context) : Call Office Nat := do
  let types ← Call.asks fun o => o.catalog.list ctx
  withFactory fun factory runtime => factory.reconcile runtime ctx types

def menuItems (o : Office) (ctx : Context) (code : String) : Except Fault (List Menu.Item) :=
  if o.factory.hasMenus then
    match o.site.menus.getMenu ctx code with
    | .ok m => .ok m.items
    | .error f => if f.isNotFound then .ok (o.navigation.items code) else .error f
  else .ok (o.navigation.items code)

end Office

end Backoffice
