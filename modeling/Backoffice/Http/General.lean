import Backoffice.Http.Inbound

namespace Backoffice.Http

def version : String := "0.1.0"

/-- A back office starts when it is asked, so that it was never up for a second. -/
def uptime : String := "0h 0m 0s"

def health : Handler := fun _ =>
  pure (.ok (.ofFields [("status", .str "ok"), ("version", .str version), ("uptime", .str uptime)]))

def metrics : Handler := fun i => do
  let ctx ← i.context
  requirePermission ctx .metricsView "metrics"
  pure ⟨200, .text (← Call.state).services.enforcer.counts.text⟩

def navigation : Handler := fun i => do
  let ctx ← i.context
  let menu ← i.fields ["menu"] (Reader.decoder (Reader.optional "menu" Decode.string))
  let o ← Call.state
  let menu := (menu.filter fun m => !Text.blank m).getD o.config.navMenuCode
  let items ← Call.ofExcept (o.menuItems ctx menu)
  let visible := items.filter fun item => item.permissions.all fun p => o.authorizer ctx p "navigation"
  pure (.ok (.ofFields [("menu", .str menu), ("items", .arr (visible.map (·.toJson)))]))

def defaultHits : Nat := 20

def decodeFormNumber (bits : Nat) : Decoder Nat := fun v => v.asStr?.bind (number? bits)

def search : Handler := fun i => do
  let ctx ← i.context
  let (q, limit) ← i.fields ["q", "limit"] (Reader.decoder do
    let q ← Reader.defaulted "q" "" Decode.string
    let limit ← Reader.optional "limit" (decodeFormNumber 64)
    pure (q, limit))
  requireFeature ctx Feature.search
  let registry ← Call.reads (·.site.registry)
  let hits ← Office.onServices (registry.search ctx q (limit.getD defaultHits))
  pure (.ok (.ofFields [("query", .str q), ("hits", .arr (hits.map (·.toJson)))]))

def listCommands : Handler := fun i => do
  let ctx ← i.context
  requireFeature ctx Feature.commands
  requirePermission ctx .commandsView "commands"
  pure (.ok (.ofFields [("commands", .ofStrings (← Call.state).services.bus.names)]))

def executeCommand : Handler := fun i => do
  let ctx ← i.context
  let name ← i.param
  let payload ← i.body .record
  requireFeature ctx Feature.commands
  requirePermission ctx .commandsExecute name
  let result ← Office.onServices (Command.Exchange.dispatchByName ctx name payload)
  pure (.ok (.ofFields ([("command", .str name)] ++ Json.optional "result" id result)))

structure ScopeFields where
  kind : Option Feature.ScopeKind
  id : Option String

namespace ScopeFields

def names : List String := ["scope", "scope_id"]

def reader : Reader ScopeFields := do
  let kind ← Reader.optional "scope" Feature.ScopeKind.decode
  let id ← Reader.optional "scope_id" Decode.string
  pure ⟨kind, id⟩

def scope (s : ScopeFields) : Except Fault Feature.Scope :=
  let id := Text.trim (s.id.getD "")
  match s.kind.getD .system with
  | .system => .ok .system
  | kind =>
    if id == "" then .error (.invalid "scope_id" "scope id is required") else .ok ⟨kind, id⟩

end ScopeFields

def featureSetting : BodyType (Bool × ScopeFields) where
  shape := .merged (.required "enabled" .flag .done)
    (.optional "scope" (BodyType.choice Feature.ScopeKind.names) <| .optional "scope_id" .text .done)
  decode := Reader.decoder do
    let enabled ← Reader.required "enabled" Decode.bool
    let fields ← ScopeFields.reader
    pure (enabled, fields)

def featureAnswer (ctx : Context) (key : String) : Call Office Response := do
  let enabled ← Call.asks fun o => o.gate.isEnabled ctx key
  pure (.ok (.ofFields [("key", .str key), ("enabled", .bool enabled)]))

def getFeature : Handler := fun i => do
  let ctx ← i.context
  let key ← i.param
  requirePermission ctx .featuresView "features"
  featureAnswer ctx (Text.key key)

def setFeature : Handler := fun i => do
  let ctx ← i.context
  let key ← i.param
  let (enabled, fields) ← i.body featureSetting
  requirePermission ctx .featuresEdit "features"
  let key := Text.key key
  let scope ← Call.ofExcept fields.scope
  Office.onGate fun g => g.set ctx key scope enabled
  featureAnswer ctx key

def unsetFeature : Handler := fun i => do
  let ctx ← i.context
  let key ← i.param
  let fields ← i.fields ScopeFields.names (Reader.decoder ScopeFields.reader)
  requirePermission ctx .featuresEdit "features"
  let key := Text.key key
  let scope ← Call.ofExcept fields.scope
  Office.onGate fun g => g.unset ctx key scope
  pure .noContent

def getDashboard : Handler := fun i => do
  let ctx ← i.context
  requireFeature ctx Feature.dashboard
  requirePermission ctx .dashboardView Dashboard.resource
  let tiles ← Office.renderDashboard ctx
  pure (.ok (.ofFields [("title", .str (← Call.state).config.title),
    ("widgets", .arr (tiles.map (·.toJson)))]))

def getPreferences : Handler := fun i => do
  let ctx ← i.context
  requireFeature ctx Feature.dashboard
  requirePermission ctx .dashboardView Dashboard.resource
  let p ← Call.asks fun o => o.dashboard.preferencesOf ctx
  pure (.ok p.toJson)

def savePreferences : Handler := fun i => do
  let ctx ← i.context
  let p ← i.body .preferences
  requireFeature ctx Feature.dashboard
  requirePermission ctx .dashboardPreferences Dashboard.resource
  let p ← Office.savePreferences ctx p
  pure (.ok p.toJson)

end Backoffice.Http
