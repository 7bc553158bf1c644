import Backoffice.Http.General

namespace Backoffice.Http

/-- The panel of the request's environment, else the one for all environments. -/
def findPanel (r : Panel.Registry) (ctx : Context) (name : String) : Except Fault Panel :=
  match if ctx.environment == "" then none
    else r.get? (Panel.Factory.panelName name ctx.environment) with
  | some p => .ok p
  | none => r.require name

def panelNamed (ctx : Context) (name : String) : Call Office Panel :=
  Call.asks fun o => findPanel o.site.registry ctx name

def reservedNames : List String :=
  ["page", "per_page", "sort", "sort_by", "order", "search", "q", "locale", "env", "environment",
    "render_mode"]

def queryNumber (query : Dict String) (name : String) : Except Fault Nat :=
  match (query.get? name).bind Text.nonBlank with
  | none => .ok 0
  | some s =>
    match number? 32 s with
    | some n => .ok n
    | none => .error (.invalid name (name ++ " must be a positive integer"))

def listOptions (query : Dict String) : Except Fault ListOptions := do
  let page ← queryNumber query "page"
  let perPage ← queryNumber query "per_page"
  let sort := ((query.get? "sort").or (query.get? "sort_by")).bind Text.nonBlank
  let downward := ((query.get? "order").map (Text.sameIgnoringCase · "desc")).getD false
  .ok {
    page
    perPage
    sortBy := sort.map (Text.trimStartOf '-')
    descending := (sort.map fun s => Text.startsWith s "-" || downward).getD false
    filters := (query.entries.filter fun (name, _) => !reservedNames.contains name).map
      fun (name, value) => (name, .str value)
    search := ((query.get? "q").or (query.get? "search")).getD "" }

def listPanels : Handler := fun i => do
  let ctx ← i.context
  let panels ← Call.reads (·.site.registry.list)
  pure (.ok (.arr ((panels.filter (·.canView ctx)).map (·.describe))))

def listRecords : Handler := fun i => do
  let ctx ← i.context
  let name ← i.param
  let p ← panelNamed ctx name
  let options ← Call.ofExcept (listOptions (formDict i.pairs))
  let page ← Office.onServices (p.list ctx options)
  pure (.ok (.ofFields [("panel", .str p.name), ("records", .arr (page.records.map .obj)),
    ("total", .ofNat page.total)]))

def createRecord : Handler := fun i => do
  let ctx ← i.context
  let name ← i.param
  let record ← i.body .record
  let p ← panelNamed ctx name
  let created ← Office.onServices (p.create ctx record)
  pure (.created (.obj created))

def getRecord : Handler := fun i => do
  let ctx ← i.context
  let (name, id) ← i.params2
  let p ← panelNamed ctx name
  let record ← Office.onServices (p.get ctx id)
  pure (.ok (.obj record))

def updateRecord : Handler := fun i => do
  let ctx ← i.context
  let (name, id) ← i.params2
  let patch ← i.body .record
  let p ← panelNamed ctx name
  let record ← Office.onServices (p.update ctx id patch)
  pure (.ok (.obj record))

def deleteRecord : Handler := fun i => do
  let ctx ← i.context
  let (name, id) ← i.params2
  let p ← panelNamed ctx name
  Office.onServices (p.delete ctx id)
  pure .noContent

def recordActions : Handler := fun i => do
  let ctx ← i.context
  let (name, id) ← i.params2
  let p ← panelNamed ctx name
  let record ← Office.onServices (p.get ctx id)
  let actions ← Call.asks fun o => p.availableActions ctx o.services.runtime.engine record
  pure (.ok (.arr (actions.map (·.describe))))

def actionAnswer (p : Panel) (action : String) (result : Option Json) : Response :=
  ⟨200, .members [("panel", .str p.name), ("action", .str action),
    ("result", result.getD (.ofFields [("ok", .bool true)]))]⟩

def runAction : Handler := fun i => do
  let ctx ← i.context
  let (name, action) ← i.params2
  let r ← i.body .actionRequest
  let p ← panelNamed ctx name
  pure (actionAnswer p action (← Office.onServices (p.runAction ctx action r)))

def runBulkAction : Handler := fun i => do
  let ctx ← i.context
  let (name, action) ← i.params2
  let r ← i.body .actionRequest
  requireFeature ctx Feature.bulk
  let p ← panelNamed ctx name
  pure (actionAnswer p action (← Office.onServices (p.runBulkAction ctx action r)))

end Backoffice.Http
