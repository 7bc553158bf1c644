import Backoffice.Office.Basic

namespace Backoffice.Office

def registerModule (m : Module) : Call Office Unit :=
  Call.update fun o => do .ok { o with modules := ← Module.register o.modules m }

def note (m : Module) (line : String) : Call Office Unit :=
  if m.logs then onServices (Services.log [line]) else pure ()

def setUp (ctx : Context) (m : Module) : Call Office Unit := do
  note m ("register " ++ m.manifest.id)
  match m.setup with
  | .widget w => registerWidget w
  | .workflows => do let _ ← onRuntime (Workflow.Runtime.bindEngine ctx)
  | .queue w => do
    onBus (Command.registerQueue (← Call.state).queueLabel)
    registerWidget w
  | .content => do let _ ← reconcile ctx
  | .host run => onPremises (run ctx)

def loadAll (ctx : Context) (locale : String) :
    Module.Report → List Module → Call Office (Module.Report × List Menu.Item)
  | report, [] => pure (report, [])
  | report, m :: rest => do
    Call.ofExcept ctx.ensureActive
    match ← Call.asks fun o => m.skip? o.gate ctx report.skipped with
    | some s => loadAll ctx locale { report with skipped := report.skipped ++ [s] } rest
    | none => do
      setUp ctx m
      note m ("menu_items " ++ m.manifest.id ++ " " ++ locale)
      let items := m.completedItems (← Call.state).config.navMenuCode locale
      let (report, more) ←
        loadAll ctx locale { report with loaded := report.loaded ++ [m.id] } rest
      pure (report, items ++ more)

def mergeItems (ctx : Context) (items : List Menu.Item) : Call Office Nat := do
  let hasMenus := (← Call.state).factory.hasMenus
  (Navigation.mergeItems ctx hasMenus items).within (fun o => (o.navigation, o.site.menus))
    fun (navigation, menus) o => { o with navigation, site := { o.site with menus } }

/-- Loads all modules, unless that was done before. -/
def load (ctx : Context) : Call Office Module.Report := do
  let o ← Call.state
  match o.report with
  | some report => pure report
  | none => do
    let locale := if ctx.locale == "" then o.config.defaultLocale else ctx.locale
    let (report, items) ← loadAll ctx locale .empty o.modules
    let report := { report with itemsAdded := ← mergeItems ctx items }
    Call.change fun o => { o with report := some report }
    pure report

end Backoffice.Office
