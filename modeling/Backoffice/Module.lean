import Backoffice.Premises

namespace Backoffice

namespace Module

structure Manifest where
  id : String
  nameKey : String
  descriptionKey : String
  features : List String
  dependsOn : List String
  deriving DecidableEq, Repr

namespace Manifest

def new (id : String) : Manifest :=
  let id := Text.key id
  ⟨id, "modules." ++ id ++ ".name", "modules." ++ id ++ ".description", [], []⟩

def withFeature (m : Manifest) (feature : String) : Manifest :=
  { m with features := m.features ++ [Text.key feature] }

def withDependency (m : Manifest) (module : String) : Manifest :=
  { m with dependsOn := m.dependsOn ++ [Text.key module] }

def decode : Decoder Manifest := Reader.decoder do
  let id ← Reader.required "id" Decode.string
  let nameKey ← Reader.required "name_key" Decode.string
  let descriptionKey ← Reader.defaulted "description_key" "" Decode.string
  let features ← Reader.defaulted "feature_flags" [] Decode.strings
  let dependsOn ← Reader.defaulted "depends_on" [] Decode.strings
  pure ⟨id, nameKey, descriptionKey, features, dependsOn⟩

def toJson (m : Manifest) : Json :=
  .ofFields [("id", .str m.id), ("name_key", .str m.nameKey),
    ("description_key", .str m.descriptionKey), ("feature_flags", .ofStrings m.features),
    ("depends_on", .ofStrings m.dependsOn)]

end Manifest

inductive Setup where
  | widget (w : Dashboard.Widget)
  | workflows
  | queue (w : Dashboard.Widget)
  | content
  /-- Runs code of the host. -/
  | host (run : Context → Call Premises Unit)

end Module

structure Module where
  manifest : Module.Manifest
  setup : Module.Setup
  items : String → List Menu.Item
  logs : Bool

namespace Module

def id (m : Module) : String := Text.key m.manifest.id

def link (base path label : String) (position : Int) (permission : String) : Menu.Item :=
  { Menu.Item.new "" label (.url (base ++ path)) with
    position := some position, permissions := [permission] }

def standard (c : Config) : List Module :=
  let own (id : String) : Manifest := (Manifest.new id).withFeature id
  [⟨own Feature.dashboard, .widget Dashboard.panelsWidget,
      fun _ => [link c.base "" "Dashboard" 0 (c.permission .dashboardView)], false⟩,
    ⟨own Feature.workflows, .workflows,
      fun _ => [link c.base "/workflows" "Workflows" 80 (c.permission .workflowsView)], false⟩,
    ⟨own Feature.assignmentQueue,
      .queue (Dashboard.assignmentsWidget (c.permission .assignmentsView)),
      fun _ => [link c.base "/translations" "Translations" 90 (c.permission .assignmentsView)], false⟩,
    ⟨own Feature.cms, .content, fun _ => [], false⟩]

/-- Adds a module behind those it depends on. -/
def register (modules : List Module) (m : Module) : Except Fault (List Module) := do
  if m.id == "" then .error (.invalid "id" "module id is required")
  let ids := modules.map (·.id)
  if ids.contains m.id then .error (.alreadyExists "module" m.id)
  match (m.manifest.dependsOn.map Text.key).find? fun d => !ids.contains d with
  | some d => .error (.invalid "depends_on"
      ("module " ++ m.id ++ " depends on unregistered module " ++ d))
  | none => .ok (modules ++ [m])

structure Skipped where
  moduleId : String
  feature : String
  message : String
  deriving DecidableEq, Repr

def Skipped.toJson (s : Skipped) : Json :=
  .ofFields [("module_id", .str s.moduleId), ("feature", .str s.feature),
    ("text_code", .str (Fault.featureDisabled s.feature (some s.message)).code),
    ("message", .str s.message)]

structure Report where
  loaded : List String
  skipped : List Skipped
  itemsAdded : Nat
  deriving DecidableEq, Repr

namespace Report

def empty : Report := ⟨[], [], 0⟩

def isLoaded (r : Report) (id : String) : Bool := r.loaded.contains id

def skipped? (r : Report) (id : String) : Option Skipped := r.skipped.find? (·.moduleId == id)

def toJson (r : Report) : Json :=
  .ofFields [("loaded", .ofStrings r.loaded), ("skipped", .arr (r.skipped.map (·.toJson))),
    ("menu_items_added", .ofNat r.itemsAdded)]

end Report

def firstOff (g : Feature.Gate) (ctx : Context) : List String → Except Fault (Option String)
  | [] => .ok none
  | f :: rest => do if ← g.isEnabled ctx f then firstOff g ctx rest else .ok (some f)

/-- Why a module is skipped after `skipped` were, if it is. -/
def skip? (m : Module) (g : Feature.Gate) (ctx : Context) (skipped : List Skipped) :
    Except Fault (Option Skipped) := do
  match ← firstOff g ctx m.manifest.features with
  | some feature =>
    .ok (some ⟨m.id, feature, "module " ++ m.id ++ " requires feature " ++ feature⟩)
  | none => .ok (m.manifest.dependsOn.findSome? fun d =>
      (skipped.find? (·.moduleId == Text.key d)).map fun s =>
        ⟨m.id, s.feature, "module " ++ m.id ++ " depends on skipped module " ++ d⟩)

def completedItems (m : Module) (menuCode locale : String) : List Menu.Item :=
  (m.items locale).map fun i => Menu.Item.withId { i with
    menuCode := if Text.blank i.menuCode then menuCode else i.menuCode
    locale := if Text.blank i.locale then locale else i.locale }

end Module

end Backoffice
