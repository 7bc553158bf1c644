import Backoffice.Panel.Registry

namespace Backoffice

namespace Dashboard

inductive Content where
  | assignments
  | panels
  /-- Runs code of the host. -/
  | host (run : Context → Call Services Json)

structure Widget where
  code : String
  title : String
  /-- Widgets without a permission are shown to all. -/
  permission : Option String
  content : Content

def assignmentsWidget (permission : String) : Widget :=
  ⟨"translation_queue", "Translation queue", some permission, .assignments⟩

def panelsWidget : Widget := ⟨"panels", "Panels", none, .panels⟩

structure Preferences where
  layout : List String
  hidden : List String
  updatedAt : Option Instant
  deriving DecidableEq, Repr

namespace Preferences

def none : Preferences := ⟨[], [], Option.none⟩

def decode : Decoder Preferences := Reader.decoder do
  let layout ← Reader.defaulted "layout" [] Decode.strings
  let hidden ← Reader.defaulted "hidden" [] Decode.strings
  let updatedAt ← Reader.optional "updated_at" Instant.decode
  pure ⟨layout, hidden, updatedAt⟩

def toJson (p : Preferences) : Json :=
  .ofFields ([("layout", .ofStrings p.layout), ("hidden", .ofStrings p.hidden)] ++
    Json.optional "updated_at" (·.toJson) p.updatedAt)

def normalized (p : Preferences) : Preferences :=
  { p with layout := Text.distinctKeys p.layout, hidden := Text.distinctKeys p.hidden }

def rank (p : Preferences) (code : String) : Nat :=
  (p.layout.findIdx? (· == code)).getD p.layout.length

end Preferences

structure Tile where
  code : String
  title : String
  data : Json

def Tile.toJson (t : Tile) : Json :=
  .ofFields [("code", .str t.code), ("title", .str t.title), ("data", t.data)]

namespace Content

def countsByStatus (rows : List Assignment) : Json :=
  .ofFields (Assignment.Status.all.map fun status =>
    (status.text, .ofNat (rows.filter (·.status == status)).length))

def ownCount (ctx : Context) (rows : List Assignment) : Nat :=
  match ctx.actor with
  | some a => (rows.filter fun row => row.assigneeId == some a.id && row.isOpen).length
  | none => 0

def draw (registry : Panel.Registry) (ctx : Context) : Content → Call Services Json
  | assignments => do
    let rows ← Call.asks fun s => s.assignments.list ctx .all
    pure (.ofFields [("total", .ofNat rows.length), ("by_status", countsByStatus rows),
      ("assigned_to_me", .ofNat (ownCount ctx rows))])
  | panels =>
    let visible := registry.list.filter (·.canView ctx)
    pure (.ofFields [("count", .ofNat visible.length), ("panels", .arr (visible.map fun p =>
      .ofFields [("name", .str p.name), ("label", .str p.label)]))])
  | host run => run ctx

end Content

def Widget.draw (registry : Panel.Registry) (ctx : Context) (w : Widget) : Call Services Tile := do
  pure ⟨Text.key w.code, w.title, ← w.content.draw registry ctx⟩

end Dashboard

structure Dashboard where
  widgets : List Dashboard.Widget
  preferences : Dict Dashboard.Preferences

namespace Dashboard

def empty : Dashboard := ⟨[], .empty⟩

def resource : String := "dashboard"

def codes (d : Dashboard) : List String := d.widgets.map fun w => Text.key w.code

def register (d : Dashboard) (w : Widget) : Except Fault Dashboard :=
  let code := Text.key w.code
  if code == "" then .error (.invalid "code" "widget code is required")
  else if d.codes.contains code then .error (.alreadyExists "dashboard widget" code)
  else .ok { d with widgets := d.widgets ++ [w] }

def preferencesFor (d : Dashboard) (user : String) : Preferences :=
  if user == "" then .none else (d.preferences.get? user).getD .none

/-- The widgets in the order of a layout; those not in it keep their order behind. -/
def ordered (d : Dashboard) (p : Preferences) : List Widget :=
  d.widgets.mergeSort fun a b => p.rank (Text.key a.code) ≤ p.rank (Text.key b.code)

def shows (authorizer : Authorizer) (ctx : Context) (p : Preferences) (w : Widget) : Bool :=
  !p.hidden.contains (Text.key w.code) &&
    w.permission.all fun permission => authorizer ctx permission resource

def render (d : Dashboard) (registry : Panel.Registry) (authorizer : Authorizer) (ctx : Context) :
    Call Services (List Tile) := do
  Call.ofExcept ctx.ensureActive
  let p := d.preferencesFor ctx.userId
  ((d.ordered p).filter (shows authorizer ctx p)).mapM (Widget.draw registry ctx)

def preferencesOf (d : Dashboard) (ctx : Context) : Except Fault Preferences := do
  .ok (d.preferencesFor (← ctx.requireActor).id)

/-- Replaces the preferences of the actor; they may name registered widgets only. -/
def save (d : Dashboard) (ctx : Context) (now : Instant) (p : Preferences) :
    Except Fault (Preferences × Dashboard) := do
  ctx.ensureActive
  let actor ← ctx.requireActor
  let p := p.normalized
  match (p.layout ++ p.hidden).find? fun code => !d.codes.contains code with
  | some code => .error (.invalid "layout" ("unknown widget: " ++ code))
  | none =>
    let p := { p with updatedAt := some now }
    .ok (p, { d with preferences := d.preferences.set actor.id p })

end Dashboard

end Backoffice
