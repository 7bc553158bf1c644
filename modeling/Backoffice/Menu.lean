import Backoffice.Context
import Backoffice.Call
import Backoffice.Digest

namespace Backoffice

namespace Menu

structure Target where
  kind : String
  path : String
  key : String
  panelKey : Option String
  deriving DecidableEq, Repr

namespace Target

def panel (path key panelKey : String) : Target := ⟨"panel", path, key, some panelKey⟩

def url (path : String) : Target := ⟨"url", path, "", none⟩

def isGroup (t : Target) : Bool := Text.key t.kind == "group"

def plainPath (t : Target) : String := Text.trimEndOf '/' (Text.trim t.path)

def normalized (t : Target) : String := Text.key t.kind ++ ":" ++ t.plainPath ++ ":" ++ Text.key t.key

def decode : Decoder Target := Reader.decoder do
  let kind ← Reader.required "type" Decode.string
  let path ← Reader.defaulted "path" "" Decode.string
  let key ← Reader.defaulted "key" "" Decode.string
  let panelKey ← Reader.optional "panel_key" Decode.string
  pure ⟨kind, path, key, panelKey⟩

def toJson (t : Target) : Json :=
  .ofFields ([("type", .str t.kind), ("path", .str t.path), ("key", .str t.key)] ++
    Json.optional "panel_key" .str t.panelKey)

end Target

/-- The bytes that identify an item: every part ends with a unit separator. -/
def keyBytes (code label : String) (target : Target) (parent : Option String) : List UInt8 :=
  [Text.key code, Text.key label, target.normalized, Text.trim (parent.getD "")].flatMap fun part =>
    Digest.utf8 part ++ [0x1F]

def keyLength : Nat := 32

def canonicalKey (code label : String) (target : Target) (parent : Option String) : String :=
  String.ofList ((Digest.hex (keyBytes code label target parent)).toList.take keyLength)

structure Item where
  id : String
  label : String
  target : Target
  permissions : List String
  position : Option Int
  locale : String
  menuCode : String
  parentId : Option String
  deriving DecidableEq, Repr

namespace Item

def new (menuCode label : String) (target : Target) : Item :=
  ⟨"", label, target, [], none, "", menuCode, none⟩

def decode : Decoder Item := Reader.decoder do
  let id ← Reader.defaulted "id" "" Decode.string
  let label ← Reader.required "label" Decode.string
  let target ← Reader.required "target" Target.decode
  let permissions ← Reader.defaulted "permissions" [] Decode.strings
  let position ← Reader.optional "position" Decode.signedHalf
  let locale ← Reader.defaulted "locale" "" Decode.string
  let menuCode ← Reader.defaulted "menu_code" "" Decode.string
  let parentId ← Reader.optional "parent_id" Decode.string
  pure ⟨id, label, target, permissions, position, locale, menuCode, parentId⟩

def toJson (i : Item) : Json :=
  .ofFields ([("id", .str i.id), ("label", .str i.label), ("target", i.target.toJson),
    ("permissions", .ofStrings i.permissions), ("locale", .str i.locale),
    ("menu_code", .str i.menuCode)] ++ Json.optional "position" .ofInt i.position ++
    Json.optional "parent_id" .str i.parentId)

def canonicalKey (i : Item) : String := Menu.canonicalKey i.menuCode i.label i.target i.parentId

/-- An item without id under its canonical key. -/
def withId (i : Item) : Item :=
  if Text.blank i.id then { i with id := i.canonicalKey } else i

def lastPosition : Int := Nat.pow 2 31 - 1

def order (a b : Item) : Ordering :=
  (compare (a.position.getD lastPosition) (b.position.getD lastPosition)).then <|
    (compare a.label b.label).then (compare a.id b.id)

def sort (items : List Item) : List Item := items.mergeSort fun a b => (order a b).isLE

end Item

end Menu

structure Menu where
  code : String
  items : List Menu.Item
  deriving DecidableEq, Repr

namespace Menu

def item? (m : Menu) (id : String) : Option Item := m.items.find? (·.id == id)

def toJson (m : Menu) : Json :=
  .ofFields [("code", .str m.code), ("items", .arr (m.items.map (·.toJson)))]

inductive Method where
  | getMenu
  | createMenu
  | addItem
  | updateItem
  | deleteItem
  | listItems
  deriving DecidableEq, Repr

def Method.name : Method → String
  | .getMenu => "get_menu"
  | .createMenu => "create_menu"
  | .addItem => "add_item"
  | .updateItem => "update_item"
  | .deleteItem => "delete_item"
  | .listItems => "list_items"

/-- Menus by code, and the faults with which calls are answered while the service is down. -/
structure Service where
  menus : Dict Menu
  outages : Dict Fault

namespace Service

def empty : Service := ⟨.empty, .empty⟩

def allow (s : Service) (ctx : Context) (m : Method) : Except Fault Unit := do
  match s.outages.get? m.name with
  | some f => .error f
  | none => ctx.ensureActive

def find (s : Service) (code : String) : Except Fault Menu :=
  match s.menus.get? (Text.key code) with
  | some m => .ok m
  | none => .error (.notFound "menu" code)

def getMenu (s : Service) (ctx : Context) (code : String) : Except Fault Menu := do
  s.allow ctx .getMenu
  s.find code

def listItems (s : Service) (ctx : Context) (code : String) : Except Fault (List Item) := do
  s.allow ctx .listItems
  .ok (← s.find code).items

def createMenu (s : Service) (ctx : Context) (code : String) : Except Fault (Menu × Service) := do
  s.allow ctx .createMenu
  let code := Text.key code
  if code == "" then .error (.invalid "code" "menu code is required")
  if s.menus.contains code then .error (.alreadyExists "menu" code)
  .ok (⟨code, []⟩, { s with menus := s.menus.set code ⟨code, []⟩ })

def store (s : Service) (code : String) (m : Menu) (items : List Item) : Service :=
  { s with menus := s.menus.set (Text.key code) { m with items := Item.sort items } }

def addItem (s : Service) (ctx : Context) (i : Item) : Except Fault (Item × Service) := do
  s.allow ctx .addItem
  if Text.blank i.label then .error (.invalid "label" "menu item label is required")
  let i := i.withId
  let m ← s.find i.menuCode
  if (m.item? i.id).isSome then .error (.alreadyExists "menu item" i.id)
  .ok (i, s.store i.menuCode m (m.items ++ [i]))

def replaceFirst (i : Item) : List Item → List Item
  | [] => []
  | j :: rest => if j.id == i.id then i :: rest else j :: replaceFirst i rest

def updateItem (s : Service) (ctx : Context) (i : Item) : Except Fault (Item × Service) := do
  s.allow ctx .updateItem
  let m ← s.find i.menuCode
  if (m.item? i.id).isNone then .error (.notFound "menu item" i.id)
  .ok (i, s.store i.menuCode m (replaceFirst i m.items))

def deleteItem (s : Service) (ctx : Context) (code id : String) : Except Fault Service := do
  s.allow ctx .deleteItem
  let m ← s.find code
  if (m.item? id).isNone then .error (.notFound "menu item" id)
  .ok { s with menus := s.menus.set (Text.key code) { m with items := m.items.filter (·.id != id) } }

def dropItem (s : Service) (ctx : Context) (code id : String) : Except Fault Service :=
  match s.deleteItem ctx code id with
  | .ok s' => .ok s'
  | .error f => if f.isNotFound then .ok s else .error f

def ensureMenu (s : Service) (ctx : Context) (code : String) : Except Fault Service :=
  match s.getMenu ctx code with
  | .ok _ => .ok s
  | .error f =>
    if f.isNotFound then
      match s.createMenu ctx code with
      | .ok (_, s') => .ok s'
      | .error g => if g.isAlreadyExists then .ok s else .error g
    else .error f

end Service

end Menu

end Backoffice
