import Backoffice.Panel.Operations

namespace Backoffice

namespace Panel

structure SearchHit where
  panel : String
  id : String
  title : String
  deriving DecidableEq, Repr

def SearchHit.toJson (h : SearchHit) : Json :=
  .ofFields [("panel", .str h.panel), ("id", .str h.id), ("title", .str h.title)]

/-- The one search adapter that is shipped: it searches a panel through its list. Adapters that a host
may write are left out. -/
structure Adapter where
  panel : Panel
  titleField : String

namespace Adapter

/-- Records without an id are no hits; one without a title is titled by its id. -/
def hit? (a : Adapter) (record : Record) : Option SearchHit :=
  record.id?.map fun id => ⟨a.panel.name, id, (record.textField? a.titleField).getD id⟩

def largestPage : Nat := Nat.pow 2 32 - 1

def search (a : Adapter) (ctx : Context) (query : String) (limit : Nat) :
    Call Services (List SearchHit) := do
  let page ← a.panel.list ctx
    { ListOptions.all with search := query, perPage := max 1 (min limit largestPage) }
  pure (page.records.filterMap a.hit?)

end Adapter

structure Attachment where
  menuCode : String
  itemId : String
  deriving DecidableEq, Repr

structure Registry where
  panels : Dict Panel
  adapters : Dict Adapter
  attachments : Dict Attachment
  /-- Whether unregistering a panel deletes its menu item. -/
  dropsItems : Bool

namespace Registry

def empty (dropsItems : Bool) : Registry := ⟨.empty, .empty, .empty, dropsItems⟩

def get? (r : Registry) (name : String) : Option Panel := r.panels.get? name

def contains (r : Registry) (name : String) : Bool := r.panels.contains name

def require (r : Registry) (name : String) : Except Fault Panel :=
  match r.get? name with
  | some p => .ok p
  | none => .error (.notFound "panel" name)

def put (r : Registry) (p : Panel) : Registry := { r with panels := r.panels.set p.name p }

def register (r : Registry) (p : Panel) : Except Fault Registry :=
  if r.contains p.name then .error (.alreadyExists "panel" p.name) else .ok (r.put p)

def adapt (r : Registry) (name : String) (a : Adapter) : Registry :=
  { r with adapters := r.adapters.set name a }

def attach (r : Registry) (name : String) (a : Attachment) : Registry :=
  { r with attachments := r.attachments.set name a }

def erase (r : Registry) (name : String) : Registry :=
  { r with
    panels := r.panels.erase name
    adapters := r.adapters.erase name
    attachments := r.attachments.erase name }

def names (r : Registry) : List String := r.panels.keys

def list (r : Registry) : List Panel := r.panels.values

/-- Whether the hits of an adapter may be shown; an adapter without a panel is open to all. -/
def shows (r : Registry) (ctx : Context) (name : String) : Bool :=
  match r.get? name with
  | some p => p.canView ctx
  | none => true

def searchIn (r : Registry) (ctx : Context) (query : String) :
    Nat → List (String × Adapter) → Call Services (List SearchHit)
  | _, [] => pure []
  | limit, (name, a) :: rest => do
    Call.ofExcept ctx.ensureActive
    if r.shows ctx name then
      let hits ← a.search ctx query limit
      if limit ≤ hits.length then pure (hits.take limit)
      else pure (hits ++ (← r.searchIn ctx query (limit - hits.length) rest))
    else r.searchIn ctx query limit rest

def search (r : Registry) (ctx : Context) (query : String) (limit : Nat) :
    Call Services (List SearchHit) :=
  if Text.blank query || limit == 0 then pure []
  else r.searchIn ctx (Text.trim query) limit r.adapters.entries

end Registry

end Panel

end Backoffice
