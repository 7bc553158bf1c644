import Backoffice.Menu
import Backoffice.Panel.Registry

namespace Backoffice

/-- A content type has its panel in an environment under a slug. -/
structure Reservation where
  environment : String
  typeId : String
  slug : String
  deriving DecidableEq, Repr

namespace Reservation

def isOf (environment typeId : String) (r : Reservation) : Bool :=
  r.environment == environment && r.typeId == typeId

end Reservation

structure Site where
  registry : Panel.Registry
  menus : Menu.Service
  /-- At most one for each environment and content type. -/
  slugs : List Reservation

namespace Site

def slug? (s : Site) (environment typeId : String) : Option String :=
  (s.slugs.find? (·.isOf environment typeId)).map (·.slug)

def isTaken (s : Site) (environment typeId slug : String) : Bool :=
  s.slugs.any fun r => r.environment == environment && r.slug == slug && r.typeId != typeId

def withSlug (s : Site) (environment typeId : String) (slug : Option String) : Site :=
  { s with slugs := s.slugs.filter (fun r => !r.isOf environment typeId) ++
      slug.toList.map fun slug => ⟨environment, typeId, slug⟩ }

/-- Reserves a slug unless another content type has it; answers the slug reserved before. -/
def reserve (environment typeId slug : String) : Call Site (Option String) :=
  Call.atomic fun s =>
    if s.isTaken environment typeId slug then
      .error (.conflict ("panel slug already registered: " ++ slug))
    else .ok (s.slug? environment typeId, s.withSlug environment typeId (some slug))

/-- Puts back what was reserved before. -/
def release (environment typeId : String) (previous : Option String) : Call Site Unit :=
  Call.change fun s => s.withSlug environment typeId previous

def onRegistry (f : Panel.Registry → Panel.Registry) : Call Site Unit :=
  Call.change fun s => { s with registry := f s.registry }

def onMenus (f : Menu.Service → Except Fault Menu.Service) : Call Site Unit :=
  Call.update fun s => do .ok { s with menus := ← f s.menus }

/-- Removes a panel with its adapter and its menu item; answers whether there was a panel. A menu item
that is gone already is no fault. -/
def unregister (ctx : Context) (name : String) : Call Site Bool := do
  let registry ← Call.reads (·.registry)
  onRegistry (·.erase name)
  match registry.attachments.get? name with
  | some a => if registry.dropsItems then onMenus (·.dropItem ctx a.menuCode a.itemId)
  | none => pure ()
  pure (registry.contains name)

end Site

end Backoffice
