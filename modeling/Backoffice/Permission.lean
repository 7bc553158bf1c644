import Backoffice.Context

namespace Backoffice

structure PermissionSet where
  view : String
  create : String
  edit : String
  delete : String
  deriving DecidableEq, Repr

namespace PermissionSet

def empty : PermissionSet := ⟨"", "", "", ""⟩

def ofBase (base : String) : PermissionSet :=
  let base := Text.trimEndOf '.' (Text.trim base)
  ⟨base ++ ".view", base ++ ".create", base ++ ".edit", base ++ ".delete"⟩

/-- Blank permissions taken from `fallback`. -/
def or (p fallback : PermissionSet) : PermissionSet :=
  let pick (own other : String) : String := if Text.blank own then other else own
  ⟨pick p.view fallback.view, pick p.create fallback.create, pick p.edit fallback.edit,
    pick p.delete fallback.delete⟩

def decode : Decoder PermissionSet := Reader.decoder do
  let view ← Reader.required "view" Decode.string
  let create ← Reader.required "create" Decode.string
  let edit ← Reader.required "edit" Decode.string
  let delete ← Reader.required "delete" Decode.string
  pure ⟨view, create, edit, delete⟩

def toJson (p : PermissionSet) : Json :=
  .ofFields [("view", .str p.view), ("create", .str p.create), ("edit", .str p.edit),
    ("delete", .str p.delete)]

end PermissionSet

abbrev Authorizer := Context → String → String → Bool

namespace Authorizer

def allowAll : Authorizer := fun _ _ _ => true

def denyAll : Authorizer := fun _ _ _ => false

def granting (actions : List String) : Authorizer := fun _ action _ => actions.contains action

/-- Grants by user, with those of `*` for everyone; a grant is an action, or an action at a
resource. -/
def byUser (grants : Dict (List String)) : Authorizer := fun ctx action resource =>
  let own := (grants.get? ctx.userId).getD [] ++ (grants.get? "*").getD []
  own.contains action || own.contains (action ++ "@" ++ resource)

def require (a : Authorizer) (ctx : Context) (action resource : String) : Except Fault Unit :=
  if a ctx action resource then .ok () else .error (.forbidden action resource)

end Authorizer

end Backoffice
