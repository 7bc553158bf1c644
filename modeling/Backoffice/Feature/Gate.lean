import Backoffice.Feature.Scope

namespace Backoffice.Feature

structure Override where
  scope : Scope
  key : String
  enabled : Bool
  deriving DecidableEq, Repr

structure Gate where
  defaults : Dict Bool
  /-- `none` for a gate that takes no overrides. -/
  overrides : Option (List Override)

namespace Gate

/-- The defaults under their normalised keys; the last of several spellings wins. -/
def normalizeDefaults (flags : List (String × Bool)) : Except Fault (Dict Bool) := do
  flags.forM fun (key, _) => checkKey key
  .ok (Dict.ofList (flags.map fun (key, on) => (Text.key key, on)))

def fixed (flags : List (String × Bool)) : Except Fault Gate := do
  .ok ⟨← normalizeDefaults flags, none⟩

def layered (flags : List (String × Bool)) : Except Fault Gate := do
  .ok ⟨← normalizeDefaults flags, some []⟩

def defaultFor (g : Gate) (key : String) : Bool :=
  (g.defaults.get? (Text.key key)).getD false

def overrideAt (g : Gate) (key : String) (scope : Scope) : Option Bool :=
  ((g.overrides.getD []).find? fun o => o.scope == scope && o.key == Text.key key).map (·.enabled)

def resolve (g : Gate) (key : String) (chain : Chain) : Bool :=
  (chain.findSome? (g.overrideAt key)).getD (g.defaultFor key)

/-- The value of a key for a request, along a given chain or its actor's own. -/
def enabled (g : Gate) (ctx : Context) (key : String) (chain : Option Chain) : Except Fault Bool := do
  ctx.ensureActive
  .ok (g.resolve key (chain.getD (Chain.ofContext ctx)))

def isEnabled (g : Gate) (ctx : Context) (key : String) : Except Fault Bool :=
  g.enabled ctx key none

def require (g : Gate) (ctx : Context) (key : String) : Except Fault Unit := do
  if ← g.isEnabled ctx key then .ok () else .error (.featureDisabled key none)

def without (overrides : List Override) (key : String) (scope : Scope) : List Override :=
  overrides.filter fun o => !(o.scope == scope && o.key == Text.key key)

def change (g : Gate) (ctx : Context) (operation key : String)
    (f : List Override → List Override) : Except Fault Gate := do
  checkKey key
  match g.overrides with
  | none => .error (.unsupported "feature gate" operation)
  | some overrides =>
    ctx.ensureActive
    .ok { g with overrides := some (f overrides) }

def set (g : Gate) (ctx : Context) (key : String) (scope : Scope) (on : Bool) : Except Fault Gate :=
  g.change ctx "set" key fun os => ⟨scope, Text.key key, on⟩ :: without os key scope

def unset (g : Gate) (ctx : Context) (key : String) (scope : Scope) : Except Fault Gate :=
  g.change ctx "unset" key fun os => without os key scope

end Gate

end Backoffice.Feature
