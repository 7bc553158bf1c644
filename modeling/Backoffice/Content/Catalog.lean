import Backoffice.Call
import Backoffice.Content.Type

namespace Backoffice.ContentType

structure Catalog where
  types : Dict ContentType

inductive Event where
  | created (c : ContentType)
  | updated (c : ContentType)
  | deleted (c : ContentType)

namespace Catalog

def empty : Catalog := ⟨.empty⟩

def checkSlug (cat : Catalog) (c : ContentType) : Except Fault Unit :=
  if cat.types.values.any fun e => e.id != c.id && e.slug == c.slug && e.environment == c.environment
  then .error (.alreadyExists "content type" c.slug)
  else .ok ()

def write (cat : Catalog) (c : ContentType) : Catalog := ⟨cat.types.set c.id c⟩

def get (cat : Catalog) (ctx : Context) (id : String) : Except Fault ContentType := do
  ctx.ensureActive
  match cat.types.get? id with
  | some c => .ok c
  | none => .error (.notFound "content type" id)

def create (cat : Catalog) (ctx : Context) (now : Instant) (fresh : String) (c : ContentType) :
    Except Fault (ContentType × Catalog) := do
  ctx.ensureActive
  let c ← c.normalized
  let c := { c with id := if Text.blank c.id then fresh else c.id, createdAt := now, updatedAt := now }
  if cat.types.contains c.id then .error (.alreadyExists "content type" c.id)
  cat.checkSlug c
  .ok (c, cat.write c)

/-- Replaces a content type; the time of its creation stays. -/
def update (cat : Catalog) (ctx : Context) (now : Instant) (c : ContentType) :
    Except Fault (ContentType × Catalog) := do
  ctx.ensureActive
  let c ← c.normalized
  let current ← cat.get ctx c.id
  let c := { c with createdAt := current.createdAt, updatedAt := now }
  cat.checkSlug c
  .ok (c, cat.write c)

def delete (cat : Catalog) (ctx : Context) (id : String) : Except Fault (ContentType × Catalog) := do
  let c ← cat.get ctx id
  .ok (c, ⟨cat.types.erase id⟩)

def list (cat : Catalog) (ctx : Context) : Except Fault (List ContentType) := do
  ctx.ensureActive
  .ok (cat.types.values.mergeSort fun a b =>
    ((compare a.slug b.slug).then (compare a.environment b.environment)).isLE)

end Catalog

end Backoffice.ContentType
