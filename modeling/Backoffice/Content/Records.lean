import Backoffice.Content.Type
import Backoffice.Repository

namespace Backoffice

structure ContentRecords where
  partitions : Dict Repository
  readOnly : Bool

namespace ContentRecords

def empty : ContentRecords := ⟨.empty, false⟩

def partition (c : ContentType) : Call ContentRecords Repository := do
  let s ← Call.state
  match s.partitions.get? c.id with
  | some r => pure r
  | none =>
    let r := Repository.new c.slug
    Call.put { s with partitions := s.partitions.set c.id r }
    pure r

def store (c : ContentType) (r : Repository) : Call ContentRecords Unit :=
  Call.change fun s => { s with partitions := s.partitions.set c.id r }

def writing {α : Type} (c : ContentType) (operation : String)
    (f : Repository → Except Fault (α × Repository)) : Call ContentRecords α := do
  if (← Call.state).readOnly then throw (.unsupported c.slug operation)
  let r ← partition c
  let (a, r) ← Call.ofExcept (f r)
  store c r
  pure a

def list (ctx : Context) (c : ContentType) (o : ListOptions) : Call ContentRecords Listing := do
  Call.ofExcept ((← partition c).list ctx o)

def get (ctx : Context) (c : ContentType) (id : String) : Call ContentRecords Record := do
  Call.ofExcept ((← partition c).get ctx id)

/-- Only creations are checked for required fields. -/
def create (ctx : Context) (c : ContentType) (record : Record) : Call ContentRecords Record := do
  Call.ofExcept (c.checkRequired record)
  let fresh ← Call.fresh
  writing c "create" fun r => r.create ctx fresh record

def update (ctx : Context) (c : ContentType) (id : String) (patch : Record) :
    Call ContentRecords Record :=
  writing c "update" fun r => r.update ctx id patch

def delete (ctx : Context) (c : ContentType) (id : String) : Call ContentRecords Unit :=
  writing c "delete" fun r => do .ok ((), ← r.delete ctx id)

end ContentRecords

end Backoffice
