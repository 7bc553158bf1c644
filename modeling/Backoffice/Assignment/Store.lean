import Backoffice.Assignment.Basic
import Backoffice.Context
import Backoffice.Version

namespace Backoffice.Assignment

structure Store where
  rows : Dict Assignment

namespace Store

def empty : Store := ⟨.empty⟩

def checkUnique (s : Store) (a : Assignment) : Except Fault Unit :=
  if !a.isOpen then .ok ()
  else match s.rows.values.find? fun row => row.id != a.id && row.isOpen && row.work == a.work with
    | some row => .error (.assignmentTaken row.id a.work.text)
    | none => .ok ()

def get (s : Store) (ctx : Context) (id : String) : Except Fault Assignment := do
  ctx.ensureActive
  match s.rows.get? id with
  | some a => .ok a
  | none => .error (.notFound "translation assignment" id)

def write (s : Store) (a : Assignment) : Store := ⟨s.rows.set a.id a⟩

def insert (s : Store) (ctx : Context) (a : Assignment) : Except Fault (Assignment × Store) := do
  ctx.ensureActive
  if s.rows.contains a.id then .error (.alreadyExists "translation assignment" a.id)
  s.checkUnique a
  .ok (a, s.write a)

def isReplay (current a : Assignment) : Bool :=
  a.lastKey.isSome && current.lastKey == a.lastKey && current.lastOperation == a.lastOperation

/-- Replaces a row based on version `expected`; a replay answers the stored row. -/
def replace (s : Store) (ctx : Context) (a : Assignment) (expected : Nat) :
    Except Fault (Assignment × Store) := do
  let current ← s.get ctx a.id
  if isReplay current a then .ok (current, s)
  else
    let version ← Version.next expected current.version
      (.staleAssignment current.id expected current.version)
    let stored := { a with version, createdAt := current.createdAt }
    s.checkUnique stored
    .ok (stored, s.write stored)

def listingOrder (a b : Assignment) : Ordering :=
  (compare b.priority.rank a.priority.rank).then <|
    (compare a.createdAt b.createdAt).then (compare a.id b.id)

def list (s : Store) (ctx : Context) (f : Filter) : Except Fault (List Assignment) := do
  ctx.ensureActive
  .ok ((s.rows.values.filter f.accepts).mergeSort fun a b => (listingOrder a b).isLE)

end Store

end Backoffice.Assignment
