import Backoffice.Call
import Backoffice.Context
import Backoffice.Record

namespace Backoffice

/-- What to list; pages count from one, and a page size of zero is the repository's own. -/
structure ListOptions where
  page : Nat
  perPage : Nat
  sortBy : Option String
  descending : Bool
  filters : Record
  search : String

namespace ListOptions

def all : ListOptions := ⟨0, 0, none, false, [], ""⟩

def decode : Decoder ListOptions := Reader.decoder do
  let page ← Reader.defaulted "page" 0 Decode.halfWord
  let perPage ← Reader.defaulted "per_page" 0 Decode.halfWord
  let sortBy ← Reader.optional "sort_by" Decode.string
  let descending ← Reader.defaulted "sort_desc" false Decode.bool
  let filters ← Reader.defaulted "filters" [] Decode.record
  let search ← Reader.defaulted "search" "" Decode.string
  pure ⟨page, perPage, sortBy, descending, filters, search⟩

def window (o : ListOptions) (defaultPerPage : Nat) : Nat × Nat :=
  let size := if o.perPage == 0 then defaultPerPage else o.perPage
  ((max o.page 1 - 1) * size, size)

end ListOptions

structure Listing where
  records : List Record
  total : Nat

def Listing.toJson (l : Listing) : Json :=
  .ofFields [("records", .arr (l.records.map .obj)), ("total", .ofNat l.total)]

structure Repository where
  resource : String
  records : Dict Record
  defaultPerPage : Nat

namespace Repository

def searchKey : String := "_search"

def new (resource : String) : Repository := ⟨resource, .empty, 25⟩

def withPageSize (r : Repository) (size : Nat) : Repository := { r with defaultPerPage := max size 1 }

def size (r : Repository) : Nat := r.records.entries.length

def matchesSearch (needle : String) (record : Record) : Bool :=
  record.any fun (_, v) =>
    match v with
    | .str s => Text.contains (Text.lower s) needle
    | _ => false

/-- A text filter compares with the field as text, without regard to ASCII case; others want equality,
and `null` also accepts a missing field. -/
def matchesFilter (record : Record) (key : String) (expected : Json) : Bool :=
  match record.field? key, expected with
  | some actual, .str s =>
    match actual.scalarText? with
    | some text => Text.sameIgnoringCase text s
    | none => false
  | some actual, _ => actual.same expected
  | none, .null => true
  | none, _ => false

/-- Two numbers by value, everything else as text, with what has no text first. -/
def compareField (field : String) (a b : Record) : Ordering :=
  match a.field? field, b.field? field with
  | some (.num m), some (.num n) => m.toBinary64.cmp n.toBinary64
  | _, _ =>
    match a.textField? field, b.textField? field with
    | none, none => .eq
    | none, some _ => .lt
    | some _, none => .gt
    | some s, some t => compare s t

/-- Puts `x` behind the last of the records that are not larger; `sorted` holds the last first. -/
def insertBack (lt : Record → Record → Bool) (x : Record) : List Record → List Record
  | [] => [x]
  | y :: rest => if lt x y then y :: insertBack lt x rest else x :: y :: rest

def sortRecords (lt : Record → Record → Bool) (records : List Record) : List Record :=
  (records.foldl (fun sorted x => insertBack lt x sorted) []).reverse

def needle (o : ListOptions) : String :=
  match Entries.get? searchKey o.filters with
  | some (.str s) => Text.key s
  | _ => Text.key o.search

def selected (r : Repository) (o : ListOptions) : List Record :=
  let needle := needle o
  let filters := o.filters.filter fun (k, _) => k != searchKey
  r.records.values.filter fun record =>
    (needle == "" || matchesSearch needle record) &&
      filters.all fun (k, v) => matchesFilter record k v

def sorted (r : Repository) (o : ListOptions) : List Record :=
  match o.sortBy with
  | none => r.selected o
  | some field =>
    if field == "" then r.selected o
    else
      let lt (a b : Record) : Bool :=
        if o.descending then compareField field a b == .gt else compareField field a b == .lt
      sortRecords lt (r.selected o)

def list (r : Repository) (ctx : Context) (o : ListOptions) : Except Fault Listing := do
  ctx.ensureActive
  let all := r.sorted o
  let (offset, limit) := o.window r.defaultPerPage
  .ok ⟨(all.drop offset).take limit, all.length⟩

def get (r : Repository) (ctx : Context) (id : String) : Except Fault Record := do
  ctx.ensureActive
  match r.records.get? id with
  | some record => .ok record
  | none => .error (.notFound r.resource id)

def create (r : Repository) (ctx : Context) (fresh : String) (record : Record) :
    Except Fault (Record × Repository) := do
  ctx.ensureActive
  let id := match record.id? with
    | some id => if Text.blank id then fresh else id
    | none => fresh
  let record := Entries.set "id" (.str id) record
  if r.records.contains id then .error (.alreadyExists r.resource id)
  .ok (record, { r with records := r.records.set id record })

def update (r : Repository) (ctx : Context) (id : String) (patch : Record) :
    Except Fault (Record × Repository) := do
  let stored ← r.get ctx id
  let merged := stored.merge (patch.filter fun (k, _) => k != "id")
  .ok (merged, { r with records := r.records.set id merged })

def delete (r : Repository) (ctx : Context) (id : String) : Except Fault Repository := do
  let _ ← r.get ctx id
  .ok { r with records := r.records.erase id }

end Repository

end Backoffice
