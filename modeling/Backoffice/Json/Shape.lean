import Backoffice.Instant

namespace Backoffice

mutual

inductive Shape where
  | text
  | flag
  | whole (lo hi : Int)
  | instant
  | record
  | choice (names : List String)
  | option (s : Shape)
  | list (s : Shape)
  | struct (fields : Fields)
  /-- Given by an object that holds the fields of two structures. -/
  | merged (own rest : Fields)

inductive Fields where
  | done
  | field (name : String) (required : Bool) (s : Shape) (rest : Fields)

end

namespace Fields

def required (name : String) (s : Shape) (rest : Fields) : Fields := .field name true s rest

def defaulted (name : String) (s : Shape) (rest : Fields) : Fields := .field name false s rest

def optional (name : String) (s : Shape) (rest : Fields) : Fields := defaulted name (.option s) rest

def find? (name : String) : Fields → Option Shape
  | done => none
  | field n _ s rest => if n == name then some s else rest.find? name

def completed (members : Record) : Fields → Bool
  | done => true
  | field n required _ rest => (!required || members.any (·.1 == n)) && rest.completed members

end Fields

namespace Shape

def word : Shape := .whole 0 (Nat.pow 2 64 - 1)

def halfWord : Shape := .whole 0 (Nat.pow 2 32 - 1)

def chosen? : Json → Option String
  | .str s => some s
  | .obj [(s, .null)] => some s
  | .obj [(s, .obj [])] => some s
  | _ => none

end Shape

mutual

def Shape.settle : Shape → Json → Option Json
  | .text, v => v.asStr?.map .str
  | .flag, v => v.asBool?.map .bool
  | .whole lo hi, v => (Decode.intBetween lo hi v).map .ofInt
  | .instant, v => (Instant.decode v).map fun _ => v
  | .record, v => v.asObj?.map fun fields => (Json.obj fields).tidy
  | .choice names, v => ((Shape.chosen? v).filter names.contains).map .str
  | .option _, .null => some .null
  | .option s, v => s.settle v
  | .list s, v => do
    let items ← v.asArr?
    let items ← items.mapM s.settle
    some (.arr items)
  | .struct fields, .obj members => (fields.settleNamed members).map .ofFields
  | .struct fields, .arr items => (fields.settleOrdered items).map .ofFields
  | .struct _, _ => none
  | .merged own rest, v => do
    let members ← v.asObj?
    let own ← own.settleNamed members
    let rest ← rest.settleNamed members
    some (.ofFields (own ++ rest))

def Fields.settleNamed : Fields → Record → Option Record
  | .done, _ => some []
  | .field name required s rest, members => do
    let others ← rest.settleNamed members
    match members.filter (·.1 == name) with
    | [] => if required then none else some others
    | [(_, v)] => do
      let v ← s.settle v
      some ((name, v) :: others)
    | _ => none

def Fields.settleOrdered : Fields → List Json → Option Record
  | .done, [] => some []
  | .done, _ :: _ => none
  | .field _ required _ rest, [] => if required then none else rest.settleOrdered []
  | .field name _ s rest, v :: items => do
    let v ← s.settle v
    let others ← rest.settleOrdered items
    some ((name, v) :: others)

end

end Backoffice
