import Backoffice.Json.Basic

namespace Backoffice

abbrev Decoder (α : Type) := Json → Option α

namespace Decode

def value : Decoder Json := some

def string : Decoder String := Json.asStr?

def bool : Decoder Bool := Json.asBool?

def record : Decoder Record := Json.asObj?

def intBetween (lo hi : Int) : Decoder Int
  | .num (.whole n) => if lo ≤ n && n ≤ hi then some n else none
  | _ => none

def natBelow (bits : Nat) : Decoder Nat := fun v =>
  (intBetween 0 (Nat.pow 2 bits - 1) v).map Int.toNat

def word : Decoder Nat := natBelow 64

def halfWord : Decoder Nat := natBelow 32

def signedHalf : Decoder Int := intBetween (-Nat.pow 2 31) (Nat.pow 2 31 - 1)

def list {α : Type} (d : Decoder α) : Decoder (List α)
  | .arr items => items.mapM d
  | _ => none

def strings : Decoder (List String) := list string

def option {α : Type} (d : Decoder α) : Decoder (Option α)
  | .null => some none
  | v => (d v).map some

def dict {α : Type} (d : Decoder α) : Decoder (Dict α)
  | .obj fields => do
    let entries ← fields.mapM fun (k, v) => (d v).map fun a => (k, a)
    some (Dict.ofList entries)
  | _ => none

/-- One of a closed list of names; also as an object with the name as its only key and `null` under
it. -/
def choice {α : Type} (names : List (String × α)) : Decoder α
  | .str s => (names.find? (·.1 == s)).map (·.2)
  | .obj [(s, .null)] => (names.find? (·.1 == s)).map (·.2)
  | _ => none

end Decode

inductive Parts where
  | named (fields : Record)
  | ordered (rest : List Json)

abbrev Reader (α : Type) := StateT Parts Option α

namespace Reader

def next (name : String) : Reader (Option Json) := fun
  | .named fields => some (Entries.get? name fields, .named fields)
  | .ordered [] => some (none, .ordered [])
  | .ordered (v :: rest) => some (some v, .ordered rest)

def required {α : Type} (name : String) (d : Decoder α) : Reader α := do
  match ← next name with
  | some v => (d v : Option α)
  | none => failure

def defaulted {α : Type} (name : String) (fallback : α) (d : Decoder α) : Reader α := do
  match ← next name with
  | some v => (d v : Option α)
  | none => pure fallback

def optional {α : Type} (name : String) (d : Decoder α) : Reader (Option α) :=
  defaulted name none (Decode.option d)

def decoder {α : Type} (r : Reader α) : Decoder α
  | .obj fields => (r (.named fields)).map (·.1)
  | .arr items =>
    match r (.ordered items) with
    | some (a, .ordered []) => some a
    | _ => none
  | _ => none

end Reader

end Backoffice
