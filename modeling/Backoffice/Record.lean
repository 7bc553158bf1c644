import Backoffice.Fault
import Backoffice.Text.Key

namespace Backoffice

namespace Json

def scalarText? : Json → Option String
  | str s => some s
  | num n => some n.text
  | bool true => some "true"
  | bool false => some "false"
  | _ => none

def truthWord? (s : String) : Option Bool :=
  match Text.key s with
  | "true" | "1" | "yes" | "on" => some true
  | "false" | "0" | "no" | "off" => some false
  | _ => none

/-- Truth values, their spellings, and signed whole numbers that are or are not zero. -/
def truth? : Json → Option Bool
  | bool b => some b
  | str s => truthWord? s
  | num (.whole n) => if n < Nat.pow 2 63 then some (n != 0) else none
  | _ => none

def kind : Json → String
  | null => "null"
  | bool _ => "boolean"
  | num _ => "number"
  | str _ => "string"
  | arr _ => "array"
  | obj _ => "object"

end Json

namespace Record

def field? (r : Record) (key : String) : Option Json := Entries.get? key r

def strField? (r : Record) (key : String) : Option String := (r.field? key).bind Json.asStr?

def textField? (r : Record) (key : String) : Option String := (r.field? key).bind Json.scalarText?

def truthField? (r : Record) (key : String) : Option Bool := (r.field? key).bind Json.truth?

def id? (r : Record) : Option String := r.textField? "id"

def ofJson (v : Json) : Except Fault Record :=
  match v with
  | .obj fields => .ok fields
  | other => .error (.internal ("expected an object, got " ++ other.kind))

/-- `r` with the fields of `patch` put over its own. -/
def merge (r patch : Record) : Record :=
  patch.foldl (fun acc (k, v) => Entries.set k v acc) r

end Record

end Backoffice
