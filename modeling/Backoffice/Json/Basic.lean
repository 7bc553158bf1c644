import Backoffice.Dict
import Backoffice.Number.Layout

namespace Backoffice

/-- A number of a JSON text: a whole number of 64 bits, or a floating point number. -/
inductive Number where
  | whole (n : Int)
  | real (x : Binary64)
  deriving DecidableEq, Repr

namespace Number

def toBinary64 : Number → Binary64
  | whole n => .ofInt n
  | real x => x

/-- Numbers are equal within their kind; the two zeros are equal. -/
def same : Number → Number → Bool
  | whole m, whole n => m == n
  | real x, real y => x.cmp y == .eq
  | _, _ => false

/-- Plain digits while the first digit's power of ten is between -5 and 15, else an exponent with
its sign; a whole value keeps one decimal. -/
def layout : NumberLayout := ⟨-5, 15, ".0", "+"⟩

def text : Number → String
  | whole n => toString n
  | real x => layout.write x

end Number

inductive Json where
  | null
  | bool (b : Bool)
  | num (n : Number)
  | str (s : String)
  | arr (items : List Json)
  | obj (fields : List (String × Json))
  deriving Inhabited

abbrev Record := List (String × Json)

namespace Json

mutual

def same : Json → Json → Bool
  | null, null => true
  | bool a, bool b => a == b
  | num m, num n => m.same n
  | str s, str t => s == t
  | arr xs, arr ys => sameItems xs ys
  | obj xs, obj ys => sameFields xs ys
  | _, _ => false

def sameItems : List Json → List Json → Bool
  | [], [] => true
  | x :: xs, y :: ys => same x y && sameItems xs ys
  | _, _ => false

def sameFields : List (String × Json) → List (String × Json) → Bool
  | [], [] => true
  | (k, x) :: xs, (l, y) :: ys => k == l && same x y && sameFields xs ys
  | _, _ => false

end

def ofFields (fields : List (String × Json)) : Json := obj (Entries.ofList fields)

mutual

/-- The value with the members of its objects in order, the last of each key. -/
def tidy : Json → Json
  | arr items => arr (tidyItems items)
  | obj fields => ofFields (tidyFields fields)
  | v => v

def tidyItems : List Json → List Json
  | [] => []
  | v :: rest => tidy v :: tidyItems rest

def tidyFields : List (String × Json) → List (String × Json)
  | [] => []
  | (k, v) :: rest => (k, tidy v) :: tidyFields rest

end

def ofNat (n : Nat) : Json := num (.whole n)

def ofInt (n : Int) : Json := num (.whole n)

def ofStrings (items : List String) : Json := arr (items.map str)

def ofOption {α : Type} (f : α → Json) : Option α → Json
  | none => null
  | some a => f a

def ofDict {α : Type} (f : α → Json) (d : Dict α) : Json :=
  obj (d.entries.map fun (k, v) => (k, f v))

def optional {α : Type} (name : String) (f : α → Json) : Option α → List (String × Json)
  | none => []
  | some a => [(name, f a)]

def get? (k : String) : Json → Option Json
  | obj fields => Entries.get? k fields
  | _ => none

def asBool? : Json → Option Bool
  | bool b => some b
  | _ => none

def asStr? : Json → Option String
  | str s => some s
  | _ => none

def asArr? : Json → Option (List Json)
  | arr items => some items
  | _ => none

def asObj? : Json → Option Record
  | obj fields => some fields
  | _ => none

def asStrings (v : Json) : List String :=
  (v.asArr?.getD []).filterMap asStr?

def isNull : Json → Bool
  | null => true
  | _ => false

end Json

end Backoffice
