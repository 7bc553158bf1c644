import Backoffice.Digest
import Backoffice.Json.Basic
import Backoffice.Text.Key
import Backoffice.Text.Utf8

namespace Backoffice.Http

def hexDigit? (b : UInt8) : Option Nat :=
  let n := b.toNat
  if 48 ≤ n && n ≤ 57 then some (n - 48)
  else if 65 ≤ n && n ≤ 70 then some (n - 55)
  else if 97 ≤ n && n ≤ 102 then some (n - 87)
  else none

def percentDecode : List UInt8 → List UInt8
  | a :: h :: l :: rest =>
    if a == 0x25 then
      match hexDigit? h, hexDigit? l with
      | some x, some y => UInt8.ofNat (x * 16 + y) :: percentDecode rest
      | _, _ => a :: percentDecode (h :: l :: rest)
    else a :: percentDecode (h :: l :: rest)
  | bytes => bytes

/-- The text of a percent-encoded part of a path, if it is text. -/
def pathText? (s : String) : Option String :=
  Text.Utf8.decode? (percentDecode (Digest.utf8 s))

def formText (s : String) : String :=
  Text.Utf8.decodeLossy (percentDecode (Digest.utf8 (Text.replaceChar '+' ' ' s)))

def cutAt (c : Char) (s : String) : String × Option String :=
  let cs := s.toList
  let head := cs.takeWhile (· != c)
  (String.ofList head,
    if head.length < cs.length then some (String.ofList (cs.drop (head.length + 1))) else none)

def formPairs (query : String) : List (String × String) :=
  ((Text.splitAt '&' query).filter (· != "")).map fun pair =>
    let (name, value) := cutAt '=' pair
    (formText name, formText (value.getD ""))

def formDict (pairs : List (String × String)) : Dict String := Dict.ofList pairs

def formFields? (known : List String) (pairs : List (String × String)) : Option Record :=
  let own := pairs.filter fun (name, _) => known.contains name
  if own.length == (formDict own).entries.length then
    some (Entries.ofList (own.map fun (name, value) => (name, .str value)))
  else none

def number? (bits : Nat) (s : String) : Option Nat :=
  let ds := match s.toList with
    | '+' :: rest => rest
    | cs => cs
  let n := ds.foldl (fun n c => n * 10 + (c.toNat - 48)) 0
  if ds.isEmpty || !ds.all Char.isDigit || Nat.pow 2 bits ≤ n then none else some n

end Backoffice.Http
