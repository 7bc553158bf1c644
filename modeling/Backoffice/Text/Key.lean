import Backoffice.Text.Blank
import Backoffice.Text.Case

namespace Backoffice.Text

/-- Names are compared trimmed and in lower case. -/
def key (s : String) : String :=
  lower (trim s)

def splitChars (p : Char → Bool) : List Char → List (List Char)
  | [] => [[]]
  | c :: rest =>
    if p c then [] :: splitChars p rest
    else match splitChars p rest with
      | [] => [[c]]
      | piece :: pieces => (c :: piece) :: pieces

def splitBy (p : Char → Bool) (s : String) : List String :=
  (splitChars p s.toList).map String.ofList

def splitAt (c : Char) (s : String) : List String :=
  splitBy (· == c) s

def replaceChar (a b : Char) (s : String) : String :=
  String.ofList (s.toList.map fun c => if c == a then b else c)

def startsWithChars : List Char → List Char → Bool
  | [], _ => true
  | _ :: _, [] => false
  | a :: p, b :: cs => a == b && startsWithChars p cs

def containsChars (needle : List Char) : List Char → Bool
  | [] => needle.isEmpty
  | c :: cs => startsWithChars needle (c :: cs) || containsChars needle cs

def contains (s needle : String) : Bool :=
  containsChars needle.toList s.toList

def startsWith (s start : String) : Bool :=
  startsWithChars start.toList s.toList

def capitalize (s : String) : String :=
  match s.toList with
  | [] => ""
  | c :: cs => String.ofList (upperChar c ++ cs)

def humanize (name : String) : String :=
  " ".intercalate
    (((splitBy (fun c => c == '_' || c == '-') name).filter (· != "")).map capitalize)

def distinctKeys (items : List String) : List String :=
  items.foldl (fun seen item =>
    let k := key item
    if k == "" || seen.contains k then seen else seen ++ [k]) []

end Backoffice.Text
