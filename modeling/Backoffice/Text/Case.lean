import Backoffice.Text.CaseTable

namespace Backoffice.Text

def inRanges (n : Nat) : List (Nat × Nat) → Bool
  | [] => false
  | (lo, hi) :: rest => if n < lo then false else if n ≤ hi then true else inRanges n rest

def shifted (n : Nat) : List CaseRun → Option Nat
  | [] => none
  | r :: rest =>
    if n < r.first then none
    else if n ≤ r.last && (n - r.first) % r.step == 0 then some ((n : Int) + r.shift).toNat
    else shifted n rest

def capitalSigma : Nat := 0x3A3

/-- The lower case of one character; only a capital I with a dot takes two. -/
def lowerChar (c : Char) : List Char :=
  if c.toNat == 0x130 then ['i', Char.ofNat 0x307]
  else match shifted c.toNat lowerRuns with
    | some m => [Char.ofNat m]
    | none => [c]

def upperChar (c : Char) : List Char :=
  match upperExpansions.find? (·.1 == c.toNat) with
  | some (_, image) => image.map Char.ofNat
  | none => match shifted c.toNat upperRuns with
    | some m => [Char.ofNat m]
    | none => [c]

def meetsCased (cs : List Char) : Bool :=
  match cs.dropWhile fun c => inRanges c.toNat caseIgnorable with
  | [] => false
  | c :: _ => inRanges c.toNat cased

/-- Lower case of the characters `cs`, where `before` holds those already passed, last one first. -/
def lowerAfter (before : List Char) : List Char → List Char
  | [] => []
  | c :: rest =>
    let image :=
      if c.toNat == capitalSigma then
        if meetsCased before && !meetsCased rest then [Char.ofNat 0x3C2] else [Char.ofNat 0x3C3]
      else lowerChar c
    image ++ lowerAfter (c :: before) rest

def lower (s : String) : String :=
  String.ofList (lowerAfter [] s.toList)

def asciiLower (c : Char) : Char :=
  if 65 ≤ c.toNat && c.toNat ≤ 90 then Char.ofNat (c.toNat + 32) else c

def sameIgnoringCase (s t : String) : Bool :=
  s.toList.map asciiLower == t.toList.map asciiLower

end Backoffice.Text
