namespace Backoffice

inductive Address where
  | v4 (octets : List Nat) (endpoint : Nat)
  | v6 (groups : List Nat) (zone endpoint : Nat)
  deriving DecidableEq, Repr

namespace Address

abbrev Scan (α : Type) := List Char → Option (α × List Char)

def digitIn (radix : Nat) (c : Char) : Option Nat :=
  let d := if '0' ≤ c && c ≤ '9' then some (c.toNat - 48)
    else if 'a' ≤ c && c ≤ 'f' then some (c.toNat - 87)
    else if 'A' ≤ c && c ≤ 'F' then some (c.toNat - 55)
    else none
  d.filter (· < radix)

def char (c : Char) : Scan Unit
  | [] => none
  | d :: rest => if c == d then some ((), rest) else none

def number (radix : Nat) (width : Option Nat) (limit : Nat) : Scan Nat := fun cs =>
  let ds := cs.takeWhile fun c => (digitIn radix c).isSome
  let n := ds.foldl (fun n c => n * radix + (digitIn radix c).getD 0) 0
  if ds.isEmpty || width.any (· < ds.length) || limit < n then none
  else some (n, cs.drop ds.length)

/-- A number of an IPv4 address has no leading zero. -/
def octet : Scan Nat := fun cs => do
  let (n, rest) ← number 10 (some 3) 255 cs
  if cs.head? == some '0' && 1 < cs.length - rest.length then none else some (n, rest)

def octets : Scan (List Nat) := fun cs => do
  let (a, cs) ← octet cs
  let (_, cs) ← char '.' cs
  let (b, cs) ← octet cs
  let (_, cs) ← char '.' cs
  let (c, cs) ← octet cs
  let (_, cs) ← char '.' cs
  let (d, cs) ← octet cs
  some ([a, b, c, d], cs)

def separator (first : Bool) (cs : List Char) : Option (List Char) :=
  if first then some cs else (char ':' cs).map (·.2)

/-- Up to `limit` groups; an IPv4 address counts as the last two, and is told by the flag. -/
def groups (first : Bool) : Nat → List Char → List Nat × Bool × List Char
  | 0, cs => ([], false, cs)
  | limit + 1, cs =>
    let dotted := if limit == 0 then none else (separator first cs).bind octets
    match dotted with
    | some ([a, b, c, d], rest) => ([a * 256 + b, c * 256 + d], true, rest)
    | _ =>
      match (separator first cs).bind (number 16 (some 4) 65535) with
      | some (g, rest) =>
        let (gs, endsDotted, rest) := groups false limit rest
        (g :: gs, endsDotted, rest)
      | none => ([], false, cs)

def v6Groups : Scan (List Nat) := fun cs =>
  let (head, endsDotted, rest) := groups true 8 cs
  if head.length == 8 then some (head, rest)
  else if endsDotted then none
  else do
    let (_, rest) ← char ':' rest
    let (_, rest) ← char ':' rest
    let (tail, _, rest) := groups true (7 - head.length) rest
    some (head ++ List.replicate (8 - head.length - tail.length) 0 ++ tail, rest)

def endpoint : Scan Nat := fun cs => do
  let (_, cs) ← char ':' cs
  number 10 none 65535 cs

def zone : Scan Nat := fun cs =>
  match char '%' cs with
  | none => some (0, cs)
  | some (_, rest) => number 10 none (Nat.pow 2 32 - 1) rest

def parseV4? (cs : List Char) : Option Address := do
  let (os, cs) ← octets cs
  let (p, cs) ← endpoint cs
  if cs.isEmpty then some (v4 os p) else none

def parseV6? (cs : List Char) : Option Address := do
  let (_, cs) ← char '[' cs
  let (gs, cs) ← v6Groups cs
  let (z, cs) ← zone cs
  let (_, cs) ← char ']' cs
  let (p, cs) ← endpoint cs
  if cs.isEmpty then some (v6 gs z p) else none

def parse? (s : String) : Option Address := (parseV4? s.toList).or (parseV6? s.toList)

def dottedText (os : List Nat) : String := ".".intercalate (os.map toString)

def hexGroups (gs : List Nat) : String :=
  ":".intercalate (gs.map fun g => String.ofList (Nat.toDigits 16 g))

def longestRun (gs : List Nat) : Nat × Nat :=
  (List.range gs.length).foldl (fun best i =>
    let n := ((gs.drop i).takeWhile (· == 0)).length
    if best.2 < n then (i, n) else best) (0, 0)

def v6Text (gs : List Nat) : String :=
  match gs with
  | [0, 0, 0, 0, 0, 0xFFFF, a, b] => "::ffff:" ++ dottedText [a / 256, a % 256, b / 256, b % 256]
  | _ =>
    let (start, n) := longestRun gs
    if n < 2 then hexGroups gs
    else hexGroups (gs.take start) ++ "::" ++ hexGroups (gs.drop (start + n))

def text : Address → String
  | v4 os p => dottedText os ++ ":" ++ toString p
  | v6 gs z p =>
    "[" ++ v6Text gs ++ (if z == 0 then "" else "%" ++ toString z) ++ "]:" ++ toString p

end Address

end Backoffice
