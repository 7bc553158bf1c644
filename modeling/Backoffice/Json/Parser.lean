import Backoffice.Json.Basic

/-!
Reading JSON text.

`parse?` reads a text that holds one value and nothing but blanks around it. A number with a fraction
or an exponent, or too large for 64 bits, is floating point: its digits are gathered while they fit a
word of 64 bits and then scaled by a power of ten. Arrays and objects stand at most `depthLimit` deep
in each other.

`parseValue` keeps the members of an object as they are written; `tidy` puts them into the order of
their keys, of which the last counts.
-/

namespace Backoffice.Json

def isSpace (c : Char) : Bool :=
  c == ' ' || c == '\n' || c == '\t' || c == '\r'

def skipSpace (cs : List Char) : List Char := cs.dropWhile isSpace

def wordLimit : Nat := Nat.pow 2 64 - 1

def digitValue (c : Char) : Nat := c.toNat - 48

def gatherWhole (n : Nat) : List Char → Nat × Nat
  | [] => (n, 0)
  | d :: ds =>
    let m := n * 10 + digitValue d
    if m ≤ wordLimit then gatherWhole m ds else (n, ds.length + 1)

def gatherFraction (n : Nat) : List Char → Nat × Nat
  | [] => (n, 0)
  | d :: ds =>
    let m := n * 10 + digitValue d
    if m ≤ wordLimit then
      let (r, k) := gatherFraction m ds
      (r, k + 1)
    else (n, 0)

/-- A whole number of 64 bits; minus zero is floating point. -/
def wholeNumber (negative : Bool) (n : Nat) : Option Number :=
  if negative then
    if n == 0 || Nat.pow 2 63 < n then (Binary64.ofDecimal true n 0).map .real else some (.whole (-(n : Int)))
  else some (.whole n)

def exponentPart : List Char → Option (Int × List Char)
  | '+' :: cs => unsignedExponent 1 cs
  | '-' :: cs => unsignedExponent (-1) cs
  | cs => unsignedExponent 1 cs
where
  unsignedExponent (sign : Int) (cs : List Char) : Option (Int × List Char) :=
    let ds := cs.takeWhile Char.isDigit
    if ds.isEmpty then none
    else some (sign * (ds.foldl (fun n d => n * 10 + digitValue d) 0 : Nat), cs.dropWhile Char.isDigit)

def numberTail (negative : Bool) (n left : Nat) (cs : List Char) : Option (Number × List Char) :=
  let scaled (digits : Nat) (exponent : Int) (rest : List Char) : Option (Number × List Char) :=
    (Binary64.ofDecimal negative digits exponent).map fun x => (.real x, rest)
  let withExponent (digits : Nat) (exponent : Int) (rest : List Char) : Option (Number × List Char) :=
    match rest with
    | 'e' :: more | 'E' :: more => do
      let (e, rest) ← exponentPart more
      scaled digits (exponent + e) rest
    | _ => scaled digits exponent rest
  match cs with
  | '.' :: more =>
    let ds := more.takeWhile Char.isDigit
    if ds.isEmpty then none
    else
      let (m, k) := gatherFraction n ds
      withExponent m ((left : Int) - (k : Int)) (more.dropWhile Char.isDigit)
  | 'e' :: _ | 'E' :: _ => withExponent n left cs
  | _ =>
    if left == 0 then (wholeNumber negative n).map fun v => (v, cs)
    else scaled n left cs

def unsignedNumber (negative : Bool) (cs : List Char) : Option (Number × List Char) :=
  let ds := cs.takeWhile Char.isDigit
  let rest := cs.dropWhile Char.isDigit
  match ds with
  | [] => none
  | '0' :: _ :: _ => none
  | _ =>
    let (n, left) := gatherWhole 0 ds
    numberTail negative n left rest

def parseNumber : List Char → Option (Number × List Char)
  | '-' :: cs => unsignedNumber true cs
  | cs => unsignedNumber false cs

def hexValue (c : Char) : Option Nat :=
  let n := c.toNat
  if 48 ≤ n && n ≤ 57 then some (n - 48)
  else if 97 ≤ n && n ≤ 102 then some (n - 87)
  else if 65 ≤ n && n ≤ 70 then some (n - 55)
  else none

def hexUnit : List Char → Option (Nat × List Char)
  | a :: b :: c :: d :: rest => do
    let a ← hexValue a
    let b ← hexValue b
    let c ← hexValue c
    let d ← hexValue d
    some (((a * 16 + b) * 16 + c) * 16 + d, rest)
  | _ => none

/-- The character of an escape by code units; two surrogates make one character. -/
def unicodeEscape (cs : List Char) : Option (Char × List Char) := do
  let (u, rest) ← hexUnit cs
  if 0xD800 ≤ u && u ≤ 0xDBFF then
    match rest with
    | '\\' :: 'u' :: more => do
      let (v, rest) ← hexUnit more
      if 0xDC00 ≤ v && v ≤ 0xDFFF then
        some (Char.ofNat (0x10000 + (u - 0xD800) * 0x400 + (v - 0xDC00)), rest)
      else none
    | _ => none
  else if 0xDC00 ≤ u && u ≤ 0xDFFF then none
  else some (Char.ofNat u, rest)

def parseEscape : List Char → Option (Char × List Char)
  | 'b' :: cs => some (Char.ofNat 0x8, cs)
  | 'f' :: cs => some (Char.ofNat 0xC, cs)
  | 'n' :: cs => some ('\n', cs)
  | 'r' :: cs => some ('\r', cs)
  | 't' :: cs => some ('\t', cs)
  | '/' :: cs => some ('/', cs)
  | '\\' :: cs => some ('\\', cs)
  | 'u' :: cs => unicodeEscape cs
  | c :: cs => if c.toNat == 0x22 then some (c, cs) else none
  | [] => none

def parseText : Nat → List Char → List Char → Option (String × List Char)
  | 0, _, _ => none
  | _ + 1, _, [] => none
  | fuel + 1, acc, c :: cs =>
    if c.toNat == 0x22 then some (String.ofList acc.reverse, cs)
    else if c == '\\' then do
      let (d, rest) ← parseEscape cs
      parseText fuel (d :: acc) rest
    else if c.toNat < 0x20 then none
    else parseText fuel (c :: acc) cs

def quotedText : List Char → Option (String × List Char)
  | c :: rest => if c.toNat == 0x22 then parseText (rest.length + 1) [] rest else none
  | [] => none

def behindColon (cs : List Char) : Option (List Char) :=
  match skipSpace cs with
  | ':' :: rest => some rest
  | _ => none

def parseKey (cs : List Char) : Option (String × List Char) := do
  let (k, rest) ← quotedText (skipSpace cs)
  let rest ← behindColon rest
  some (k, rest)

def parseScalar : List Char → Option (Json × List Char)
  | 'n' :: 'u' :: 'l' :: 'l' :: rest => some (null, rest)
  | 't' :: 'r' :: 'u' :: 'e' :: rest => some (bool true, rest)
  | 'f' :: 'a' :: 'l' :: 's' :: 'e' :: rest => some (bool false, rest)
  | cs => ((quotedText cs).map fun (s, rest) => (str s, rest)).or
    ((parseNumber cs).map fun (n, rest) => (num n, rest))

def depthLimit : Nat := 127

mutual

/-- One value and the text behind it; `depth` is how many containers may still be opened. Every call
reads a character, so that `fuel` bounds the calls. -/
def parseValue : Nat → Nat → List Char → Option (Json × List Char)
  | 0, _, _ => none
  | fuel + 1, depth, cs =>
    match skipSpace cs, depth with
    | '[' :: _, 0 | '\x7b' :: _, 0 => none
    | '[' :: rest, depth + 1 =>
      match skipSpace rest with
      | ']' :: rest => some (arr [], rest)
      | _ => parseItems fuel depth [] rest
    | '\x7b' :: rest, depth + 1 =>
      match skipSpace rest with
      | '\x7d' :: rest => some (obj [], rest)
      | _ => parseFields fuel depth [] rest
    | cs, _ => parseScalar cs

def parseItems : Nat → Nat → List Json → List Char → Option (Json × List Char)
  | 0, _, _, _ => none
  | fuel + 1, depth, acc, cs => do
    let (v, rest) ← parseValue fuel depth cs
    match skipSpace rest with
    | ',' :: rest => parseItems fuel depth (v :: acc) rest
    | ']' :: rest => some (arr (v :: acc).reverse, rest)
    | _ => none

def parseFields : Nat → Nat → List (String × Json) → List Char → Option (Json × List Char)
  | 0, _, _, _ => none
  | fuel + 1, depth, acc, cs => do
    let (k, rest) ← parseKey cs
    let (v, rest) ← parseValue fuel depth rest
    match skipSpace rest with
    | ',' :: rest => parseFields fuel depth ((k, v) :: acc) rest
    | '\x7d' :: rest => some (obj ((k, v) :: acc).reverse, rest)
    | _ => none

end

def fuelFor (cs : List Char) : Nat := 4 * cs.length + 4

def parse? (s : String) : Option Json := do
  let (v, rest) ← parseValue (fuelFor s.toList) depthLimit s.toList
  if (skipSpace rest).isEmpty then some v.tidy else none

end Backoffice.Json
