import Backoffice.Json.Parser
import Backoffice.Json.Shape

/-!
Reading text straight into a shape.

The text is read once, from front to back, and the first obstacle ends it: text that is no JSON, or a
value that the shape has no place for. So a value of a wrong type is noticed before a mistake further
back, and what stands behind the value is not looked at. Values under keys that a structure does not
have are passed over: they follow the grammar, at any depth, but their numbers and escapes name
nothing.
-/

namespace Backoffice

inductive Obstacle where
  | malformed
  | mismatched
  deriving DecidableEq, Repr

abbrev Scanned := Except Obstacle

namespace Scan

open Json (skipSpace)

def grammar {α : Type} (read : Option α) : Scanned α := read.elim (.error .malformed) .ok

def fitting {α : Type} (value : Option α) : Scanned α := value.elim (.error .mismatched) .ok

def skipDigits (cs : List Char) : Option (List Char) :=
  if (cs.takeWhile Char.isDigit).isEmpty then none else some (cs.dropWhile Char.isDigit)

def skipFraction : List Char → Option (List Char)
  | '.' :: cs => skipDigits cs
  | cs => some cs

def skipExponent : List Char → Option (List Char)
  | 'e' :: '+' :: cs | 'e' :: '-' :: cs | 'E' :: '+' :: cs | 'E' :: '-' :: cs => skipDigits cs
  | 'e' :: cs | 'E' :: cs => skipDigits cs
  | cs => some cs

def skipNumber (cs : List Char) : Option (List Char) := do
  let cs := match cs with
    | '-' :: rest => rest
    | _ => cs
  let rest ← match cs with
    | '0' :: rest => if (rest.head?.map Char.isDigit).getD false then none else some rest
    | _ => skipDigits cs
  skipExponent (← skipFraction rest)

def skipEscape : List Char → Option (List Char)
  | 'u' :: cs => (Json.hexUnit cs).map (·.2)
  | cs => (Json.parseEscape cs).map (·.2)

def skipText : Nat → List Char → Option (List Char)
  | 0, _ => none
  | _ + 1, [] => none
  | fuel + 1, c :: cs =>
    if c.toNat == 0x22 then some cs
    else if c == '\\' then do skipText fuel (← skipEscape cs)
    else if c.toNat < 0x20 then none
    else skipText fuel cs

def skipQuoted : List Char → Option (List Char)
  | c :: rest => if c.toNat == 0x22 then skipText (rest.length + 1) rest else none
  | [] => none

def skipScalar : List Char → Option (List Char)
  | 'n' :: 'u' :: 'l' :: 'l' :: rest => some rest
  | 't' :: 'r' :: 'u' :: 'e' :: rest => some rest
  | 'f' :: 'a' :: 'l' :: 's' :: 'e' :: rest => some rest
  | cs => (skipQuoted cs).or (skipNumber cs)

mutual

def skipValue : Nat → List Char → Option (List Char)
  | 0, _ => none
  | fuel + 1, cs =>
    match skipSpace cs with
    | '[' :: rest =>
      match skipSpace rest with
      | ']' :: rest => some rest
      | _ => skipItems fuel rest
    | '\x7b' :: rest =>
      match skipSpace rest with
      | '\x7d' :: rest => some rest
      | _ => skipMembers fuel rest
    | cs => skipScalar cs

def skipItems : Nat → List Char → Option (List Char)
  | 0, _ => none
  | fuel + 1, cs => do
    match skipSpace (← skipValue fuel cs) with
    | ',' :: rest => skipItems fuel rest
    | ']' :: rest => some rest
    | _ => none

def skipMembers : Nat → List Char → Option (List Char)
  | 0, _ => none
  | fuel + 1, cs => do
    let rest ← Json.behindColon (← skipQuoted (skipSpace cs))
    match skipSpace (← skipValue fuel rest) with
    | ',' :: rest => skipMembers fuel rest
    | '\x7d' :: rest => some rest
    | _ => none

end

/-- What a value that has no place is: a container is refused when it opens, and anything else when it
has been read. -/
def unfit : List Char → Obstacle
  | '[' :: _ | '\x7b' :: _ => .mismatched
  | cs => if (Json.parseScalar cs).isSome then .mismatched else .malformed

def scalar (s : Shape) (cs : List Char) : Scanned (Json × List Char) :=
  match Json.parseScalar cs with
  | none => .error (unfit cs)
  | some (v, rest) => (fitting (s.settle v)).map fun v => (v, rest)

def expect (c : Char) (cs : List Char) : Scanned (List Char) :=
  match skipSpace cs with
  | d :: rest => if c == d then .ok rest else .error .malformed
  | [] => .error .malformed

def name (names : List String) (cs : List Char) : Scanned (Json × List Char) := do
  let (s, rest) ← grammar (Json.quotedText cs)
  if names.contains s then .ok (.str s, rest) else .error .mismatched

def isQuoted (cs : List Char) : Bool := (cs.head?.map fun c => c.toNat == 0x22).getD false

def choice (depth : Nat) (names : List String) (cs : List Char) : Scanned (Json × List Char) :=
  match cs with
  | '\x7b' :: rest =>
    let inner := skipSpace rest
    if depth == 0 then .error .malformed
    else if !isQuoted inner then .error (unfit inner)
    else do
      let (v, rest) ← name names inner
      let value := skipSpace (← expect ':' rest)
      match value with
      | 'n' :: 'u' :: 'l' :: 'l' :: rest => (expect '\x7d' rest).map fun rest => (v, rest)
      | _ => .error (unfit value)
  | cs => if isQuoted cs then name names cs else .error .malformed

def structured (fields : Fields) (members : Record) (rest : List Char) : Scanned (Json × List Char) :=
  if fields.completed members then .ok (.ofFields members, rest) else .error .mismatched

def mergedWith (own rest : Fields) (members kept : Record) (cs : List Char) : Scanned (Json × List Char) :=
  if own.completed members then
    (fitting (rest.settleNamed kept)).map fun more => (.ofFields (members ++ more), cs)
  else .error .mismatched

mutual

/-- A value of a shape in its plain form, and the text behind it; `depth` is how many containers may
still be opened. -/
def value : Nat → Nat → Shape → List Char → Scanned (Json × List Char)
  | 0, _, _, _ => .error .malformed
  | fuel + 1, depth, shape, cs =>
    let cs := skipSpace cs
    match shape with
    | .choice names => choice depth names cs
    | .option s =>
      match cs with
      | 'n' :: _ => scalar shape cs
      | _ => value fuel depth s cs
    | .record =>
      match cs with
      | '\x7b' :: _ =>
        (grammar (Json.parseValue (Json.fuelFor cs) depth cs)).map fun (v, rest) => (v.tidy, rest)
      | _ => .error (unfit cs)
    | .list s =>
      match cs, depth with
      | '[' :: _, 0 => .error .malformed
      | '[' :: rest, depth + 1 =>
        match skipSpace rest with
        | ']' :: rest => .ok (.arr [], rest)
        | _ => items fuel depth s [] rest
      | _, _ => .error (unfit cs)
    | .struct fields =>
      match cs, depth with
      | '[' :: _, 0 | '\x7b' :: _, 0 => .error .malformed
      | '[' :: rest, depth + 1 => ordered fuel depth fields true [] rest
      | '\x7b' :: rest, depth + 1 =>
        match skipSpace rest with
        | '\x7d' :: rest => structured fields [] rest
        | _ => named fuel depth fields [] rest
      | _, _ => .error (unfit cs)
    | .merged own others =>
      match cs, depth with
      | '\x7b' :: _, 0 => .error .malformed
      | '\x7b' :: rest, depth + 1 =>
        match skipSpace rest with
        | '\x7d' :: rest => mergedWith own others [] [] rest
        | _ => merged fuel depth own others [] [] rest
      | _, _ => .error (unfit cs)
    | shape => scalar shape cs

def items : Nat → Nat → Shape → List Json → List Char → Scanned (Json × List Char)
  | 0, _, _, _, _ => .error .malformed
  | fuel + 1, depth, s, acc, cs => do
    let (v, rest) ← value fuel depth s cs
    match skipSpace rest with
    | ',' :: rest => items fuel depth s (v :: acc) rest
    | ']' :: rest => .ok (.arr (v :: acc).reverse, rest)
    | _ => .error .malformed

def ordered : Nat → Nat → Fields → Bool → Record → List Char → Scanned (Json × List Char)
  | 0, _, _, _, _, _ => .error .malformed
  | _ + 1, _, .done, _, acc, cs => (expect ']' cs).map fun rest => (.ofFields acc, rest)
  | fuel + 1, depth, .field key required s fields, first, acc, cs =>
    match skipSpace cs, first with
    | ']' :: _, _ =>
      if required then .error .mismatched else ordered fuel depth fields first acc cs
    | ',' :: rest, false => do
      let (v, rest) ← value fuel depth s rest
      ordered fuel depth fields false ((key, v) :: acc) rest
    | rest, true => do
      let (v, rest) ← value fuel depth s rest
      ordered fuel depth fields false ((key, v) :: acc) rest
    | _, false => .error .malformed

def named : Nat → Nat → Fields → Record → List Char → Scanned (Json × List Char)
  | 0, _, _, _, _ => .error .malformed
  | fuel + 1, depth, fields, acc, cs => do
    let (key, rest) ← grammar (Json.quotedText (skipSpace cs))
    let (acc, rest) ← match fields.find? key with
      | none => do
        let rest ← expect ':' rest
        let rest ← grammar (skipValue (Json.fuelFor rest) rest)
        .ok (acc, rest)
      | some s =>
        if acc.any (·.1 == key) then .error .mismatched
        else do
          let rest ← expect ':' rest
          let (v, rest) ← value fuel depth s rest
          .ok ((key, v) :: acc, rest)
    match skipSpace rest with
    | ',' :: rest => named fuel depth fields acc rest
    | '\x7d' :: rest => structured fields acc rest
    | _ => .error .malformed

/-- The members of two structures in one object. Those of the first are read when they come, and the
others are kept until the object ends. -/
def merged : Nat → Nat → Fields → Fields → Record → Record → List Char → Scanned (Json × List Char)
  | 0, _, _, _, _, _, _ => .error .malformed
  | fuel + 1, depth, own, others, acc, kept, cs => do
    let (key, rest) ← grammar (Json.quotedText (skipSpace cs))
    let (acc, kept, rest) ← match own.find? key with
      | none => do
        let rest ← expect ':' rest
        let (v, rest) ← grammar (Json.parseValue (Json.fuelFor rest) depth rest)
        .ok (acc, (key, v) :: kept, rest)
      | some s =>
        if acc.any (·.1 == key) then .error .mismatched
        else do
          let rest ← expect ':' rest
          let (v, rest) ← value fuel depth s rest
          .ok ((key, v) :: acc, kept, rest)
    match skipSpace rest with
    | ',' :: rest => merged fuel depth own others acc kept rest
    | '\x7d' :: rest => mergedWith own others acc kept rest
    | _ => .error .malformed

end

end Scan

def Shape.read (s : Shape) (text : String) : Scanned Json :=
  (Scan.value (Json.fuelFor text.toList) Json.depthLimit s text.toList).map (·.1)

end Backoffice
