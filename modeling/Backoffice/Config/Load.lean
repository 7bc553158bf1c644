import Backoffice.Config
import Backoffice.Json.Parser

namespace Backoffice

inductive Setting where
  | nothing
  | flag (b : Bool)
  | whole (n : Int)
  | real (x : Binary64)
  | infinite (negative : Bool)
  | notANumber
  | text (s : String)
  | list (items : List Setting)
  | table (fields : List (String × Setting))
  deriving Inhabited

namespace Setting

def emptyTable : Setting := table []

mutual

/-- Whole numbers that do not fit a signed word are floating point ones. -/
def ofJson : Json → Setting
  | .null => nothing
  | .bool b => flag b
  | .num (.whole n) => if n < Nat.pow 2 63 then whole n else real (.ofInt n)
  | .num (.real x) => real x
  | .str s => text s
  | .arr items => list (ofItems items)
  | .obj fields => table (ofMembers fields)

def ofItems : List Json → List Setting
  | [] => []
  | v :: rest => ofJson v :: ofItems rest

def ofMembers : List (String × Json) → List (String × Setting)
  | [] => []
  | (k, v) :: rest => (k, ofJson v) :: ofMembers rest

end

def fields : Setting → List (String × Setting)
  | table fs => fs
  | _ => []

mutual

/-- Puts a value under a name, of which the case does not count; a table is merged into the table that
is there. -/
def put (root : Setting) (name : String) (value : Setting) : Setting :=
  let name := Text.lower name
  match value with
  | table incoming =>
    let there := (Entries.get? name root.fields).getD emptyTable
    table (Entries.set name (mergeAll there incoming) root.fields)
  | v => table (Entries.set name v root.fields)

def mergeAll (root : Setting) (incoming : List (String × Setting)) : Setting :=
  match incoming with
  | [] => root
  | (name, value) :: rest => mergeAll (root.put name value) rest

end

/-- A step on the way to a setting: into a table by name, or into a list by place. Places below zero
count from the end. -/
inductive Step where
  | name (s : String)
  | place (i : Int)
  deriving DecidableEq, Repr

def items : Setting → List Setting
  | list items => items
  | _ => []

def makePlace (items : List Setting) (i : Int) : List Setting × Nat :=
  let back := (-i).toNat
  if 0 ≤ i then (items ++ List.replicate (i.toNat + 1 - items.length) nothing, i.toNat)
  else if back ≤ items.length then (items, items.length - back)
  else (List.replicate (back - items.length) nothing ++ items, 0)

def putAt (root : Setting) (path : List Step) (value : Setting) : Setting :=
  match path with
  | [] => value
  | [.name name] => root.put name value
  | .name name :: rest =>
    let name := Text.lower name
    table (Entries.set name (((Entries.get? name root.fields).getD nothing).putAt rest value)
      root.fields)
  | .place i :: rest =>
    let (items, n) := makePlace root.items i
    list (items.set n (((items[n]?).getD nothing).putAt rest value))

def isNameChar (c : Char) : Bool :=
  ('a' ≤ c && c ≤ 'z') || ('A' ≤ c && c ≤ 'Z') || ('0' ≤ c && c ≤ '9') || c == '_' || c == '-' ||
    c == ' '

def unsigned (cs : List Char) : List Char :=
  match cs with
  | '+' :: rest | '-' :: rest => rest
  | _ => cs

def isNegative (cs : List Char) : Bool := cs.head? == some '-'

def decimal (cs : List Char) : Nat := cs.foldl (fun n c => n * 10 + (c.toNat - 48)) 0

def parseWhole? (lo hi : Int) (s : String) : Option Int :=
  let ds := unsigned s.toList
  let n : Int := if isNegative s.toList then -(decimal ds : Int) else (decimal ds : Int)
  if ds.isEmpty || !ds.all Char.isDigit || n < lo || hi < n then none else some n

def wordRange : Int × Int := (-Nat.pow 2 63, Nat.pow 2 63 - 1)

def isIndent (c : Char) : Bool := c == ' ' || c == '\t'

def placePart (cs : List Char) : Option (Int × List Char) :=
  let cs := cs.dropWhile isIndent
  let word := cs.takeWhile fun c => c == '-' || c.isDigit
  match (cs.drop word.length).dropWhile isIndent with
  | ']' :: rest =>
    (parseWhole? wordRange.1 wordRange.2 (String.ofList word)).map fun i => (i, rest)
  | _ => none

def stepsOf : Nat → List Char → Option (List Step)
  | _, [] => some []
  | 0, _ => none
  | fuel + 1, '.' :: cs =>
    let name := cs.takeWhile isNameChar
    if name.isEmpty then none
    else (stepsOf fuel (cs.dropWhile isNameChar)).map (.name (String.ofList name) :: ·)
  | fuel + 1, '[' :: cs => do
    let (i, rest) ← placePart cs
    (stepsOf fuel rest).map (.place i :: ·)
  | _, _ => none

def pathOf (key : String) : List Step := (stepsOf (key.length + 1) ('.' :: key.toList)).getD [.name key]

def overlay (root : Setting) (source : List (String × Setting)) : Setting :=
  source.foldl (fun acc (key, value) => acc.putAt (pathOf key) value) root

def parseExponent? : List Char → Option Int
  | [] => some 0
  | c :: rest =>
    let ds := unsigned rest
    if (c == 'e' || c == 'E') && !ds.isEmpty && ds.all Char.isDigit then
      some (if isNegative rest then -(decimal ds : Int) else (decimal ds : Int))
    else none

def nearest (negative : Bool) (digits : Nat) (exponent : Int) : Setting :=
  if digits == 0 || exponent + (Nat.toDigits 10 digits).length < -400 then
    real ⟨negative, 0, Binary64.leastExponent⟩
  else if 400 < exponent then infinite negative
  else
    let value := if 0 ≤ exponent then Binary64.ofRatio negative (digits * Nat.pow 10 exponent.toNat) 1
      else Binary64.ofRatio negative digits (Nat.pow 10 (-exponent).toNat)
    match value with
    | some x => real x
    | none => infinite negative

def parseReal? (s : String) : Option Setting :=
  let negative := isNegative s.toList
  let body := unsigned s.toList
  match Text.lower (String.ofList body) with
  | "inf" | "infinity" => some (infinite negative)
  | "nan" => some notANumber
  | _ =>
    let whole := body.takeWhile Char.isDigit
    let rest := body.drop whole.length
    let (fraction, rest) := match rest with
      | '.' :: tail => (tail.takeWhile Char.isDigit, tail.dropWhile Char.isDigit)
      | _ => ([], rest)
    if whole.isEmpty && fraction.isEmpty then none
    else (parseExponent? rest).map fun e =>
      nearest negative (decimal (whole ++ fraction)) (e - fraction.length)

def ofVariable (s : String) : Setting :=
  match Text.lower s with
  | "true" => flag true
  | "false" => flag false
  | _ =>
    match parseWhole? wordRange.1 wordRange.2 s with
    | some n => whole n
    | none => (parseReal? s).getD (text s)

def variableStart : String := "larch_"

def dotted : List Char → List Char
  | '_' :: '_' :: rest => '.' :: dotted rest
  | c :: rest => c :: dotted rest
  | [] => []

def variableKey? (name : String) : Option String :=
  let name := Text.lower name
  if Text.startsWith name variableStart then
    some (String.ofList (dotted (name.toList.drop variableStart.length)))
  else none

def ofEnvironment (environment : List (String × String)) : List (String × Setting) :=
  Entries.ofList (environment.filterMap fun (name, value) =>
    (variableKey? name).map fun key => (key, ofVariable value))

def plainLayout : NumberLayout := ⟨-400, 400, "", ""⟩

def toText? : Setting → Option String
  | text s => some s
  | flag b => some (if b then "true" else "false")
  | whole n => some (toString n)
  | real x => some (plainLayout.write x)
  | infinite negative => some (if negative then "-inf" else "inf")
  | notANumber => some "NaN"
  | nothing | list _ | table _ => none

def toFlag? : Setting → Option Bool
  | flag b => some b
  | whole n => some (n != 0)
  | real x => some (x.significand != 0)
  | infinite _ | notANumber => some true
  | text s =>
    match Text.lower s with
    | "1" | "true" | "on" | "yes" => some true
    | "0" | "false" | "off" | "no" => some false
    | _ => none
  | nothing | list _ | table _ => none

def countLimit : Nat := Nat.pow 2 64 - 1

/-- The value as an unsigned word; floating point numbers are rounded to it. -/
def toCount? : Setting → Option Nat
  | flag b => some (if b then 1 else 0)
  | whole n => if n < 0 then none else some n.toNat
  | real x =>
    let (num, den) := x.ratio
    some (if x.negative then 0 else min countLimit ((2 * num + den) / (2 * den)))
  | infinite negative => some (if negative then 0 else countLimit)
  | notANumber => some 0
  | text s =>
    match Text.lower s with
    | "true" | "on" | "yes" => some 1
    | "false" | "off" | "no" => some 0
    | _ => if isNegative s.toList then none else (parseWhole? 0 countLimit s).map Int.toNat
  | nothing | list _ | table _ => none

end Setting

abbrev Conversion := Setting → Option Json

namespace Conversion

def text : Conversion := fun v => v.toText?.map .str

def flag : Conversion := fun v => v.toFlag?.map .bool

def count : Conversion := fun v => v.toCount?.map .ofNat

def option (c : Conversion) : Conversion
  | .nothing => some .null
  | v => c v

def list (c : Conversion) : Conversion
  | .list items => (items.mapM c).map .arr
  | _ => none

def dict (c : Conversion) : Conversion
  | .table fields =>
    (fields.mapM fun ((k, v) : String × Setting) => (c v).map fun v => (k, v)).map .ofFields
  | _ => none

def member? (known : List (String × Conversion)) : String × Setting → Option (Option (String × Json))
  | (k, v) =>
    match Entries.get? k known with
    | some c => (c v).map fun v => some (k, v)
    | none => some none

def table (known : List (String × Conversion)) : Conversion
  | .table fields => (fields.mapM (member? known)).map fun ms => .ofFields (ms.filterMap id)
  | .list items =>
    ((known.zip items).mapM fun (f : (String × Conversion) × Setting) => f.1.2 f.2).map .arr
  | _ => none

def config : Conversion :=
  table [("title", text), ("base_path", text), ("default_locale", text), ("theme", text),
    ("theme_variant", text),
    ("urls", table [("api_prefix", text), ("api_version", text)]),
    ("feature_flags", dict flag),
    ("features", table (Config.switchable.map fun key => (key, option flag))),
    ("permissions", table (Guard.all.map fun g => (g.name, text))),
    ("debug", table [("enabled", flag), ("panels", list text), ("max_log_entries", count),
      ("max_sql_queries", count), ("slow_query_threshold_ms", count), ("allowed_ips", list text),
      ("mask_field_types", dict text), ("toolbar_mode", text)]),
    ("nav_menu_code", text), ("default_environment", text), ("dev_mode", flag),
    ("workflow_trait_defaults", dict text),
    ("server", table [("listen_addr", text), ("enable_cors", flag), ("request_timeout_secs", count),
      ("max_body_size", count)]),
    ("logging", table [("level", text), ("json", flag)])]

end Conversion

/-- The standard settings, those of a file over them, and those of the environment over both. -/
def Config.load? (file : Option Json) (environment : List (String × String)) : Option Config :=
  let source := (file.map fun v => (Setting.ofJson v).fields).getD []
  let merged := ((Setting.ofJson Config.standard.toJson).overlay source).overlay
    (Setting.ofEnvironment environment)
  (Conversion.config merged).bind Config.decode

end Backoffice
