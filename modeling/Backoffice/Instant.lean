import Backoffice.Text.Blank
import Backoffice.Json.Decode

namespace Backoffice

/-- Whole seconds since the start of 1970 in UTC, not counting leap seconds, and nanoseconds; those
beyond the first billion lie in a leap second. -/
structure Instant where
  seconds : Int
  nanos : Nat
  deriving DecidableEq, Repr, Inhabited

namespace Instant

instance : Ord Instant :=
  ⟨fun a b => (compare a.seconds b.seconds).then (compare a.nanos b.nanos)⟩

def nanosPerSecond : Nat := 1000000000

/-- A later instant, by a nanosecond where there is one left in the second. -/
def later (t : Instant) : Instant :=
  if t.nanos + 1 < nanosPerSecond then ⟨t.seconds, t.nanos + 1⟩ else ⟨t.seconds + 1, 0⟩

def secondsPerDay : Int := 86400

def dayNumber (year : Int) (month day : Nat) : Int :=
  let y := if month ≤ 2 then year - 1 else year
  let era := y / 400
  let yoe := y % 400
  let doy : Int := (153 * (((month : Int) + 9) % 12) + 2) / 5 + (day : Int) - 1
  let doe := yoe * 365 + yoe / 4 - yoe / 100 + doy
  era * 146097 + doe - 719468

def civil (days : Int) : Int × Nat × Nat :=
  let z := days + 719468
  let era := z / 146097
  let doe := z % 146097
  let yoe := (doe - doe / 1460 + doe / 36524 - doe / 146096) / 365
  let doy := doe - (365 * yoe + yoe / 4 - yoe / 100)
  let mp := (5 * doy + 2) / 153
  let day := doy - (153 * mp + 2) / 5 + 1
  let month := if mp < 10 then mp + 3 else mp - 9
  let year := yoe + era * 400 + (if month ≤ 2 then 1 else 0)
  (year, month.toNat, day.toNat)

def isLeap (year : Int) : Bool :=
  year % 4 == 0 && (year % 100 != 0 || year % 400 == 0)

def daysIn (year : Int) : Nat → Nat
  | 2 => if isLeap year then 29 else 28
  | 4 | 6 | 9 | 11 => 30
  | _ => 31

def padded (width n : Nat) : String :=
  let ds := Nat.toDigits 10 n
  String.ofList (List.replicate (width - ds.length) '0' ++ ds)

def fraction (nanos : Nat) : String :=
  if nanos == 0 then ""
  else if nanos % 1000000 == 0 then "." ++ padded 3 (nanos / 1000000)
  else if nanos % 1000 == 0 then "." ++ padded 6 (nanos / 1000)
  else "." ++ padded 9 nanos

def yearText (year : Int) : String :=
  if 0 ≤ year && year ≤ 9999 then padded 4 year.toNat
  else if year < 0 then "-" ++ padded 4 year.natAbs
  else "+" ++ padded 4 year.natAbs

def text (t : Instant) : String :=
  let (year, month, day) := civil (t.seconds / secondsPerDay)
  let clock := (t.seconds % secondsPerDay).toNat
  yearText year ++ "-" ++ padded 2 month ++ "-" ++ padded 2 day ++ "T" ++ padded 2 (clock / 3600) ++
    ":" ++ padded 2 (clock / 60 % 60) ++ ":" ++ padded 2 (clock % 60 + t.nanos / nanosPerSecond) ++
    fraction (t.nanos % nanosPerSecond) ++ "Z"

abbrev Scan (α : Type) := StateT (List Char) Option α

def skipBlanks : Scan Unit := modify fun cs => cs.dropWhile Text.isBlank

def natOf (ds : List Char) : Nat :=
  ds.foldl (fun n d => n * 10 + (d.toNat - 48)) 0

def digitsHere (most : Nat) : Scan Nat := do
  let cs ← get
  let ds := (cs.takeWhile Char.isDigit).take most
  if ds.isEmpty then failure
  set (cs.drop ds.length)
  pure (natOf ds)

def digits (most : Nat) : Scan Nat := do
  skipBlanks
  digitsHere most

def year : Scan Int := do
  skipBlanks
  match ← get with
  | '-' :: rest => set rest; let n ← digitsHere rest.length; pure (-(n : Int))
  | '+' :: rest => set rest; let n ← digitsHere rest.length; pure n
  | _ => let n ← digitsHere 4; pure n

def mark (c : Char) : Scan Unit := do
  skipBlanks
  match ← get with
  | d :: rest => if d == c then set rest else failure
  | [] => failure

def timeMark : Scan Unit := do
  match ← get with
  | 'T' :: rest | 't' :: rest | ' ' :: rest => set rest
  | _ => failure

/-- A decimal fraction of a second; digits beyond the ninth are dropped. -/
def fractionPart : Scan Nat := do
  match ← get with
  | '.' :: rest =>
    let ds := rest.takeWhile Char.isDigit
    if ds.isEmpty then failure
    set (rest.dropWhile Char.isDigit)
    let kept := ds.take 9
    pure (natOf kept * Nat.pow 10 (9 - kept.length))
  | _ => pure 0

def twoDigits : Scan Nat := do
  match ← get with
  | a :: b :: rest =>
    if a.isDigit && b.isDigit then
      set rest
      pure (natOf [a, b])
    else failure
  | _ => failure

def offset : Scan Int := do
  skipBlanks
  match ← get with
  | 'Z' :: rest | 'z' :: rest => set rest; pure 0
  | c :: rest =>
    if ((c :: rest).take 3).map Char.toLower == ['u', 't', 'c'] then
      set (rest.drop 2)
      return 0
    let sign : Int ← if c == '+' then pure 1
      else if c == '-' || c.toNat == 0x2212 then pure (-1) else failure
    set rest
    let h ← twoDigits
    modify fun cs => cs.dropWhile fun c => c == ':' || Text.isBlank c
    let m ← twoDigits
    if 59 < m || 23 < h then failure
    pure (sign * ((h * 3600 + m * 60 : Nat) : Int))
  | [] => failure

def inCalendar (year : Int) : Bool := -262143 ≤ year && year ≤ 262142

def scan : Scan Instant := do
  let y ← year
  mark '-'
  let month ← digits 2
  mark '-'
  let day ← digits 2
  timeMark
  let hour ← digits 2
  mark ':'
  let minute ← digits 2
  mark ':'
  let second ← digits 2
  let nanos ← fractionPart
  let ahead ← offset
  if !inCalendar y || month == 0 || 12 < month || day == 0 || daysIn y month < day || 23 < hour ||
      59 < minute || 60 < second then failure
  let clock := hour * 3600 + minute * 60 + min second 59
  let seconds := dayNumber y month day * secondsPerDay + (clock : Int) - ahead
  if !inCalendar (civil (seconds / secondsPerDay)).1 then failure
  pure ⟨seconds, if second == 60 then nanos + nanosPerSecond else nanos⟩

def parse? (s : String) : Option Instant :=
  match scan s.toList with
  | some (t, rest) => if rest.all Text.isBlank then some t else none
  | none => none

def decode : Decoder Instant := fun v => v.asStr?.bind parse?

def toJson (t : Instant) : Json := .str t.text

end Instant

end Backoffice
