import Backoffice.Json.Basic

namespace Backoffice.Json

def hexDigit (n : Nat) : Char :=
  if n < 10 then Char.ofNat (48 + n) else Char.ofNat (87 + n)

def escape (c : Char) : List Char :=
  match c.toNat with
  | 0x22 => ['\\', c]
  | 0x5C => ['\\', '\\']
  | 0x8 => ['\\', 'b']
  | 0xC => ['\\', 'f']
  | 0xA => ['\\', 'n']
  | 0xD => ['\\', 'r']
  | 0x9 => ['\\', 't']
  | n => if n < 0x20 then ['\\', 'u', '0', '0', hexDigit (n / 16), hexDigit (n % 16)] else [c]

def quoteMark : Char := Char.ofNat 0x22

def quote (s : String) : String :=
  String.ofList (quoteMark :: s.toList.flatMap escape ++ [quoteMark])

mutual

def render : Json → String
  | null => "null"
  | bool true => "true"
  | bool false => "false"
  | num n => n.text
  | str s => quote s
  | arr items => "[" ++ ",".intercalate (renderItems items) ++ "]"
  | obj fields => "\x7b" ++ ",".intercalate (renderFields fields) ++ "\x7d"

def renderItems : List Json → List String
  | [] => []
  | v :: rest => render v :: renderItems rest

def renderFields : List (String × Json) → List String
  | [] => []
  | (k, v) :: rest => (quote k ++ ":" ++ render v) :: renderFields rest

end

end Backoffice.Json
