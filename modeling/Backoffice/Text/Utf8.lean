namespace Backoffice.Text.Utf8

structure Pending where
  bits : Nat
  missing : Nat
  lo : Nat
  hi : Nat

def start (b : Nat) : Char ⊕ Option Pending :=
  if b < 0x80 then .inl (Char.ofNat b)
  else if 0xC2 ≤ b && b ≤ 0xDF then .inr (some ⟨b - 0xC0, 1, 0x80, 0xBF⟩)
  else if b == 0xE0 then .inr (some ⟨0, 2, 0xA0, 0xBF⟩)
  else if b == 0xED then .inr (some ⟨0xD, 2, 0x80, 0x9F⟩)
  else if 0xE1 ≤ b && b ≤ 0xEF then .inr (some ⟨b - 0xE0, 2, 0x80, 0xBF⟩)
  else if b == 0xF0 then .inr (some ⟨0, 3, 0x90, 0xBF⟩)
  else if b == 0xF4 then .inr (some ⟨4, 3, 0x80, 0x8F⟩)
  else if 0xF1 ≤ b && b ≤ 0xF3 then .inr (some ⟨b - 0xF0, 3, 0x80, 0xBF⟩)
  else .inr none

/-- The characters of the bytes after a pending sequence; `none` stands for an error. -/
def scan : Option Pending → List UInt8 → List (Option Char)
  | none, [] => []
  | some _, [] => [none]
  | pending, b :: rest =>
    let afresh (errors : List (Option Char)) : List (Option Char) :=
      match start b.toNat with
      | .inl c => errors ++ some c :: scan none rest
      | .inr (some p) => errors ++ scan (some p) rest
      | .inr none => errors ++ none :: scan none rest
    match pending with
    | none => afresh []
    | some p =>
      if p.lo ≤ b.toNat && b.toNat ≤ p.hi then
        let bits := p.bits * 64 + (b.toNat - 0x80)
        if p.missing == 1 then some (Char.ofNat bits) :: scan none rest
        else scan (some ⟨bits, p.missing - 1, 0x80, 0xBF⟩) rest
      else afresh [none]

def decode? (bytes : List UInt8) : Option String :=
  ((scan none bytes).mapM id).map String.ofList

def decodeLossy (bytes : List UInt8) : String :=
  String.ofList ((scan none bytes).map (·.getD '\uFFFD'))

end Backoffice.Text.Utf8
