import Backoffice.Instant

/-!
The two things a service draws from outside: readings of the clock and fresh identifiers.

Every reading is later than all before it, and every identifier differs from all before it.
-/

namespace Backoffice

/-- The next reading of the clock and the number of identifiers drawn so far. -/
structure Supply where
  clock : Instant
  drawn : Nat
  deriving DecidableEq, Repr

namespace Supply

def now (s : Supply) : Instant × Supply :=
  (s.clock, { s with clock := s.clock.later })

def hexText (width n : Nat) : String :=
  let ds := Nat.toDigits 16 n
  String.ofList (List.replicate (width - ds.length) '0' ++ ds)

/-- The identifier with serial number `n`, in the shape of a random UUID. -/
def identifier (n : Nat) : String :=
  hexText 8 (n / Nat.pow 2 48 % Nat.pow 2 32) ++ "-0000-4000-8000-" ++ hexText 12 (n % Nat.pow 2 48)

def fresh (s : Supply) : String × Supply :=
  (identifier s.drawn, { s with drawn := s.drawn + 1 })

end Supply

end Backoffice
