import Backoffice.Number.Binary64

/-!
The shortest decimal that reads back as a given number.

For one digit, two digits, and so on, the two neighbours of the number on that decimal grid are
tried; the first grid with a neighbour inside the interval of reals that round to the number wins.
Of two such neighbours the nearer is taken, and the even one at a tie.
-/

namespace Backoffice.Binary64

structure Decimal where
  digits : Nat
  /-- The power of ten of the first digit. -/
  point : Int
  deriving DecidableEq, Repr

def digitCount (n : Nat) : Nat := (Nat.toDigits 10 n).length

def leadingPower (num den : Nat) : Int :=
  if den ≤ num then (digitCount (num / den) : Int) - 1
  else
    let d := digitCount (den / num)
    if den ≤ num * Nat.pow 10 (d - 1) then -((d : Int) - 1) else -(d : Int)

def perTen (num den : Nat) (j : Int) : Nat × Nat :=
  if 0 ≤ j then (num, den * Nat.pow 10 j.toNat) else (num * Nat.pow 10 (-j).toNat, den)

def roundingInterval (x : Binary64) : (Nat × Nat) × (Nat × Nat) :=
  let below := if x.significand == Nat.pow 2 52 && leastExponent < x.exponent then 1 else 2
  let quarter := fun (n : Nat) =>
    let e := x.exponent - 2
    if 0 ≤ e then (n * Nat.pow 2 e.toNat, 1) else (n, Nat.pow 2 (-e).toNat)
  (quarter (4 * x.significand - below), quarter (4 * x.significand + 2))

def neighbour (x : Binary64) (n : Nat) : Option Decimal :=
  let (num, den) := x.ratio
  let k := leadingPower num den
  let j := k - (n : Int) + 1
  let (gn, gd) := perTen num den j
  let lo := gn / gd
  let hi := lo + 1
  let (low, high) := x.roundingInterval
  let inside := fun (g : Nat) =>
    let (ln, ld) := perTen low.1 low.2 j
    let (hn, hd) := perTen high.1 high.2 j
    if x.significand % 2 == 0 then decide (ln ≤ g * ld) && decide (g * hd ≤ hn)
    else decide (ln < g * ld) && decide (g * hd < hn)
  let pick := fun (g : Nat) => some ⟨g, k + ((digitCount g : Int) - (n : Int))⟩
  match inside lo, inside hi with
  | false, false => none
  | true, false => pick lo
  | false, true => pick hi
  | true, true =>
    let twice := 2 * (gn % gd)
    if twice < gd then pick lo
    else if gd < twice then pick hi
    else if lo % 2 == 0 then pick lo else pick hi

def shortestFrom (x : Binary64) (n : Nat) : Nat → Option Decimal
  | 0 => neighbour x n
  | more + 1 => (neighbour x n).or (shortestFrom x (n + 1) more)

/-- The shortest decimal for a number that is not zero; 17 digits always suffice. -/
def shortest (x : Binary64) : Decimal :=
  (shortestFrom x 1 16).getD ⟨0, 0⟩

end Backoffice.Binary64
