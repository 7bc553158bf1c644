/-!
Finite binary floating point numbers of 64 bits, in exact arithmetic.

A number is a sign and `significand * 2 ^ exponent` with a significand of at most 53 bits. Every
operation computes the exact quotient and rounds it once, a half to the even neighbour.
-/

namespace Backoffice

/-- A finite number `± significand * 2 ^ exponent`; zero has a sign too. -/
structure Binary64 where
  negative : Bool
  significand : Nat
  exponent : Int
  deriving DecidableEq, Repr

namespace Binary64

def leastExponent : Int := -1074

def greatestExponent : Int := 971

def zero : Binary64 := ⟨false, 0, leastExponent⟩

instance : Inhabited Binary64 := ⟨zero⟩

def roundDiv (num den : Nat) : Nat :=
  let q := num / den
  let r := num % den
  if 2 * r < den then q else if den < 2 * r then q + 1 else if q % 2 == 0 then q else q + 1

def scaleBy (num den : Nat) (e : Int) : Nat × Nat :=
  if 0 ≤ e then (num, den * Nat.pow 2 e.toNat) else (num * Nat.pow 2 (-e).toNat, den)

def ofRatio (negative : Bool) (num den : Nat) : Option Binary64 :=
  if num == 0 then some ⟨negative, 0, leastExponent⟩
  else
    let guess : Int := (num.log2 : Int) - (den.log2 : Int) - 53
    let trial := scaleBy num den guess
    let e := max leastExponent (if trial.1 / trial.2 < Nat.pow 2 53 then guess else guess + 1)
    let scaled := scaleBy num den e
    let m := roundDiv scaled.1 scaled.2
    let (m, e) := if m == Nat.pow 2 53 then (Nat.pow 2 52, e + 1) else (m, e)
    if greatestExponent < e then none else some ⟨negative, m, e⟩

def ratio (x : Binary64) : Nat × Nat :=
  if 0 ≤ x.exponent then (x.significand * Nat.pow 2 x.exponent.toNat, 1)
  else (x.significand, Nat.pow 2 (-x.exponent).toNat)

def mul (x y : Binary64) : Option Binary64 :=
  ofRatio (x.negative != y.negative) (x.ratio.1 * y.ratio.1) (x.ratio.2 * y.ratio.2)

def div (x y : Binary64) : Option Binary64 :=
  ofRatio (x.negative != y.negative) (x.ratio.1 * y.ratio.2) (x.ratio.2 * y.ratio.1)

def ofNat (n : Nat) : Binary64 := (ofRatio false n 1).getD zero

def ofInt (n : Int) : Binary64 := (ofRatio (n < 0) n.natAbs 1).getD zero

def tenLimit : Nat := 308

def tenTo (k : Nat) : Binary64 := ofNat (Nat.pow 10 k)

def divTen (x : Binary64) (k : Nat) : Binary64 :=
  if k ≤ tenLimit then (x.div (tenTo k)).getD zero
  else if x.significand == 0 then x
  else divTen ((x.div (tenTo tenLimit)).getD zero) (k - tenLimit)
termination_by k
decreasing_by simp [tenLimit] at *; omega

def mulTen (x : Binary64) (k : Nat) : Option Binary64 :=
  if k ≤ tenLimit then x.mul (tenTo k)
  else if x.significand == 0 then some x
  else none

/-- The number written `digits * 10 ^ exponent`: the digits are rounded first, then the scaled
result. -/
def ofDecimal (negative : Bool) (digits : Nat) (exponent : Int) : Option Binary64 :=
  let x := ofNat digits
  let scaled := if 0 ≤ exponent then x.mulTen exponent.toNat else some (x.divTen (-exponent).toNat)
  scaled.map fun y => { y with negative }

def signedRatio (x : Binary64) : Int × Nat :=
  (if x.negative then -(x.ratio.1 : Int) else (x.ratio.1 : Int), x.ratio.2)

def cmp (x y : Binary64) : Ordering :=
  compare (x.signedRatio.1 * (y.signedRatio.2 : Int)) (y.signedRatio.1 * (x.signedRatio.2 : Int))

end Binary64

end Backoffice
