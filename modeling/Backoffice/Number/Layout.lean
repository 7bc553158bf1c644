import Backoffice.Number.Shortest

namespace Backoffice

structure NumberLayout where
  /-- Numbers whose first digit has a power of ten in this range are written positionally. -/
  leastPositional : Int
  greatestPositional : Int
  wholeEnding : String
  positiveMark : String

namespace NumberLayout

def digitsOf (n : Nat) : List Char :=
  let ds := (Nat.toDigits 10 n).reverse.dropWhile (· == '0')
  ds.reverse

def zeros (n : Nat) : List Char := List.replicate n '0'

def positional (l : NumberLayout) (ds : List Char) (point : Int) : String :=
  if point < 0 then String.ofList ("0.".toList ++ zeros (-point - 1).toNat ++ ds)
  else
    let whole := point.toNat + 1
    if ds.length ≤ whole then String.ofList (ds ++ zeros (whole - ds.length)) ++ l.wholeEnding
    else String.ofList (ds.take whole ++ '.' :: ds.drop whole)

def scientific (l : NumberLayout) (ds : List Char) (point : Int) : String :=
  let tail := match ds.drop 1 with
    | [] => ""
    | rest => String.ofList ('.' :: rest)
  let mark := if point < 0 then "-" else l.positiveMark
  String.ofList (ds.take 1) ++ tail ++ "e" ++ mark ++ toString point.natAbs

def write (l : NumberLayout) (x : Binary64) : String :=
  let sign := if x.negative then "-" else ""
  let body :=
    if x.significand == 0 then "0" ++ l.wholeEnding
    else
      let d := x.shortest
      let ds := digitsOf d.digits
      if l.leastPositional ≤ d.point && d.point ≤ l.greatestPositional then l.positional ds d.point
      else l.scientific ds d.point
  sign ++ body

end NumberLayout

end Backoffice
