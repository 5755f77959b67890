import GatewayLink.Binary64.Basic

/-! Shortest decimal digits of a binary64 number.
The numbers that round to a given one form an interval around it, whose ends belong to it when the
significand is even. `shortest` takes the coarsest decimal grid that has a point in the interval, and of
the two grid points next to the number the nearer one, the even one on a tie. Seventeen digits always
suffice. -/

namespace GatewayLink

/-- A positive decimal number: digits `d₀ d₁ d₂ …` stand for `d₀.d₁d₂… * 10 ^ exponent`. -/
structure Decimal where
  digits : List Char
  exponent : Int
  deriving DecidableEq

namespace Decimal

def dropTrailingZeros (ds : List Char) : List Char :=
  (ds.reverse.dropWhile (· == '0')).reverse

def ofScaled (n : Nat) (scale : Int) : Decimal :=
  let ds := Nat.toDigits 10 n
  ⟨dropTrailingZeros ds, scale + ds.length - 1⟩

def parts (d : Decimal) : List Char × List Char :=
  if 0 ≤ d.exponent then
    let places := d.exponent.toNat + 1
    let whole := d.digits.take places
    (whole ++ List.replicate (places - whole.length) '0', d.digits.drop places)
  else (['0'], List.replicate (-d.exponent - 1).toNat '0' ++ d.digits)

def leadingExponent (num den : Nat) : Int :=
  if den ≤ num then (Nat.toDigits 10 (num / den)).length - 1
  else -((Nat.toDigits 10 ((den - 1) / num)).length : Int)

end Decimal

namespace Binary64

/-- Half the distance to the next smaller number is half as large at a power of two. -/
def lowerGap (x : Binary64) : Nat :=
  if x.significand = hiddenBit ∧ x.shift ≠ 0 then 1 else 2

def roundsHere (x : Binary64) (num den : Nat) : Bool :=
  let lo := (4 * x.significand - x.lowerGap) * den
  let hi := (4 * x.significand + 2) * den
  if x.significand % 2 = 0 then lo ≤ num && num ≤ hi else lo < num && num < hi

def gridPoint? (x : Binary64) (scale : Int) : Option Nat :=
  let up := Nat.pow 10 scale.toNat
  let down := Nat.pow 10 (-scale).toNat
  let num := x.units * down
  let den := unitsPerOne * up
  let below := num / den
  let rest := num % den
  let hits (n : Nat) : Bool := x.roundsHere (4 * n * den) (Nat.pow 2 x.shift * down)
  match hits below, hits (below + 1) with
  | true, true =>
    some (if 2 * rest < den then below
      else if den < 2 * rest then below + 1
      else below + below % 2)
  | true, false => some below
  | false, true => some (below + 1)
  | false, false => none

/-- The shortest decimal number that reads back as the magnitude of `x`, for a finite `x` other than
zero. -/
def shortest (x : Binary64) : Decimal :=
  let lead := Decimal.leadingExponent x.units unitsPerOne
  let found := (List.range 17).findSome? fun (more : Nat) =>
    let scale := lead - more
    (x.gridPoint? scale).map (Decimal.ofScaled · scale)
  found.getD ⟨['0'], 0⟩

end Binary64

end GatewayLink
