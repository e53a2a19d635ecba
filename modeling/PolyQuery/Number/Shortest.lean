import PolyQuery.Number.Binary64

namespace PolyQuery

/-!
# Shortest decimals

The shortest decimal that reads back as a given double. The reals that round to
the double form an interval around it, closed exactly when the significand is
even. For one digit, two digits and so on, the two neighbours of the double on
that decimal grid are tested against the interval; the first grid with a hit
gives the answer, the nearer neighbour winning and an exact tie going to the
even digit. Seventeen digits always suffice.
-/

/-- A positive decimal `digits · 10 ^ exponent`. -/
structure Decimal where
  digits : Nat
  exponent : Int
  deriving DecidableEq, Repr

namespace Decimal

/-- Drop trailing zeros, at most `fuel` of them. -/
def dropZeros :
    Nat →
    Decimal →
    Decimal
  | 0, decimal => decimal
  | fuel + 1, decimal =>
      if decimal.digits ≠ 0 ∧ decimal.digits % 10 = 0 then
        dropZeros fuel {
          digits := decimal.digits / 10
          exponent := decimal.exponent + 1
        }
      else
        decimal

end Decimal

namespace Binary64

/--
The reals that round to a double, in quarters of a unit.

Below a power of two the next smaller double is only half as far away.
-/
structure Neighbourhood where
  low : Nat
  centre : Nat
  high : Nat
  closed : Bool

/-- The interval of reals that round to a nonzero double. -/
def neighbourhood
    (number : Binary64) :
    Neighbourhood :=
  let step := Nat.pow 2 number.shift
  let centre := 4 * number.units
  let below :=
    if number.significand = binade ∧ 0 < number.shift then
      step
    else
      2 * step
  {
    low := centre - below
    centre := centre
    high := centre + 2 * step
    closed := number.significand % 2 = 0
  }

/-- Whether a ratio of quarter units rounds to the double. -/
def Neighbourhood.admits
    (interval : Neighbourhood)
    (numerator : Nat)
    (denominator : Nat) :
    Bool :=
  if interval.closed then
    interval.low * denominator ≤ numerator &&
      numerator ≤ interval.high * denominator
  else
    interval.low * denominator < numerator &&
      numerator < interval.high * denominator

/-- The decimal exponent of the leading digit of a nonzero magnitude. -/
def leadingExponent
    (number : Binary64) :
    Int :=
  let estimate := ((Nat.log2 number.units : Int) - 1074) * 30103 / 100000
  let next := estimate + 1
  let reached :=
    if 0 ≤ next then
      Nat.pow 10 next.toNat * unitsPerOne ≤ number.units
    else
      unitsPerOne ≤ number.units * Nat.pow 10 (-next).toNat
  if reached then next else estimate

/--
The grid point of `10 ^ exponent` nearest to the double among those
that read back as it.
-/
def nearestOnGrid?
    (number : Binary64)
    (exponent : Int) :
    Option Decimal :=
  let interval := number.neighbourhood
  let quarters := 4 * unitsPerOne
  -- One grid step is `gridSteps / gridParts` quarter units.
  let gridSteps :=
    if 0 ≤ exponent then Nat.pow 10 exponent.toNat * quarters else quarters
  let gridParts := if 0 ≤ exponent then 1 else Nat.pow 10 (-exponent).toNat
  let scaled := interval.centre * gridParts
  let lower := scaled / gridSteps
  let upper := lower + 1
  let admits := fun point => interval.admits (point * gridSteps) gridParts
  let twice := 2 * (scaled % gridSteps)
  let lowerNearer :=
    twice < gridSteps || (twice = gridSteps && lower % 2 = 0)
  let choice :=
    match lower ≠ 0 && admits lower, admits upper with
    | true, true => some (if lowerNearer then lower else upper)
    | true, false => some lower
    | false, true => some upper
    | false, false => none
  choice.map fun digits => {
    digits := digits
    exponent := exponent
  }

/--
The shortest decimal that reads back as a nonzero double,
without trailing zeros.
-/
def shortest
    (number : Binary64) :
    Decimal :=
  let leading := number.leadingExponent
  let grids :=
    (List.range 17).map fun (places : Nat) => leading - (places : Int)
  let found := grids.findSome? number.nearestOnGrid?
  (found.getD ⟨0, 0⟩).dropZeros 400

end Binary64

end PolyQuery
