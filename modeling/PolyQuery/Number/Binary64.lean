namespace PolyQuery

/-!
# Finite binary64 numbers

A finite double is a sign and a magnitude code: its exponent and fraction bits
read as one natural number. Codes grow with magnitudes, so comparison is
comparison of signed codes, and the gap between two neighbours is found by
arithmetic on the code alone.

Magnitudes are counted in units of `2 ^ -1074`, the least positive double.
Every operation forms its exact result as a ratio of natural numbers and rounds
it once, to nearest with ties to the even code; a result at or above
`2 ^ 1024 - 2 ^ 970` has no finite double and is refused.
-/

/-- The number of codes from one power of two to the next, `2 ^ 52`. -/
def binade : Nat :=
  4503599627370496

/-- A finite double: sign and magnitude code. -/
structure Binary64 where
  negative : Bool
  code : Nat
  finite : code < 2047 * binade
  deriving DecidableEq

namespace Binary64

/-- Units of `2 ^ -1074` in one. -/
def unitsPerOne : Nat :=
  Nat.pow 2 1074

/--
The integral significand: the fraction, with the leading bit of a normal number.
-/
def significand
    (number : Binary64) :
    Nat :=
  if number.code < binade then
    number.code
  else
    binade + number.code % binade

/-- The power of two that one step of the significand stands for, in units. -/
def shift
    (number : Binary64) :
    Nat :=
  number.code / binade - 1

/-- The magnitude in units of `2 ^ -1074`. -/
def units
    (number : Binary64) :
    Nat :=
  number.significand * Nat.pow 2 number.shift

/-- The signed value in units of `2 ^ -1074`. -/
def signedUnits
    (number : Binary64) :
    Int :=
  if number.negative then
    -(number.units : Int)
  else
    number.units

/--
The code with its sign, which orders the finite doubles; both
zeros have code zero.
-/
def signedCode
    (number : Binary64) :
    Int :=
  if number.negative then
    -(number.code : Int)
  else
    number.code

/--
A quotient rounded to the nearest natural number, a tie going to the even one.
-/
def roundQuotient
    (numerator : Nat)
    (denominator : Nat) :
    Nat :=
  let quotient := numerator / denominator
  let twice := 2 * (numerator % denominator)
  if twice > denominator then
    quotient + 1
  else if twice = denominator ∧ quotient % 2 = 1 then
    quotient + 1
  else
    quotient

/--
The code nearest to a ratio of units.

The ratio is scaled down until its integral part has at most 53 bits; a carry
out of the significand moves into the exponent bits by itself.
-/
def nearestCode
    (numerator : Nat)
    (denominator : Nat) :
    Nat :=
  let excess := Nat.log2 (numerator / denominator) - 52
  excess * binade + roundQuotient numerator (denominator * Nat.pow 2 excess)

/-- The double with a sign nearest to a ratio of units, if it is finite. -/
def ofRatio?
    (negative : Bool)
    (numerator : Nat)
    (denominator : Nat) :
    Option Binary64 :=
  let code := nearestCode numerator denominator
  if finite : code < 2047 * binade then
    some {
      negative := negative
      code := code
      finite := finite
    }
  else
    none

/-- The double nearest to an integer, if it is finite. -/
def ofInt?
    (value : Int) :
    Option Binary64 :=
  ofRatio? (value < 0) (value.natAbs * unitsPerOne) 1

/-- Zero with a sign. -/
def zero
    (negative : Bool) :
    Binary64 :=
  {
    negative := negative
    code := 0
    finite := by decide
  }

/-- The rounded sum; an exact zero is negative only if both terms are. -/
def add?
    (left : Binary64)
    (right : Binary64) :
    Option Binary64 :=
  let total := left.signedUnits + right.signedUnits
  if total = 0 then
    some (zero (left.negative && right.negative))
  else
    ofRatio? (total < 0) total.natAbs 1

/-- The rounded product. -/
def mul?
    (left : Binary64)
    (right : Binary64) :
    Option Binary64 :=
  ofRatio?
    (left.negative != right.negative)
    (left.units * right.units)
    unitsPerOne

/-- The rounded quotient, refused for a zero divisor. -/
def div?
    (left : Binary64)
    (right : Binary64) :
    Option Binary64 :=
  if right.units = 0 then
    none
  else
    ofRatio?
      (left.negative != right.negative)
      (left.units * unitsPerOne)
      right.units

/-- Order by value. -/
def order
    (left : Binary64)
    (right : Binary64) :
    Ordering :=
  compare left.signedCode right.signedCode

/-- Equality by value: the two zeros are equal. -/
def same
    (left : Binary64)
    (right : Binary64) :
    Bool :=
  left.signedCode == right.signedCode

end Binary64

end PolyQuery
