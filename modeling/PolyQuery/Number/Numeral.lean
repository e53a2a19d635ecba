import PolyQuery.Number.Shortest

namespace PolyQuery

/-!
# Decimal numerals of doubles

How a double is written and how a numeral is read.

Writing takes the shortest digits that read back. A decimal exponent between
`-5` and `15` is written positionally with at least one digit on either side of
the point, any other as `d.ddde±x`.

Reading takes a 64-bit significand and a power of ten: the significand is
rounded to a double, then multiplied or divided by the rounded power of ten.
Two roundings may end one step away from the double nearest to the numeral;
that is the rule of the format.
-/

namespace Binary64

/-- The nearest double to a power of ten up to `10 ^ 308`. -/
def powerOfTen?
    (exponent : Nat) :
    Option Binary64 :=
  if exponent ≤ 308 then
    ofInt? (Nat.pow 10 exponent)
  else
    none

/--
Scale a magnitude by a power of ten.

An exponent below `-308` is reached in steps of `308`; above `308` only zero is
in range. `fuel` bounds the steps, of which `1 + |exponent| / 308` are needed.
-/
def scaleByTen? :
    Nat →
    Binary64 →
    Int →
    Option Binary64
  | 0, _, _ => none
  | fuel + 1, magnitude, exponent =>
      match powerOfTen? exponent.natAbs with
      | some power =>
          if 0 ≤ exponent then
            magnitude.mul? power
          else
            magnitude.div? power
      | none =>
          if magnitude.code = 0 then
            some magnitude
          else if 0 ≤ exponent then
            none
          else
            match powerOfTen? 308 with
            | none => none
            | some power =>
                match magnitude.div? power with
                | none => none
                | some smaller => scaleByTen? fuel smaller (exponent + 308)

/--
The double that a sign, a significand and a power of ten stand
for, if it is finite.
-/
def ofNumeral?
    (negative : Bool)
    (significand : Nat)
    (exponent : Int) :
    Option Binary64 := do
  let magnitude ← ofInt? significand
  -- A nonzero magnitude is zero after a few steps of `308`.
  let scaled ← scaleByTen? 8 magnitude exponent
  return { scaled with negative := negative }

/-- Zeros in a row. -/
def zeros
    (count : Nat) :
    String :=
  String.ofList (List.replicate count '0')

/-- The numeral of a nonzero magnitude from its shortest digits. -/
def numeralOfDecimal
    (decimal : Decimal) :
    String :=
  let digits := (toString decimal.digits).toList
  let count := digits.length
  let leading := decimal.exponent + count - 1
  if 0 ≤ leading ∧ leading ≤ 15 then
    let whole := leading.toNat + 1
    if count ≤ whole then
      String.ofList digits ++ zeros (whole - count) ++ ".0"
    else
      String.ofList (digits.take whole) ++ "." ++
        String.ofList (digits.drop whole)
  else if -5 ≤ leading ∧ leading < 0 then
    "0." ++ zeros ((-leading).toNat - 1) ++ String.ofList digits
  else
    let mantissa :=
      match digits with
      | [] => ""
      | [digit] => String.ofList [digit]
      | digit :: rest => String.ofList [digit] ++ "." ++ String.ofList rest
    let sign := if leading < 0 then "e-" else "e+"
    mantissa ++ sign ++ toString leading.natAbs

/-- The numeral of a double. -/
def numeral
    (number : Binary64) :
    String :=
  let magnitude :=
    if number.code = 0 then
      "0.0"
    else
      numeralOfDecimal number.shortest
  if number.negative then
    "-" ++ magnitude
  else
    magnitude

end Binary64

end PolyQuery
