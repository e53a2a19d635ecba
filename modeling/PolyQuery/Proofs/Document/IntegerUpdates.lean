import PolyQuery.Proofs.Document.BareValues
import PolyQuery.Proofs.Document.DistinctIdentifiers
import PolyQuery.Proofs.Number.RoundedResults

namespace PolyQuery.Update

open Binary64 (rounded)

/-!
# Updates of integers

An increment or a multiplication of an integer by an integer is exact as long as
both of them and the result are signed integers of 64 bits. Anything else is
done with doubles: the two integers are rounded, and the result is rounded once
more. Such a result is never refused, and never an integer, so none is wrapped.
-/

/-- The arithmetic of an operator that combines numbers. -/
def arithmeticOf? : String → Option Arithmetic
  | "$inc" => some addition
  | "$mul" => some multiplication
  | _ => none

/-- A signed integer of 64 bits. -/
def IsSigned
    (value : Int) :
    Prop :=
  signedMin ≤ value ∧ value ≤ signedMax

instance
    (value : Int) :
    Decidable (IsSigned value) :=
  inferInstanceAs (Decidable (signedMin ≤ value ∧ value ≤ signedMax))

/-- Two integers and what is made of them are signed. -/
def StaysSigned
    (arithmetic : Arithmetic)
    (left right : Int) :
    Prop :=
  IsSigned left ∧ IsSigned right ∧ IsSigned (arithmetic.exact left right)

instance
    (arithmetic : Arithmetic)
    (left right : Int) :
    Decidable (StaysSigned arithmetic left right) :=
  inferInstanceAs
    (Decidable
      (IsSigned left ∧ IsSigned right ∧ IsSigned (arithmetic.exact left right)))

theorem exactResult?_integer
    (arithmetic : Arithmetic)
    (left right : Int) :
    exactResult? arithmetic (.integer left) (.integer right) =
      if StaysSigned arithmetic left right then
        some (arithmetic.exact left right)
      else
        none := by
  have read (value : Int) :
      (Number.integer value).signed? =
        if IsSigned value then some value else none :=
    rfl
  simp only [exactResult?, read, StaysSigned]
  by_cases leftSigned : IsSigned left
  · by_cases rightSigned : IsSigned right
    · simp only [leftSigned, rightSigned, if_true, true_and]
      rfl
    · simp only [leftSigned, rightSigned, if_true, if_false, false_and,
        and_false]
  · simp only [leftSigned, if_false, false_and]

theorem combine_of_exact
    {arithmetic : Arithmetic}
    {left right : Number}
    {result : Int}
    (exact : exactResult? arithmetic left right = some result)
    (path operator : String) :
    combine arithmetic path operator (.number left) (.number right) =
      .ok (.ofInt result) := by
  simp only [combine, exact]

/-- Without an exact result, the doubles of two numbers are combined. -/
theorem combine_of_rounded
    {arithmetic : Arithmetic}
    {left right : Number}
    {leftNearest rightNearest result : Binary64}
    (notExact : exactResult? arithmetic left right = none)
    (leftFound : left.binary64? = some leftNearest)
    (rightFound : right.binary64? = some rightNearest)
    (isResult : arithmetic.rounded? leftNearest rightNearest = some result)
    (path operator : String) :
    combine arithmetic path operator (.number left) (.number right) =
      .ok (.number (.real result)) := by
  simp only [combine, notExact, leftFound, rightFound, isResult]

section Rounding

variable
  {operator : String}
  {arithmetic : Arithmetic}
  (combines : arithmeticOf? operator = some arithmetic)

include combines

theorem eq_addition_or_multiplication :
    operator = "$inc" ∧ arithmetic = addition ∨
      operator = "$mul" ∧ arithmetic = multiplication := by
  unfold arithmeticOf? at combines
  split at combines
  · exact .inl ⟨rfl, (Option.some.inj combines).symm⟩
  · exact .inr ⟨rfl, (Option.some.inj combines).symm⟩
  · cases combines

/--
The doubles of two integers of 64 bits have a rounded sum and a rounded product.
-/
theorem exists_rounded?_eq_some
    {left right : Binary64}
    {leftValue rightValue : Int}
    (leftStands : left.StandsFor leftValue)
    (rightStands : right.StandsFor rightValue)
    (leftWithin : leftValue.natAbs ≤ 2 ^ 64)
    (rightWithin : rightValue.natAbs ≤ 2 ^ 64) :
    ∃ result,
      arithmetic.rounded? left right = some result ∧
        result.StandsFor (rounded (arithmetic.exact leftValue rightValue)) := by
  rcases eq_addition_or_multiplication combines with ⟨-, rfl⟩ | ⟨-, rfl⟩
  · apply Binary64.exists_add?_eq_some leftStands rightStands
    omega
  · apply Binary64.exists_mul?_eq_some leftStands rightStands
    calc (leftValue * rightValue).natAbs
        = leftValue.natAbs * rightValue.natAbs :=
          Int.natAbs_mul leftValue rightValue
      _ ≤ 2 ^ 64 * 2 ^ 64 := Nat.mul_le_mul leftWithin rightWithin
      _ = 2 ^ 128 := rfl

/-- What an operator makes of two integers. -/
theorem exists_combine_integers
    {left right : Int}
    (leftRange : (Number.integer left).InRange)
    (rightRange : (Number.integer right).InRange)
    (path : String) :
    ∃ result,
      combine arithmetic path operator (.ofInt left) (.ofInt right) =
          .ok result ∧
        (StaysSigned arithmetic left right →
          result = .ofInt (arithmetic.exact left right)) ∧
          (¬StaysSigned arithmetic left right →
            ∃ real,
              result = .number (.real real) ∧
                real.StandsFor
                  (rounded
                    (arithmetic.exact (rounded left) (rounded right)))) := by
  by_cases signed : StaysSigned arithmetic left right
  · have exact :=
      (exactResult?_integer arithmetic left right).trans (if_pos signed)
    exact ⟨_, combine_of_exact exact path operator, fun _ => rfl,
      fun unsigned => absurd signed unsigned⟩
  · have notExact :=
      (exactResult?_integer arithmetic left right).trans (if_neg signed)
    simp only [Number.InRange, signedMin, unsignedMax] at leftRange rightRange
    have leftWithin : left.natAbs ≤ 2 ^ 64 := by omega
    have rightWithin : right.natAbs ≤ 2 ^ 64 := by omega
    have widened : (2 : Nat) ^ 64 ≤ 2 ^ 128 :=
      Nat.pow_le_pow_right Nat.two_pos (by decide)
    obtain ⟨leftNearest, leftFound, leftStands⟩ :=
      Binary64.exists_ofInt?_eq_some (leftWithin.trans widened)
    obtain ⟨rightNearest, rightFound, rightStands⟩ :=
      Binary64.exists_ofInt?_eq_some (rightWithin.trans widened)
    -- Rounding carries an operand to the power of two above the range at most.
    obtain ⟨real, isResult, stands⟩ :=
      exists_rounded?_eq_some combines leftStands rightStands
        (Binary64.natAbs_rounded_le leftWithin)
        (Binary64.natAbs_rounded_le rightWithin)
    exact ⟨_,
      combine_of_rounded notExact leftFound rightFound isResult path operator,
      fun isSigned => absurd isSigned signed, fun _ => ⟨real, rfl, stands⟩⟩

/--
An operator that combines numbers writes what it makes of the present
one and its operand.
-/
theorem runFrom_changeAt_combining
    {document : Document}
    {path : String}
    {present operand result : Json}
    (found : document.lookup? path = some present)
    (made : combine arithmetic path operator present operand = .ok result)
    (inserting : Bool)
    (supply : Supply) :
    (changeAt inserting operator path operand).runFrom (document, supply) =
      (.ok (), (document.setPath path result, supply)) := by
  have changed :
      change inserting operator path operand document =
        .ok (document.setPath path result) := by
    rcases eq_addition_or_multiplication combines with ⟨rfl, rfl⟩ | ⟨rfl, rfl⟩
    · simp only [change, found, Option.getD_some, made, Except.map]
    · simp only [change, found, Option.getD_some, made, Except.map]
  have notClock : operator ≠ "$currentDate" := by
    rcases eq_addition_or_multiplication combines with ⟨rfl, -⟩ | ⟨rfl, -⟩
    · decide
    · decide
  simp only [changeAt, Stateful.runFrom_bind, Stateful.runFrom_get,
    if_neg notClock, changed, Stateful.runFrom_set]

end Rounding

/--
An integer that is incremented or multiplied by an integer.

The change succeeds. If both integers and the exact result are signed, the
result is stored as it is; otherwise the result of the two integers rounded to
doubles is stored, itself rounded to a double. An integer that is stored is the
exact result.
-/
theorem integers_combined_exactly_or_as_doubles
    {operator : String}
    {arithmetic : Arithmetic}
    {document : Document}
    {path : String}
    {stored operand : Int}
    (combines : arithmeticOf? operator = some arithmetic)
    (found : document.lookup? path = some (.ofInt stored))
    (storedRange : (Number.integer stored).InRange)
    (operandRange : (Number.integer operand).InRange)
    (inserting : Bool)
    (supply : Supply) :
    ∃ result,
      (changeAt inserting operator path (.ofInt operand)).runFrom
        (document, supply) =
          (.ok (), (document.setPath path result, supply)) ∧
        (document.setPath path result).lookup? path = some result ∧
          (StaysSigned arithmetic stored operand →
            result = .ofInt (arithmetic.exact stored operand)) ∧
          (¬StaysSigned arithmetic stored operand →
            ∃ real,
              result = .number (.real real) ∧
                real.StandsFor
                  (rounded
                    (arithmetic.exact (rounded stored) (rounded operand)))) ∧
          ∀ integer, result = .ofInt integer →
            integer = arithmetic.exact stored operand := by
  obtain ⟨result, made, exact, approximate⟩ :=
    exists_combine_integers combines storedRange operandRange path
  refine ⟨result,
    runFrom_changeAt_combining combines found made inserting supply,
    Document.lookup?_setPath document path result, exact, approximate, ?_⟩
  rintro integer rfl
  by_cases signed : StaysSigned arithmetic stored operand
  · cases exact signed
    rfl
  · obtain ⟨real, isReal, -⟩ := approximate signed
    cases isReal

/-- A document that counts. -/
def counting
    (value : Json) :
    Document :=
  [("_id", .ofInt 1), ("n", value)]

theorem integers_combined_at_limits :
    (∃ result,
      (changeAt false "$inc" "n" (.ofInt 1)).runFrom
          (counting (.ofInt 9223372036854775806), Store.firstSupply) =
        (.ok (), ((counting (.ofInt 9223372036854775806)).setPath "n" result,
          Store.firstSupply)) ∧
        result = .ofInt 9223372036854775807) ∧
      ∃ result real,
        (changeAt false "$mul" "n" (.ofInt (-2))).runFrom
            (counting (.ofInt 18446744073709551615), Store.firstSupply) =
          (.ok (), ((counting (.ofInt 18446744073709551615)).setPath "n" result,
            Store.firstSupply)) ∧
          result = .number (.real real) ∧
            real.StandsFor (-36893488147419103232) := by
  have signedFound :
      (counting (.ofInt 9223372036854775806)).lookup? "n" =
        some (.ofInt 9223372036854775806) := by
    decide
  have unsignedFound :
      (counting (.ofInt 18446744073709551615)).lookup? "n" =
        some (.ofInt 18446744073709551615) := by
    decide
  have storedSigned : (Number.integer 9223372036854775806).InRange :=
    ⟨by decide, by decide⟩
  have storedUnsigned : (Number.integer 18446744073709551615).InRange :=
    ⟨by decide, by decide⟩
  have added : (Number.integer 1).InRange := ⟨by decide, by decide⟩
  have multiplied : (Number.integer (-2)).InRange := ⟨by decide, by decide⟩
  constructor
  · obtain ⟨result, ran, -, exact, -⟩ :=
      integers_combined_exactly_or_as_doubles
        (rfl : arithmeticOf? "$inc" = some addition)
        signedFound storedSigned added false Store.firstSupply
    exact ⟨result, ran, exact (by decide)⟩
  · obtain ⟨result, ran, -, -, approximate, -⟩ :=
      integers_combined_exactly_or_as_doubles
        (rfl : arithmeticOf? "$mul" = some multiplication)
        unsignedFound storedUnsigned multiplied false Store.firstSupply
    obtain ⟨real, isReal, stands⟩ := approximate (by decide)
    have value :
        rounded
            (multiplication.exact (rounded 18446744073709551615)
              (rounded (-2))) =
          -36893488147419103232 := by
      decide
    exact ⟨result, real, ran, isReal, value ▸ stands⟩

/--
The greatest signed integer plus two is an unsigned integer, but the double
below it is stored.
-/
theorem sum_above_signed_is_rounded :
    signedMin ≤ 9223372036854775809 ∧
      (9223372036854775809 : Int) ≤ unsignedMax ∧
      addition.exact 9223372036854775807 2 = 9223372036854775809 ∧
      ∃ real,
        Collection.applyTo false [("$inc", .object [("n", .ofInt 2)])]
            (counting (.ofInt 9223372036854775807)) Store.firstSupply =
          (.ok (), counting (.number (.real real)), Store.firstSupply) ∧
        real.StandsFor 9223372036854775808 ∧
        Json.number (.real real) ≠ .ofInt 9223372036854775809 := by
  have found :
      (counting (.ofInt 9223372036854775807)).lookup? "n" =
        some (.ofInt 9223372036854775807) := by
    decide
  have stored : (Number.integer 9223372036854775807).InRange :=
    ⟨by decide, by decide⟩
  have added : (Number.integer 2).InRange := ⟨by decide, by decide⟩
  obtain ⟨result, made, -, approximate⟩ :=
    exists_combine_integers (rfl : arithmeticOf? "$inc" = some addition) stored
      added "n"
  obtain ⟨real, rfl, stands⟩ := approximate (by decide)
  have value :
      rounded (addition.exact (rounded 9223372036854775807) (rounded 2)) =
        9223372036854775808 := by
    decide
  have written :
      (counting (.ofInt 9223372036854775807)).setPath "n"
          (.number (.real real)) =
        counting (.number (.real real)) :=
    rfl
  refine ⟨by decide, by decide, rfl, real, ?_, value ▸ stands, nofun⟩
  simp only [Collection.applyTo, apply, applyPaths, Stateful.runFrom_bind,
    runFrom_changeAt_combining rfl found made, written, Stateful.runFrom_pure]

end PolyQuery.Update
