import PolyQuery.Proofs.Number.Rounding

namespace PolyQuery.Binary64

/-!
# Rounded results

Doubles that stand for integers are added and multiplied by rounding the exact
sum or product of those integers once. A sum of integers of 64 bits and a
product of them are far below the overflow, so both have a double.
-/

theorem natAbs_signedUnits
    (number : Binary64) :
    number.signedUnits.natAbs = number.units := by
  unfold signedUnits
  split <;> simp only [Int.natAbs_neg, Int.natAbs_natCast]

/-- A common factor does not change the code nearest to a ratio. -/
theorem nearestCode_mul_right
    {factor : Nat}
    (positive : 0 < factor)
    (numerator denominator : Nat) :
    nearestCode (numerator * factor) (denominator * factor) =
      nearestCode numerator denominator := by
  have excess :
      numerator * factor / (denominator * factor) = numerator / denominator :=
    Nat.mul_div_mul_right numerator denominator positive
  have divisor (power : Nat) :
      denominator * factor * power = denominator * power * factor :=
    Nat.mul_right_comm denominator factor power
  simp only [nearestCode, excess, divisor, roundQuotient_mul_right positive]

/--
An integer of 64 bits is rounded to one, or to the least
power of two above them.
-/
theorem natAbs_rounded_le
    {value : Int}
    (within : value.natAbs ≤ 2 ^ 64) :
    (rounded value).natAbs ≤ 2 ^ 64 := by
  have power : roundedMagnitude (2 ^ 64) = 2 ^ 64 := by
    have carried := roundedMagnitude_mul_two_pow 1 64
    have one : roundedMagnitude 1 = 1 := roundedMagnitude_of_log2_le (by decide)
    simpa only [one, Nat.one_mul] using carried
  have magnitude : (rounded value).natAbs = roundedMagnitude value.natAbs := by
    unfold rounded withSign
    split <;> simp only [Int.natAbs_neg, Int.natAbs_natCast]
  calc (rounded value).natAbs
      = roundedMagnitude value.natAbs := magnitude
    _ ≤ roundedMagnitude (2 ^ 64) := roundedMagnitude_mono within
    _ = 2 ^ 64 := power

theorem units_zero
    (negative : Bool) :
    (zero negative).units = 0 :=
  -- The power of two does not count where the significand is zero.
  Nat.zero_mul _

/-- A positive scale keeps the sign of an integer. -/
theorem scaled_neg_iff
    {value scale : Int}
    (positive : 0 < scale) :
    value * scale < 0 ↔ value < 0 := by
  rw [Int.mul_neg_iff]
  omega

section Operands

variable
  {left right : Binary64}
  {leftValue rightValue : Int}
  (leftStands : left.StandsFor leftValue)
  (rightStands : right.StandsFor rightValue)

include leftStands

theorem StandsFor.units_eq :
    left.units = leftValue.natAbs * unitsPerOne := by
  rw [← natAbs_signedUnits, leftStands, Int.natAbs_mul, Int.natAbs_natCast]

/--
A double has the sign of the integer that it stands for, unless that is zero.
-/
theorem StandsFor.negative_eq
    (nonzero : leftValue ≠ 0) :
    left.negative = decide (leftValue < 0) := by
  have positive : (0 : Int) < unitsPerOne := Int.natCast_pos.mpr unitsPerOne_pos
  have sign : leftValue * (unitsPerOne : Int) < 0 ↔ leftValue < 0 :=
    scaled_neg_iff positive
  have nonzeroUnits := Int.mul_ne_zero nonzero positive.ne'
  unfold StandsFor signedUnits at leftStands
  rw [← leftStands] at sign nonzeroUnits
  cases isNegative : left.negative with
  | false =>
      simp only [isNegative, Bool.false_eq_true, if_false] at sign
      exact (decide_eq_false (sign.not.mp (by omega))).symm
  | true =>
      simp only [isNegative, if_true] at sign nonzeroUnits
      exact (decide_eq_true (sign.mp (by omega))).symm

include rightStands

/--
The sum of doubles that stand for integers is the sum of the
integers, rounded once.
-/
theorem exists_add?_eq_some
    (within : (leftValue + rightValue).natAbs ≤ 2 ^ 128) :
    ∃ total,
      left.add? right = some total ∧
        total.StandsFor (rounded (leftValue + rightValue)) := by
  have positive : (0 : Int) < unitsPerOne := Int.natCast_pos.mpr unitsPerOne_pos
  have exact :
      left.signedUnits + right.signedUnits =
        (leftValue + rightValue) * unitsPerOne := by
    rw [Int.add_mul]
    exact congrArg₂ (· + ·) leftStands rightStands
  rcases eq_or_ne (leftValue + rightValue) 0 with cancels | remains
  · have noneLeft : left.signedUnits + right.signedUnits = 0 := by
      rw [exact, cancels, Int.zero_mul]
    refine ⟨zero (left.negative && right.negative), if_pos noneLeft, ?_⟩
    rw [cancels]
    exact standsFor_zero (units_zero _)
  · have someLeft := Int.mul_ne_zero remains positive.ne'
    obtain ⟨total, found, stands⟩ := exists_ofInt?_eq_some within
    refine ⟨total, ?_, stands⟩
    simp only [add?, exact, if_neg someLeft, scaled_neg_iff positive,
      Int.natAbs_mul, Int.natAbs_natCast]
    exact found

/--
The product of doubles that stand for integers is the product of the
integers, rounded once.
-/
theorem exists_mul?_eq_some
    (within : (leftValue * rightValue).natAbs ≤ 2 ^ 128) :
    ∃ product,
      left.mul? right = some product ∧
        product.StandsFor (rounded (leftValue * rightValue)) := by
  have code :
      nearestCode (left.units * right.units) unitsPerOne =
        nearestCode ((leftValue * rightValue).natAbs * unitsPerOne) 1 := by
    have exact :
        left.units * right.units =
          (leftValue * rightValue).natAbs * unitsPerOne * unitsPerOne := by
      simp only [leftStands.units_eq, rightStands.units_eq, Int.natAbs_mul,
        Nat.mul_assoc, Nat.mul_left_comm]
    have scaled :=
      nearestCode_mul_right unitsPerOne_pos
        ((leftValue * rightValue).natAbs * unitsPerOne) 1
    rw [exact]
    rwa [Nat.one_mul] at scaled
  obtain ⟨product, found, sign, units⟩ :=
    exists_ofRatio?_eq_some (left.negative != right.negative) within
  refine ⟨product, ?_, standsFor_of_units ?_ units⟩
  · simp only [mul?, ofRatio?, code]
    exact found
  · intro nonzero
    obtain ⟨leftNonzero, rightNonzero⟩ := Int.mul_ne_zero_iff.mp nonzero
    rw [sign, leftStands.negative_eq leftNonzero,
      rightStands.negative_eq rightNonzero, Bool.eq_iff_iff]
    simp only [bne_iff_ne, ne_eq, decide_eq_decide, decide_eq_true_eq,
      Int.mul_neg_iff]
    omega

end Operands

end PolyQuery.Binary64
