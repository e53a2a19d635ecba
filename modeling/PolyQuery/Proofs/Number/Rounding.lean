import Mathlib.Algebra.Group.Nat.Even
import Mathlib.Order.Compare
import Mathlib.Order.Monotone.Basic
import PolyQuery.Number.Binary64

namespace PolyQuery.Binary64

/-!
# Rounding to doubles

The double nearest to an integer stands for that integer rounded to 53
significant bits, a tie going to the even significand. Codes order doubles as
their values, so rounding keeps the order of integers, but two integers next to
each other may round to one. Up to `2 ^ 53` every integer is its own rounding.
-/

section Quotients

variable {first second divisor factor : Nat}

theorem le_roundQuotient
    (numerator denominator : Nat) :
    numerator / denominator ≤ roundQuotient numerator denominator := by
  simp only [roundQuotient]
  split <;> [skip; split] <;> omega

theorem roundQuotient_le
    (numerator denominator : Nat) :
    roundQuotient numerator denominator ≤ numerator / denominator + 1 := by
  simp only [roundQuotient]
  split <;> [skip; split] <;> omega

/-- A multiple of the divisor is divided without rounding. -/
theorem roundQuotient_mul
    (positive : 0 < divisor)
    (quotient : Nat) :
    roundQuotient (quotient * divisor) divisor = quotient := by
  simp [roundQuotient, Nat.mul_div_cancel quotient positive, Nat.mul_mod_left,
    positive.ne]

/-- Rounded quotients grow with what is divided. -/
theorem roundQuotient_mono
    (within : first ≤ second) :
    roundQuotient first divisor ≤ roundQuotient second divisor := by
  have quotients : first / divisor ≤ second / divisor :=
    Nat.div_le_div_right within
  rcases Nat.lt_or_eq_of_le quotients with fewer | same
  · calc roundQuotient first divisor
        ≤ first / divisor + 1 := roundQuotient_le first divisor
      _ ≤ second / divisor := fewer
      _ ≤ roundQuotient second divisor := le_roundQuotient second divisor
  · -- With one quotient, it is the remainders that are rounded.
    have firstParts := Nat.div_add_mod first divisor
    have secondParts := Nat.div_add_mod second divisor
    rw [same] at firstParts
    have remainders : first % divisor ≤ second % divisor := by omega
    simp only [roundQuotient, same]
    split <;> split <;> (try split) <;> (try split) <;> omega

/-- A common factor does not change a rounded quotient. -/
theorem roundQuotient_mul_right
    (positive : 0 < factor) :
    roundQuotient (first * factor) (divisor * factor) =
      roundQuotient first divisor := by
  unfold roundQuotient
  rw [Nat.mul_div_mul_right first divisor positive, Nat.mul_mod_mul_right,
    ← Nat.mul_assoc]
  simp [Nat.mul_lt_mul_right positive, Nat.mul_left_inj positive.ne']

end Quotients

/-- A power of two moves a logarithm. -/
theorem log2_mul_two_pow
    {magnitude : Nat}
    (positive : 0 < magnitude)
    (exponent : Nat) :
    Nat.log2 (magnitude * 2 ^ exponent) = Nat.log2 magnitude + exponent := by
  have nonzero : magnitude * 2 ^ exponent ≠ 0 :=
    (Nat.mul_pos positive (Nat.two_pow_pos exponent)).ne'
  refine (Nat.log2_eq_iff nonzero).mpr ⟨?_, ?_⟩
  · rw [Nat.pow_add]
    exact Nat.mul_le_mul_right _ (Nat.log2_self_le positive.ne')
  · rw [Nat.add_right_comm, Nat.pow_add]
    exact Nat.mul_lt_mul_of_pos_right Nat.lt_log2_self
      (Nat.two_pow_pos exponent)

/-- What the last of 53 significant bits of a natural number stands for. -/
def lastPlace
    (magnitude : Nat) :
    Nat :=
  Nat.pow 2 (Nat.log2 magnitude - 52)

/--
A natural number rounded to 53 significant bits, a tie going to
the even significand.
-/
def roundedMagnitude
    (magnitude : Nat) :
    Nat :=
  roundQuotient magnitude (lastPlace magnitude) * lastPlace magnitude

section Magnitudes

variable {magnitude : Nat}

theorem lastPlace_pos
    (magnitude : Nat) :
    0 < lastPlace magnitude :=
  Nat.two_pow_pos _

/-- Without more than 53 bits, the last place is that of the units. -/
theorem lastPlace_of_log2_le
    (short : Nat.log2 magnitude ≤ 52) :
    lastPlace magnitude = 1 := by
  rw [lastPlace, Nat.sub_eq_zero_of_le short, Nat.pow_eq, Nat.pow_zero]

theorem binade_mul_lastPlace
    (long : 52 ≤ Nat.log2 magnitude) :
    binade * lastPlace magnitude = 2 ^ Nat.log2 magnitude := by
  have joined :
      2 ^ 52 * 2 ^ (Nat.log2 magnitude - 52) = 2 ^ Nat.log2 magnitude := by
    rw [← Nat.pow_add, Nat.add_sub_cancel' long]
  exact joined

/-- A multiple of its last place is not rounded. -/
theorem roundedMagnitude_of_dvd
    (exact : lastPlace magnitude ∣ magnitude) :
    roundedMagnitude magnitude = magnitude := by
  have quotient :=
    roundQuotient_mul (lastPlace_pos magnitude)
      (magnitude / lastPlace magnitude)
  rw [Nat.div_mul_cancel exact] at quotient
  rw [roundedMagnitude, quotient, Nat.div_mul_cancel exact]

/-- Up to 53 bits nothing is rounded. -/
theorem roundedMagnitude_of_log2_le
    (short : Nat.log2 magnitude ≤ 52) :
    roundedMagnitude magnitude = magnitude := by
  apply roundedMagnitude_of_dvd
  rw [lastPlace_of_log2_le short]
  exact Nat.one_dvd magnitude

/-- The significand has at most 53 bits, or is the least number of 54. -/
theorem roundQuotient_lastPlace_le
    (magnitude : Nat) :
    roundQuotient magnitude (lastPlace magnitude) ≤ 2 * binade := by
  have within : magnitude ≤ 2 * binade * lastPlace magnitude := by
    rcases Nat.le_total (Nat.log2 magnitude) 52 with short | long
    · have below : magnitude < 2 ^ 53 :=
        Nat.lt_log2_self.trans_le
          (Nat.pow_le_pow_right Nat.two_pos (Nat.succ_le_succ short))
      rw [lastPlace_of_log2_le short]
      exact (below.le : magnitude ≤ 2 ^ 53)
    · have below := (Nat.lt_log2_self : magnitude < 2 ^ (magnitude.log2 + 1))
      rw [Nat.mul_assoc, binade_mul_lastPlace long, ← Nat.pow_succ']
      exact below.le
  calc roundQuotient magnitude (lastPlace magnitude)
      ≤
        roundQuotient (2 * binade * lastPlace magnitude)
          (lastPlace magnitude) :=
        roundQuotient_mono within
    _ = 2 * binade :=
        roundQuotient_mul (lastPlace_pos magnitude) _

/-- A significand that is rounded has its leading bit. -/
theorem le_roundQuotient_lastPlace
    (long : 52 ≤ Nat.log2 magnitude) :
    binade ≤ roundQuotient magnitude (lastPlace magnitude) := by
  have nonzero : magnitude ≠ 0 := by
    rintro rfl
    simp at long
  have within : binade * lastPlace magnitude ≤ magnitude := by
    rw [binade_mul_lastPlace long]
    exact Nat.log2_self_le nonzero
  calc binade
      = roundQuotient (binade * lastPlace magnitude) (lastPlace magnitude) :=
        (roundQuotient_mul (lastPlace_pos magnitude) _).symm
    _ ≤ roundQuotient magnitude (lastPlace magnitude) :=
        roundQuotient_mono within

/-- A power of two is carried through rounding. -/
theorem roundedMagnitude_mul_two_pow
    (magnitude exponent : Nat) :
    roundedMagnitude (magnitude * 2 ^ exponent) =
      roundedMagnitude magnitude * 2 ^ exponent := by
  rcases Nat.eq_zero_or_pos magnitude with rfl | positive
  · simp [roundedMagnitude_of_log2_le]
  have logarithm := log2_mul_two_pow positive exponent
  rcases Nat.le_total (Nat.log2 magnitude) 52 with short | long
  · -- Every significant bit has its place: the new last place divides the power
    -- of two.
    have exact :
        lastPlace (magnitude * 2 ^ exponent) ∣ magnitude * 2 ^ exponent := by
      rw [lastPlace, logarithm]
      exact Nat.dvd_mul_left_of_dvd (Nat.pow_dvd_pow 2 (by omega)) magnitude
    rw [roundedMagnitude_of_dvd exact, roundedMagnitude_of_log2_le short]
  · have place :
        lastPlace (magnitude * 2 ^ exponent) =
          lastPlace magnitude * 2 ^ exponent := by
      rw [lastPlace, lastPlace, logarithm, Nat.sub_add_comm long, Nat.pow_eq,
        Nat.pow_eq, Nat.pow_add]
    rw [roundedMagnitude, roundedMagnitude, place,
      roundQuotient_mul_right (Nat.two_pow_pos exponent), Nat.mul_assoc]

/-- A rounded magnitude lies between the powers of two around the magnitude. -/
theorem roundedMagnitude_le
    (magnitude : Nat) :
    roundedMagnitude magnitude ≤ 2 ^ (Nat.log2 magnitude + 1) := by
  rcases Nat.le_total (Nat.log2 magnitude) 52 with short | long
  · rw [roundedMagnitude_of_log2_le short]
    exact Nat.lt_log2_self.le
  · calc roundedMagnitude magnitude
        ≤ 2 * binade * lastPlace magnitude :=
          Nat.mul_le_mul_right _ (roundQuotient_lastPlace_le magnitude)
      _ = 2 ^ (Nat.log2 magnitude + 1) := by
          rw [Nat.mul_assoc, binade_mul_lastPlace long, Nat.pow_succ']

theorem le_roundedMagnitude
    (nonzero : magnitude ≠ 0) :
    2 ^ Nat.log2 magnitude ≤ roundedMagnitude magnitude := by
  rcases Nat.le_total (Nat.log2 magnitude) 52 with short | long
  · rw [roundedMagnitude_of_log2_le short]
    exact Nat.log2_self_le nonzero
  · rw [← binade_mul_lastPlace long]
    exact Nat.mul_le_mul_right _ (le_roundQuotient_lastPlace long)

/-- Rounding keeps the order of magnitudes. -/
theorem roundedMagnitude_mono :
    Monotone roundedMagnitude := by
  intro magnitude other within
  rcases Nat.eq_zero_or_pos magnitude with rfl | positive
  · simp [roundedMagnitude_of_log2_le]
  have otherNonzero : other ≠ 0 := by omega
  have logarithms : Nat.log2 magnitude ≤ Nat.log2 other :=
    (Nat.le_log2 otherNonzero).mpr
      ((Nat.log2_self_le positive.ne').trans within)
  rcases Nat.lt_or_eq_of_le logarithms with fewer | same
  · -- A power of two stands between magnitudes of different lengths.
    calc roundedMagnitude magnitude
        ≤ 2 ^ (Nat.log2 magnitude + 1) := roundedMagnitude_le magnitude
      _ ≤ 2 ^ Nat.log2 other := Nat.pow_le_pow_right Nat.two_pos fewer
      _ ≤ roundedMagnitude other := le_roundedMagnitude otherNonzero
  · have places : lastPlace magnitude = lastPlace other := by
      rw [lastPlace, lastPlace, same]
    rw [roundedMagnitude, roundedMagnitude, places]
    exact Nat.mul_le_mul_right _ (roundQuotient_mono within)

end Magnitudes

/-- The magnitude that a code stands for, in units. -/
def unitsOfCode
    (code : Nat) :
    Nat :=
  (if code < binade then code else binade + code % binade) *
    Nat.pow 2 (code / binade - 1)

/--
An exponent and a significand, with its leading bit if the exponent
is positive, in units.
-/
theorem unitsOfCode_eq
    {excess quotient : Nat}
    (leading : excess = 0 ∨ binade ≤ quotient)
    (within : quotient ≤ 2 * binade) :
    unitsOfCode (excess * binade + quotient) = quotient * 2 ^ excess := by
  have positive : 0 < binade := by decide
  rcases Nat.lt_or_ge quotient binade with subnormal | normal
  · obtain rfl : excess = 0 := leading.resolve_right (Nat.not_le.mpr subnormal)
    rw [unitsOfCode, Nat.zero_mul, Nat.zero_add, if_pos subnormal,
      Nat.div_eq_of_lt subnormal, Nat.pow_eq]
  obtain ⟨fraction, rfl⟩ := Nat.exists_eq_add_of_le normal
  have code :
      excess * binade + (binade + fraction) =
        fraction + (excess + 1) * binade := by
    rw [Nat.add_one_mul]
    omega
  have notSubnormal : ¬fraction + (excess + 1) * binade < binade := by
    rw [Nat.add_one_mul]
    omega
  rw [unitsOfCode, code, if_neg notSubnormal, Nat.add_mul_mod_self_right,
    Nat.add_mul_div_right _ _ positive]
  rcases Nat.lt_or_eq_of_le
      (Nat.le_of_add_le_add_left (within.trans_eq (Nat.two_mul binade))) with
    fits | carried
  · rw [Nat.mod_eq_of_lt fits, Nat.div_eq_of_lt fits, Nat.zero_add,
      Nat.add_sub_cancel, Nat.pow_eq]
  · subst carried
    rw [Nat.mod_self, Nat.div_self positive, Nat.add_zero,
      Nat.add_sub_cancel_left, Nat.pow_eq, Nat.pow_succ', ← Nat.mul_assoc,
      Nat.mul_two]

/-- Codes grow with the magnitudes they stand for. -/
theorem unitsOfCode_strictMono :
    StrictMono unitsOfCode := by
  refine strictMono_nat_of_lt_succ fun code => ?_
  obtain ⟨excess, quotient, rfl, leading, within⟩ :
      ∃ excess quotient,
        code = excess * binade + quotient ∧
          (excess = 0 ∨ binade ≤ quotient) ∧ quotient < 2 * binade := by
    have positive : 0 < binade := by decide
    have parts := Nat.div_add_mod code binade
    have remainder := Nat.mod_lt code positive
    rw [Nat.mul_comm] at parts
    cases exponent : code / binade with
    | zero =>
        rw [exponent, Nat.zero_mul, Nat.zero_add] at parts
        exact ⟨0, code, by omega, .inl rfl, by omega⟩
    | succ excess =>
        rw [exponent, Nat.add_one_mul] at parts
        exact ⟨excess, binade + code % binade, by omega,
          .inr (Nat.le_add_right _ _), by omega⟩
  rw [Nat.add_assoc, unitsOfCode_eq leading within.le,
    unitsOfCode_eq (leading.imp_right Nat.le_succ_of_le) within]
  exact Nat.mul_lt_mul_of_pos_right (Nat.lt_succ_self quotient)
    (Nat.two_pow_pos excess)

/--
The code nearest to a natural number of units stands for the number rounded.
-/
theorem unitsOfCode_nearestCode
    (magnitude : Nat) :
    unitsOfCode (nearestCode magnitude 1) = roundedMagnitude magnitude := by
  have leading :
      Nat.log2 magnitude - 52 = 0 ∨
        binade ≤ roundQuotient magnitude (lastPlace magnitude) :=
    (Nat.le_total (Nat.log2 magnitude) 52).imp
      Nat.sub_eq_zero_of_le le_roundQuotient_lastPlace
  simp only [nearestCode, Nat.div_one, Nat.one_mul]
  exact unitsOfCode_eq leading (roundQuotient_lastPlace_le magnitude)

/-- A function of magnitudes as an odd function of integers. -/
def withSign
    (ofMagnitude : Nat → Nat)
    (value : Int) :
    Int :=
  if value < 0 then
    -(ofMagnitude value.natAbs : Int)
  else
    ofMagnitude value.natAbs

section Signs

variable
  {ofMagnitude : Nat → Nat}
  {left right : Int}

theorem withSign_le
    (grows : Monotone ofMagnitude)
    (within : left ≤ right) :
    withSign ofMagnitude left ≤ withSign ofMagnitude right := by
  unfold withSign
  split <;> split
  case isTrue.isTrue leftNegative rightNegative =>
    have magnitudes : ofMagnitude right.natAbs ≤ ofMagnitude left.natAbs :=
      grows (by omega)
    omega
  case isTrue.isFalse => omega
  case isFalse.isTrue => omega
  case isFalse.isFalse =>
    have magnitudes : ofMagnitude left.natAbs ≤ ofMagnitude right.natAbs :=
      grows (by omega)
    omega

theorem withSign_lt
    (grows : StrictMono ofMagnitude)
    (below : left < right) :
    withSign ofMagnitude left < withSign ofMagnitude right := by
  unfold withSign
  split <;> split
  case isTrue.isTrue =>
    have magnitudes : ofMagnitude right.natAbs < ofMagnitude left.natAbs :=
      grows (by omega)
    omega
  case isTrue.isFalse =>
    have positive : ofMagnitude 0 < ofMagnitude left.natAbs := grows (by omega)
    omega
  case isFalse.isTrue => omega
  case isFalse.isFalse =>
    have magnitudes : ofMagnitude left.natAbs < ofMagnitude right.natAbs :=
      grows (by omega)
    omega

end Signs

theorem units_eq
    (number : Binary64) :
    number.units = unitsOfCode number.code :=
  rfl

/-- The value of a double is that of its code, with the same sign. -/
theorem signedUnits_eq
    (number : Binary64) :
    number.signedUnits = withSign unitsOfCode number.signedCode := by
  have least : unitsOfCode 0 = 0 := rfl
  unfold signedUnits signedCode withSign
  cases number.negative with
  | false =>
      simp [units_eq]
  | true =>
      rcases Nat.eq_zero_or_pos number.code with isZero | positive
      · simp [units_eq, isZero, least]
      · simp [units_eq, positive]

/-- Doubles are ordered as their values. -/
theorem order_eq_compare
    (left right : Binary64) :
    left.order right = compare left.signedUnits right.signedUnits := by
  have grows : StrictMono (withSign unitsOfCode) :=
    fun _ _ below => withSign_lt unitsOfCode_strictMono below
  rw [order, signedUnits_eq, signedUnits_eq, ← cmp_eq_compare, ← cmp_eq_compare]
  exact (grows.cmp_map_eq left.signedCode right.signedCode).symm

/--
An integer rounded to 53 significant bits, a tie going to the even significand.
-/
def rounded : Int → Int :=
  withSign roundedMagnitude

/-- Rounding keeps the order of integers. -/
theorem rounded_le
    {left right : Int}
    (within : left ≤ right) :
    rounded left ≤ rounded right :=
  withSign_le roundedMagnitude_mono within

/-- Integers of at most 53 bits are not rounded. -/
theorem rounded_of_natAbs_le
    {value : Int}
    (short : value.natAbs ≤ 2 * binade) :
    rounded value = value := by
  have exact : roundedMagnitude value.natAbs = value.natAbs := by
    rcases Nat.lt_or_eq_of_le short with fewer | same
    · apply roundedMagnitude_of_log2_le
      rcases Nat.eq_zero_or_pos value.natAbs with isZero | positive
      · simp [isZero]
      · exact Nat.le_of_lt_succ ((Nat.log2_lt positive.ne').mpr fewer)
    · rw [same]
      decide
  unfold rounded withSign
  split <;> omega

/--
One is a power of two units; the exponent is named, so that the
power is not evaluated.
-/
theorem exists_unitsPerOne_eq :
    ∃ exponent, exponent = 1074 ∧ unitsPerOne = Nat.pow 2 exponent := by
  unfold unitsPerOne
  exact ⟨_, rfl, rfl⟩

theorem unitsPerOne_pos :
    0 < unitsPerOne := by
  obtain ⟨exponent, -, power⟩ := exists_unitsPerOne_eq
  rw [power]
  exact Nat.two_pow_pos exponent

/-- Integers of 128 bits are far below the overflow of doubles. -/
theorem nearestCode_finite
    {magnitude : Nat}
    (within : magnitude ≤ 2 ^ 128) :
    nearestCode (magnitude * unitsPerOne) 1 < 2047 * binade := by
  have excess : Nat.log2 (magnitude * unitsPerOne) - 52 ≤ 1150 := by
    rcases Nat.eq_zero_or_pos magnitude with rfl | positive
    · simp
    have logarithm : Nat.log2 magnitude < 129 :=
      (Nat.log2_lt positive.ne').mpr (within.trans_lt (by decide))
    obtain ⟨exponent, isExponent, units⟩ := exists_unitsPerOne_eq
    rw [units, Nat.pow_eq, log2_mul_two_pow positive]
    omega
  calc nearestCode (magnitude * unitsPerOne) 1
      ≤ 1150 * binade + 2 * binade := by
        simp only [nearestCode, Nat.div_one, Nat.one_mul]
        exact Nat.add_le_add (Nat.mul_le_mul_right binade excess)
          (roundQuotient_lastPlace_le _)
    _ < 2047 * binade := by decide

/-- The value of a double is an integer. -/
def StandsFor
    (number : Binary64)
    (value : Int) :
    Prop :=
  number.signedUnits = value * unitsPerOne

theorem standsFor_zero
    {number : Binary64}
    (noUnits : number.units = 0) :
    number.StandsFor 0 := by
  simp only [StandsFor, signedUnits, noUnits, Int.natCast_zero, Int.neg_zero,
    ite_self, Int.zero_mul]

/--
A rounded magnitude with the sign of an integer stands for the integer rounded.
-/
theorem standsFor_of_units
    {number : Binary64}
    {value : Int}
    (sign : value ≠ 0 → number.negative = decide (value < 0))
    (units : number.units = roundedMagnitude value.natAbs * unitsPerOne) :
    number.StandsFor (rounded value) := by
  rcases eq_or_ne value 0 with rfl | nonzero
  · have nothing : roundedMagnitude 0 = 0 := rfl
    apply standsFor_zero
    rw [units, Int.natAbs_zero, nothing, Nat.zero_mul]
  · simp only [StandsFor, signedUnits, sign nonzero, units, rounded, withSign,
      decide_eq_true_eq]
    split
    · rw [Int.neg_mul, Int.natCast_mul]
    · rw [Int.natCast_mul]

/--
The double with a sign nearest to a natural number stands
for the number rounded.
-/
theorem exists_ofRatio?_eq_some
    (negative : Bool)
    {magnitude : Nat}
    (within : magnitude ≤ 2 ^ 128) :
    ∃ number,
      ofRatio? negative (magnitude * unitsPerOne) 1 = some number ∧
        number.negative = negative ∧
          number.units = roundedMagnitude magnitude * unitsPerOne := by
  have finite := nearestCode_finite within
  refine ⟨⟨negative, _, finite⟩, by simp only [ofRatio?, dif_pos finite], rfl,
    ?_⟩
  obtain ⟨exponent, -, power⟩ := exists_unitsPerOne_eq
  rw [units_eq, unitsOfCode_nearestCode, power, Nat.pow_eq,
    roundedMagnitude_mul_two_pow]

/--
An integer of 128 bits has a nearest double, whose value is the integer rounded.
-/
theorem exists_ofInt?_eq_some
    {value : Int}
    (within : value.natAbs ≤ 2 ^ 128) :
    ∃ number,
      ofInt? value = some number ∧ number.StandsFor (rounded value) := by
  obtain ⟨number, found, sign, units⟩ :=
    exists_ofRatio?_eq_some (value < 0) within
  exact ⟨number, found, standsFor_of_units (fun _ => sign) units⟩

/--
The doubles nearest to two integers of 64 bits are ordered as
the integers rounded.
-/
theorem exists_order_ofInt?
    {left right : Int}
    (leftWithin : left.natAbs ≤ 18446744073709551616)
    (rightWithin : right.natAbs ≤ 18446744073709551616) :
    ∃ leftNearest rightNearest,
      ofInt? left = some leftNearest ∧
        ofInt? right = some rightNearest ∧
          leftNearest.order rightNearest =
            compare (rounded left) (rounded right) := by
  obtain ⟨leftNearest, leftFound, leftUnits⟩ :=
    exists_ofInt?_eq_some (leftWithin.trans (by decide))
  obtain ⟨rightNearest, rightFound, rightUnits⟩ :=
    exists_ofInt?_eq_some (rightWithin.trans (by decide))
  have positive : (0 : Int) < unitsPerOne := Int.natCast_pos.mpr unitsPerOne_pos
  have scaled : StrictMono fun value : Int => value * unitsPerOne :=
    fun _ _ below => Int.mul_lt_mul_of_pos_right below positive
  refine ⟨leftNearest, rightNearest, leftFound, rightFound, ?_⟩
  rw [order_eq_compare, leftUnits, rightUnits, ← cmp_eq_compare,
    ← cmp_eq_compare]
  exact scaled.cmp_map_eq (rounded left) (rounded right)

end PolyQuery.Binary64
