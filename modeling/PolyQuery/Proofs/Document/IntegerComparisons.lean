import PolyQuery.Proofs.Document.Evaluation
import PolyQuery.Proofs.Number.Rounding

namespace PolyQuery.Matching

open Binary64 (rounded rounded_le rounded_of_natAbs_le)

/-!
# Comparisons with integers

Equality compares integers themselves, the other comparisons the doubles
nearest to them. So the five comparisons of a field with an integer follow the
order of the two exactly if they are equal or are rounded apart, as any two up
to `2 ^ 53` are. Of two different integers with one rounding none is less,
equal or greater, while each is at most and at least the other.
-/

/-- Numbers are ordered as the doubles nearest to them. -/
theorem order?_number
    {left right : Number}
    {leftNearest rightNearest : Binary64}
    (leftFound : left.binary64? = some leftNearest)
    (rightFound : right.binary64? = some rightNearest) :
    (Json.number left).order? (.number right) =
      some (leftNearest.order rightNearest) := by
  simp only [Json.order?, leftFound, rightFound]

/-- Integers of 64 bits are ordered as they are rounded. -/
theorem order?_ofInt
    {left right : Int}
    (leftRange : (Number.integer left).InRange)
    (rightRange : (Number.integer right).InRange) :
    (Json.ofInt left).order? (.ofInt right) =
      some (compare (rounded left) (rounded right)) := by
  simp only [Number.InRange, signedMin, unsignedMax] at leftRange rightRange
  have leftWithin : left.natAbs ≤ 18446744073709551616 := by omega
  have rightWithin : right.natAbs ≤ 18446744073709551616 := by omega
  obtain ⟨leftNearest, rightNearest, leftFound, rightFound, ordered⟩ :=
    Binary64.exists_order_ofInt? leftWithin rightWithin
  rw [← ordered]
  exact order?_number leftFound rightFound

/-- Values that compare are ordered as they compare. -/
theorem ordered_of_order?
    {actual expected : Json}
    {order : Ordering}
    (compared : actual.order? expected = some order)
    (accept : Ordering → Bool) :
    ordered (some actual) expected accept = accept order := by
  simp only [ordered, Option.bind_some, compared]

/-- Integers are equal as themselves. -/
theorem equals_ofInt_iff
    (left right : Int) :
    equals (some (.ofInt left)) (.ofInt right) = true ↔ left = right := by
  simp [equals, Json.ofInt, Json.same, Number.same]

/-- The filter document that compares the value at a path with an integer. -/
def comparison
    (path : String)
    (operator : String)
    (operand : Int) :
    Document :=
  [(path, .object [(operator, .ofInt operand)])]

/--
What each of the five comparisons of a path with an integer tells of a document.
-/
structure ComparisonsDecide
    (document : Document)
    (path : String)
    (operand : Int)
    (less equal greater atMost atLeast : Prop) :
    Prop where
  less : Decides (document.matches (comparison path "$lt" operand)) less
  equal : Decides (document.matches (comparison path "$eq" operand)) equal
  greater : Decides (document.matches (comparison path "$gt" operand)) greater
  atMost : Decides (document.matches (comparison path "$lte" operand)) atMost
  atLeast : Decides (document.matches (comparison path "$gte" operand)) atLeast

/--
The comparisons with an integer tell how the integer that the
document holds stands to it.
-/
def ComparesExactly
    (document : Document)
    (path : String)
    (held operand : Int) :
    Prop :=
  ComparisonsDecide document path operand
    (held < operand) (held = operand) (operand < held) (held ≤ operand)
    (operand ≤ held)

section Comparisons

variable
  {document : Document}
  {path : String}
  {held operand : Int}
  (unmarked : Operator.isMarked path = false)
  (holds : document.lookup? path = some (.ofInt held))

include unmarked holds

theorem matches_comparison
    {operator : String}
    (marked : Operator.isMarked operator = true)
    (noIdentifier : operator ≠ "$oid") :
    document.matches (comparison path operator operand) =
      operatorHolds [(operator, .ofInt operand)] (some (.ofInt held)) operator
        (.ofInt operand) := by
  rw [comparison, matches_single unmarked, holds,
    conditionHolds_single marked noIdentifier]

/--
Equality follows the integers, the other comparisons what they are rounded to.
-/
theorem comparisonsDecide_rounded
    (heldRange : (Number.integer held).InRange)
    (operandRange : (Number.integer operand).InRange) :
    ComparisonsDecide document path operand
      (rounded held < rounded operand)
      (held = operand)
      (rounded operand < rounded held)
      (rounded held ≤ rounded operand)
      (rounded operand ≤ rounded held) := by
  have compared := ordered_of_order? (order?_ofInt heldRange operandRange)
  constructor
  case less =>
    refine ⟨_, matches_comparison unmarked holds (by decide) (by decide), ?_⟩
    rw [compared, decide_eq_true_iff, Int.compare_eq_lt]
  case equal =>
    exact ⟨_, matches_comparison unmarked holds (by decide) (by decide),
      equals_ofInt_iff held operand⟩
  case greater =>
    refine ⟨_, matches_comparison unmarked holds (by decide) (by decide), ?_⟩
    rw [compared, decide_eq_true_iff, Int.compare_eq_gt]
  case atMost =>
    refine ⟨_, matches_comparison unmarked holds (by decide) (by decide), ?_⟩
    rw [compared, decide_eq_true_iff, ne_eq, Int.compare_eq_gt, Int.not_lt]
  case atLeast =>
    refine ⟨_, matches_comparison unmarked holds (by decide) (by decide), ?_⟩
    rw [compared, decide_eq_true_iff, ne_eq, Int.compare_eq_lt, Int.not_lt]

/--
What is rounded together is neither less nor greater, but at most and at least.
-/
theorem comparisonsDecide_apart
    (heldRange : (Number.integer held).InRange)
    (operandRange : (Number.integer operand).InRange) :
    ComparisonsDecide document path operand
      (held < operand ∧ rounded held ≠ rounded operand)
      (held = operand)
      (operand < held ∧ rounded held ≠ rounded operand)
      (held ≤ operand ∨ rounded held = rounded operand)
      (operand ≤ held ∨ rounded held = rounded operand) := by
  have decided :=
    comparisonsDecide_rounded unmarked holds heldRange operandRange
  have forward : held ≤ operand → rounded held ≤ rounded operand := rounded_le
  have backward : operand ≤ held → rounded operand ≤ rounded held := rounded_le
  exact {
    less := decided.less.congr (by omega)
    equal := decided.equal
    greater := decided.greater.congr (by omega)
    atMost := decided.atMost.congr (by omega)
    atLeast := decided.atLeast.congr (by omega)
  }

/--
Comparisons follow the order of two integers exactly if these are
equal or rounded apart.
-/
theorem comparesExactly_iff
    (heldRange : (Number.integer held).InRange)
    (operandRange : (Number.integer operand).InRange) :
    ComparesExactly document path held operand ↔
      (held = operand ∨ rounded held ≠ rounded operand) := by
  have decided := comparisonsDecide_apart unmarked holds heldRange operandRange
  constructor
  · intro exact
    rcases Int.lt_trichotomy held operand with below | same | above
    · exact .inr ((exact.less.iff decided.less).mp below).2
    · exact .inl same
    · exact .inr ((exact.greater.iff decided.greater).mp above).2
  · intro apart
    exact {
      less := decided.less.congr (by omega)
      equal := decided.equal
      greater := decided.greater.congr (by omega)
      atMost := decided.atMost.congr (by omega)
      atLeast := decided.atLeast.congr (by omega)
    }

end Comparisons

/--
Comparisons of a field with an integer.

Equality follows the integers. The other comparisons follow what they are
rounded to: two integers that are rounded together are neither less nor
greater, but at most and at least each other. So all five follow the order of
the integers exactly if these are equal or rounded apart, which any two up to
`2 ^ 53` are.
-/
theorem integers_compared_as_rounded
    {document : Document}
    {path : String}
    {held operand : Int}
    (unmarked : Operator.isMarked path = false)
    (holds : document.lookup? path = some (.ofInt held))
    (heldRange : (Number.integer held).InRange)
    (operandRange : (Number.integer operand).InRange) :
    ComparisonsDecide document path operand
        (held < operand ∧ rounded held ≠ rounded operand)
        (held = operand)
        (operand < held ∧ rounded held ≠ rounded operand)
        (held ≤ operand ∨ rounded held = rounded operand)
        (operand ≤ held ∨ rounded held = rounded operand) ∧
      (ComparesExactly document path held operand ↔
        (held = operand ∨ rounded held ≠ rounded operand)) ∧
      (held.natAbs ≤ 9007199254740992 →
        operand.natAbs ≤ 9007199254740992 →
        ComparesExactly document path held operand) := by
  have exactly := comparesExactly_iff unmarked holds heldRange operandRange
  refine ⟨comparisonsDecide_apart unmarked holds heldRange operandRange,
    exactly, ?_⟩
  intro heldShort operandShort
  refine exactly.mpr ?_
  rw [rounded_of_natAbs_le heldShort, rounded_of_natAbs_le operandShort]
  exact em (held = operand)

theorem integers_compared_as_rounded_of_neighbours :
    Operator.isMarked "a" = false ∧
      Document.lookup? [("a", .ofInt 9007199254740993)] "a" =
        some (.ofInt 9007199254740993) ∧
      (Number.integer 9007199254740993).InRange ∧
      (Number.integer 9007199254740994).InRange ∧
      ComparesExactly [("a", .ofInt 9007199254740993)] "a" 9007199254740993
        9007199254740994 := by
  have unmarked : Operator.isMarked "a" = false := by decide
  have holds :
      Document.lookup? [("a", .ofInt 9007199254740993)] "a" =
        some (.ofInt 9007199254740993) := by
    decide
  have heldRange : (Number.integer 9007199254740993).InRange :=
    ⟨by decide, by decide⟩
  have operandRange : (Number.integer 9007199254740994).InRange :=
    ⟨by decide, by decide⟩
  have apart : rounded 9007199254740993 ≠ rounded 9007199254740994 := by
    decide
  refine ⟨unmarked, holds, heldRange, operandRange, ?_⟩
  exact (integers_compared_as_rounded unmarked holds heldRange
    operandRange).2.1.mpr (.inr apart)

/--
The integer after `2 ^ 53` is neither less nor equal nor greater than `2 ^ 53`.
-/
theorem next_integer_incomparable :
    Document.matches [("a", .ofInt 9007199254740993)]
          (comparison "a" "$lt" 9007199254740992) = .ok false ∧
      Document.matches [("a", .ofInt 9007199254740993)]
          (comparison "a" "$eq" 9007199254740992) = .ok false ∧
      Document.matches [("a", .ofInt 9007199254740993)]
          (comparison "a" "$gt" 9007199254740992) = .ok false ∧
      Document.matches [("a", .ofInt 9007199254740993)]
          (comparison "a" "$lte" 9007199254740992) = .ok true ∧
      Document.matches [("a", .ofInt 9007199254740993)]
          (comparison "a" "$gte" 9007199254740992) = .ok true := by
  have holds :
      Document.lookup? [("a", .ofInt 9007199254740993)] "a" =
        some (.ofInt 9007199254740993) := by
    decide
  have heldRange : (Number.integer 9007199254740993).InRange :=
    ⟨by decide, by decide⟩
  have operandRange : (Number.integer 9007199254740992).InRange :=
    ⟨by decide, by decide⟩
  have decided :=
    comparisonsDecide_rounded (by decide) holds heldRange operandRange
  refine ⟨?_, ?_, ?_, ?_, ?_⟩
  · exact decided.less.eq_false_iff.mpr (by decide)
  · exact decided.equal.eq_false_iff.mpr (by decide)
  · exact decided.greater.eq_false_iff.mpr (by decide)
  · exact decided.atMost.eq_true_iff.mpr (by decide)
  · exact decided.atLeast.eq_true_iff.mpr (by decide)

end PolyQuery.Matching
