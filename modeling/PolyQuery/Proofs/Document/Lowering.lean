import PolyQuery.Proofs.Computation.Except
import PolyQuery.Proofs.Document.Evaluation
import PolyQuery.Proofs.Entries
import PolyQuery.Proofs.Filter.Meaning
import PolyQuery.Proofs.Regex.Wildcards

namespace PolyQuery.DocumentCompiler

open Failing Matching

/-!
# Operator documents of conditions

A condition becomes a few operators that hold of a value exactly if the
condition does. The operators of several conditions on a field share operator
documents as long as no operator is repeated. Sharing changes nothing: the only
operator that looks at another one is the pattern, which takes the options
beside it, and these never stand without a pattern of their own.
-/

/-- Every operator of an operator document holds of a value. -/
def OperatorsHold
    (operators : Document)
    (actual : Option Json) :
    Prop :=
  ∀ entry ∈ operators, operatorHolds operators actual entry.1 entry.2 = .ok true

/-- What an operator document looks like that conditions are lowered to. -/
structure Lowered
    (operators : Document) :
    Prop where
  nonempty : operators ≠ []
  distinct : Entries.Distinct operators
  marked : ∀ entry ∈ operators, Operator.isMarked entry.1 = true
  noIdentifier : "$oid" ∉ Entries.keys operators
  optionsBesidePattern :
    "$options" ∈ Entries.keys operators → "$regex" ∈ Entries.keys operators
  decides :
    ∀ actual, ∀ entry ∈ operators,
      Decides (operatorHolds operators actual entry.1 entry.2)
        (operatorHolds operators actual entry.1 entry.2 = .ok true)

/-- Only a pattern depends on the operators beside it, through its options. -/
theorem operatorHolds_congr
    {operators others : Document}
    {operator : String}
    (sameOptions :
      operator = "$regex" → operators.get? "$options" = others.get? "$options")
    (actual : Option Json)
    (operand : Json) :
    operatorHolds operators actual operator operand =
      operatorHolds others actual operator operand := by
  by_cases isPattern : operator = "$regex"
  · subst isPattern
    simp only [operatorHolds, regexHolds, optionsBeside, sameOptions rfl]
  · unfold operatorHolds
    split <;> first
      | rfl
      | exact absurd rfl isPattern

/-- An object of lowered operators is read as an operator document. -/
theorem isOperatorDocument_lowered
    {operators : Document}
    (lowered : Lowered operators) :
    isOperatorDocument (.object operators) = true := by
  have notEmpty : operators.isEmpty = false :=
    List.isEmpty_eq_false_iff.mpr lowered.nonempty
  have allMarked :
      (operators.all fun entry => Operator.isMarked entry.1) = true :=
    List.all_eq_true.mpr lowered.marked
  have noId : ObjectId.ofJson? (.object operators) = none := by
    unfold ObjectId.ofJson?
    split
    next digits same =>
      injection same with same
      have named : "$oid" ∈ Entries.keys operators := by
        simp [same, Entries.keys]
      exact absurd named lowered.noIdentifier
    next => rfl
  simp [isOperatorDocument, notEmpty, allMarked, noId]

/--
A condition that is a lowered operator document holds exactly if
every operator does.
-/
theorem conditionHolds_lowered
    {operators : Document}
    (lowered : Lowered operators)
    (actual : Option Json) :
    Decides (conditionHolds actual (.object operators))
      (OperatorsHold operators actual) := by
  simp only [conditionHolds, isOperatorDocument_lowered lowered, if_true,
    Path.membersOf]
  exact allHold_decides (lowered.decides actual)

section Joining

variable
  {first second : Document}
  (firstLowered : Lowered first)
  (secondLowered : Lowered second)
  (disjoint : ∀ key ∈ Entries.keys first, key ∉ Entries.keys second)

include firstLowered secondLowered disjoint

/--
The options beside a pattern are those of the document that
the pattern comes from.
-/
theorem operatorHolds_join
    (actual : Option Json) :
    (∀ entry ∈ first,
      operatorHolds (first ++ second) actual entry.1 entry.2 =
        operatorHolds first actual entry.1 entry.2) ∧
      ∀ entry ∈ second,
        operatorHolds (first ++ second) actual entry.1 entry.2 =
          operatorHolds second actual entry.1 entry.2 := by
  constructor
  · intro entry member
    apply operatorHolds_congr
    intro isPattern
    have noPattern : "$regex" ∉ Entries.keys second :=
      disjoint _ (isPattern ▸ Entries.mem_keys_of_mem member)
    have noOptions : "$options" ∉ Entries.keys second :=
      fun present => noPattern (secondLowered.optionsBesidePattern present)
    -- Options stand beside a pattern only, so the other document cannot bring
    -- any.
    rw [Entries.get?_append, Entries.get?_eq_none_iff.mpr noOptions,
      Option.or_none]
  · intro entry member
    apply operatorHolds_congr
    intro isPattern
    have noPattern : "$regex" ∉ Entries.keys first :=
      fun present =>
        disjoint _ present (isPattern ▸ Entries.mem_keys_of_mem member)
    have noOptions : "$options" ∉ Entries.keys first :=
      fun present => noPattern (firstLowered.optionsBesidePattern present)
    rw [Entries.get?_append, Entries.get?_eq_none_iff.mpr noOptions,
      Option.none_or]

/--
Two lowered documents without a common operator hold
together exactly if both do.
-/
theorem operatorsHold_join
    (actual : Option Json) :
    OperatorsHold (first ++ second) actual ↔
      OperatorsHold first actual ∧ OperatorsHold second actual := by
  obtain ⟨firstSame, secondSame⟩ :=
    operatorHolds_join firstLowered secondLowered disjoint actual
  unfold OperatorsHold
  rw [List.forall_mem_append]
  refine and_congr (forall₂_congr fun entry member => ?_)
    (forall₂_congr fun entry member => ?_)
  · rw [firstSame entry member]
  · rw [secondSame entry member]

/-- Lowered documents without a common operator may share one. -/
theorem Lowered.join :
    Lowered (first ++ second) where
  nonempty := by
    simp [firstLowered.nonempty]
  distinct := by
    simp only [Entries.Distinct, Entries.keys_append]
    refine List.nodup_append.mpr
      ⟨firstLowered.distinct, secondLowered.distinct, ?_⟩
    rintro key inFirst other inSecond rfl
    exact disjoint key inFirst inSecond
  marked := by
    intro entry member
    rcases List.mem_append.mp member with inFirst | inSecond
    · exact firstLowered.marked entry inFirst
    · exact secondLowered.marked entry inSecond
  noIdentifier := by
    simp [firstLowered.noIdentifier, secondLowered.noIdentifier]
  optionsBesidePattern := by
    simp only [Entries.keys_append, List.mem_append]
    exact Or.imp firstLowered.optionsBesidePattern
      secondLowered.optionsBesidePattern
  decides := by
    intro actual entry member
    obtain ⟨firstSame, secondSame⟩ :=
      operatorHolds_join firstLowered secondLowered disjoint actual
    rcases List.mem_append.mp member with inFirst | inSecond
    · rw [firstSame entry inFirst]
      exact firstLowered.decides actual entry inFirst
    · rw [secondSame entry inSecond]
      exact secondLowered.decides actual entry inSecond

end Joining

section Packing

variable
  {fragment : Document}
  {packed : List Document}
  (fragmentLowered : Lowered fragment)
  (packedLowered : ∀ operators ∈ packed, Lowered operators)

include fragmentLowered packedLowered

/--
Packing a lowered fragment leaves lowered documents that hold
exactly if all did with it.
-/
theorem packInto_lowered :
    (∀ operators ∈ packInto fragment packed, Lowered operators) ∧
      ∀ actual,
        (∀ operators ∈ packInto fragment packed,
          OperatorsHold operators actual) ↔
          (∀ operators ∈ packed, OperatorsHold operators actual) ∧
            OperatorsHold fragment actual := by
  induction packed with
  | nil =>
      have asItIs := Entries.ofList_of_distinct fragmentLowered.distinct
      simp [packInto, asItIs, fragmentLowered]
  | cons operators rest inductionHypothesis =>
      obtain ⟨headLowered, restLowered⟩ := List.forall_mem_cons.mp packedLowered
      by_cases fits :
          (fragment.all fun entry => !operators.contains entry.1) = true
      · have disjoint :
            ∀ key ∈ Entries.keys operators, key ∉ Entries.keys fragment := by
          intro key inOperators inFragment
          obtain ⟨entry, member, rfl⟩ := List.mem_map.mp inFragment
          have absent := List.all_eq_true.mp fits entry member
          rw [Entries.contains_iff_mem_keys.mpr inOperators] at absent
          cases absent
        have joinedLowered := headLowered.join fragmentLowered disjoint
        have joined := Entries.insertAll_of_disjoint joinedLowered.distinct
        simp only [packInto, fits, if_true, joined, List.forall_mem_cons]
        refine ⟨⟨joinedLowered, restLowered⟩, fun actual => ?_⟩
        rw [operatorsHold_join headLowered fragmentLowered disjoint]
        exact and_right_comm
      · obtain ⟨packedRest, restHolds⟩ := inductionHypothesis restLowered
        simp only [packInto, fits, Bool.false_eq_true, if_false,
          List.forall_mem_cons]
        refine ⟨⟨headLowered, packedRest⟩, fun actual => ?_⟩
        rw [restHolds, and_assoc]

end Packing

/--
A single operator that can be evaluated is lowered and holds
as it does by itself.
-/
theorem lowered_single
    {name : String}
    {operand : Json}
    {meaning : Option Json → Prop}
    (marked : Operator.isMarked name = true)
    (noIdentifier : name ≠ "$oid")
    (noOptions : name ≠ "$options")
    (decides :
      ∀ actual,
        Decides (operatorHolds [(name, operand)] actual name operand)
          (meaning actual)) :
    Lowered [(name, operand)] ∧
      ∀ actual, OperatorsHold [(name, operand)] actual ↔ meaning actual := by
  refine ⟨?_, fun actual => ?_⟩
  · exact {
      nonempty := by simp
      distinct := by simp [Entries.Distinct, Entries.keys]
      marked := by simp [marked]
      noIdentifier := by simpa [Entries.keys] using Ne.symm noIdentifier
      optionsBesidePattern := by
        simp [Entries.keys, Ne.symm noOptions]
      decides := by
        intro actual entry member
        obtain rfl := List.mem_singleton.mp member
        exact (decides actual).self
    }
  · simp [OperatorsHold, (decides actual).eq_true_iff]

/--
Whether the regular expression of a pattern with wildcards holds
beside some options.
-/
theorem operatorHolds_regex
    {operators : Document}
    {options : Regex.Options}
    (beside : optionsBeside operators = options)
    (pattern : String)
    (actual : Option Json) :
    operatorHolds operators actual "$regex" (.string (likeToRegex pattern)) =
      .ok (Operator.wildcardsHold options pattern actual) := by
  simp only [operatorHolds, regexHolds, beside, Operator.wildcardsHold,
    Regex.ofText?_likeToRegex]
  cases actual with
  | none =>
      rfl
  | some value =>
      cases value <;> rfl

theorem lowered_like
    (pattern : String) :
    Lowered [("$regex", .string (likeToRegex pattern))] ∧
      ∀ actual,
        OperatorsHold [("$regex", .string (likeToRegex pattern))] actual ↔
          Operator.wildcardsHold {} pattern actual = true := by
  apply lowered_single (by decide) (by decide) (by decide)
  intro actual
  exact .of_ok (operatorHolds_regex (by rfl) pattern actual)

theorem lowered_likeIgnoringCase
    (pattern : String) :
    Lowered
        [("$regex", .string (likeToRegex pattern)), ("$options", .string "i")] ∧
      ∀ actual,
        OperatorsHold
            [("$regex", .string (likeToRegex pattern)),
              ("$options", .string "i")] actual ↔
          Operator.wildcardsHold { ignoringCase := true } pattern actual =
            true := by
  have beside :
      optionsBeside
          [("$regex", .string (likeToRegex pattern)),
            ("$options", .string "i")] =
        { ignoringCase := true } := by
    simp [optionsBeside, regexOptions, Json.string?]
  refine ⟨?_, fun actual => ?_⟩
  · exact {
      nonempty := by simp
      distinct := by simp [Entries.Distinct, Entries.keys]
      marked := by simp [Operator.isMarked]
      noIdentifier := by simp [Entries.keys]
      optionsBesidePattern := by simp [Entries.keys]
      decides := by
        intro actual
        simp only [List.forall_mem_cons]
        refine ⟨?_, ?_, by simp⟩
        · exact (Decides.of_ok (operatorHolds_regex beside pattern actual)).self
        · exact ⟨true, rfl, by simp [operatorHolds]⟩
    }
  · simp only [OperatorsHold, List.forall_mem_cons, operatorHolds_regex beside]
    simp [operatorHolds]

theorem lowered_between
    (low high : Json) :
    Lowered [("$gte", low), ("$lte", high)] ∧
      ∀ actual,
        OperatorsHold [("$gte", low), ("$lte", high)] actual ↔
          Operator.between.holds (.array [low, high]) actual = true := by
  refine ⟨?_, fun actual => ?_⟩
  · exact {
      nonempty := by simp
      distinct := by simp [Entries.Distinct, Entries.keys]
      marked := by simp [Operator.isMarked]
      noIdentifier := by simp [Entries.keys]
      optionsBesidePattern := by simp [Entries.keys]
      decides := by
        intro actual
        simp only [List.forall_mem_cons]
        refine ⟨?_, ?_, by simp⟩
        · exact (Decides.of_ok rfl).self
        · exact (Decides.of_ok rfl).self
    }
  · simp [OperatorsHold, operatorHolds, Operator.holds]

/--
An operator under its own marked tag holds exactly as it does
of a stored operand.
-/
theorem lowered_tagged
    {operator : Operator}
    {stored : Json}
    (evaluates :
      ∀ actual,
        operatorHolds [("$" ++ operator.tag, stored)] actual
            ("$" ++ operator.tag) stored =
          .ok (operator.holds stored actual)) :
    Lowered [("$" ++ operator.tag, stored)] ∧
      ∀ actual,
        OperatorsHold [("$" ++ operator.tag, stored)] actual ↔
          operator.holds stored actual = true := by
  apply lowered_single
  · cases operator <;> decide
  · cases operator <;> decide
  · cases operator <;> decide
  · exact fun actual => .of_ok (evaluates actual)

section Conditions

variable
  {codec : IdentifierCodec}
  {field key : String}
  {operator : Operator}
  {operand : Json}
  {fragment : Document}

theorem lowered_comparison
    (succeeded :
      (storedValue codec key operand >>= fun stored =>
        pure [("$" ++ operator.tag, stored)]) = .ok fragment)
    (scalar :
      operator.storedOperand codec key operand = storedValue codec key operand)
    (evaluates :
      ∀ stored actual,
        operatorHolds [("$" ++ operator.tag, stored)] actual
            ("$" ++ operator.tag) stored =
          .ok (operator.holds stored actual)) :
    Lowered fragment ∧
      ∃ stored,
        operator.storedOperand codec key operand = .ok stored ∧
          ∀ actual, OperatorsHold fragment actual ↔
            operator.holds stored actual = true := by
  obtain ⟨stored, encoded, same⟩ := bind_eq_ok.mp succeeded
  cases same
  obtain ⟨lowered, holds⟩ := lowered_tagged (evaluates stored)
  exact ⟨lowered, stored, scalar.trans encoded, holds⟩

theorem lowered_membership
    {items : List Json}
    (succeeded :
      (items.mapM (storedValue codec key) >>= fun stored =>
        pure [("$" ++ operator.tag, Json.array stored)]) = .ok fragment)
    (listed :
      operator.storedOperand codec key (.array items) =
        (items.mapM (storedValue codec key)).map .array)
    (evaluates :
      ∀ stored actual,
        operatorHolds [("$" ++ operator.tag, .array stored)] actual
            ("$" ++ operator.tag) (.array stored) =
          .ok (operator.holds (.array stored) actual)) :
    Lowered fragment ∧
      ∃ stored,
        operator.storedOperand codec key (.array items) = .ok stored ∧
          ∀ actual, OperatorsHold fragment actual ↔
            operator.holds stored actual = true := by
  obtain ⟨stored, encoded, same⟩ := bind_eq_ok.mp succeeded
  cases same
  obtain ⟨lowered, holds⟩ := lowered_tagged (evaluates stored)
  exact ⟨lowered, .array stored, by rw [listed, encoded]; rfl, holds⟩

/--
The operators of a condition hold exactly if its own operator does.

The operand is taken as it is stored, which succeeds if lowering does.
-/
theorem lowered_of_lowerOperator
    (succeeded :
      lowerOperator codec field key operator operand = .ok fragment) :
    Lowered fragment ∧
      ∃ stored,
        operator.storedOperand codec key operand = .ok stored ∧
          ∀ actual, OperatorsHold fragment actual ↔
            operator.holds stored actual = true := by
  cases operator with
  | equal | notEqual | greater | atLeast | less | atMost =>
      exact lowered_comparison succeeded rfl fun _ _ => rfl
  | oneOf | noneOf =>
      cases operand with
      | array items =>
          exact lowered_membership succeeded rfl fun _ _ => rfl
      | _ =>
          cases succeeded
  | like =>
      cases operand with
      | string pattern =>
          cases succeeded
          obtain ⟨lowered, holds⟩ := lowered_like pattern
          exact ⟨lowered, _, rfl, holds⟩
      | _ =>
          cases succeeded
  | likeIgnoringCase =>
      cases operand with
      | string pattern =>
          cases succeeded
          obtain ⟨lowered, holds⟩ := lowered_likeIgnoringCase pattern
          exact ⟨lowered, _, rfl, holds⟩
      | _ =>
          cases succeeded
  | between =>
      simp only [lowerOperator] at succeeded
      split at succeeded
      next low high =>
        obtain ⟨storedLow, lowEncoded, rest⟩ := bind_eq_ok.mp succeeded
        obtain ⟨storedHigh, highEncoded, same⟩ := bind_eq_ok.mp rest
        cases same
        obtain ⟨lowered, holds⟩ := lowered_between storedLow storedHigh
        refine ⟨lowered, .array [storedLow, storedHigh], ?_, holds⟩
        have encoded :
            [low, high].mapM (storedValue codec key) =
              .ok [storedLow, storedHigh] :=
          mapM_eq_ok.mpr (.cons lowEncoded (.cons highEncoded .nil))
        simp only [Operator.storedOperand, encoded]
        rfl
      next =>
        cases succeeded

/--
The operators of a condition hold of the value at a key exactly if the
condition does there.
-/
theorem operatorsHold_lowerOperator
    (succeeded : lowerOperator codec field key operator operand = .ok fragment)
    (document : Document) :
    OperatorsHold fragment (document.lookup? key) ↔
      operator.HoldsAt codec document key operand := by
  obtain ⟨-, stored, encoded, holds⟩ := lowered_of_lowerOperator succeeded
  rw [holds, Operator.holdsAt_iff encoded]

/--
The operator documents of conditions hold together exactly if
all the conditions do.
-/
theorem packConditions_lowered
    {conditions : List Condition}
    {packed result : List Document}
    (succeeded : packConditions codec field key conditions packed = .ok result)
    (packedLowered : ∀ operators ∈ packed, Lowered operators) :
    (∀ operators ∈ result, Lowered operators) ∧
      ∀ document : Document,
        (∀ operators ∈ result, OperatorsHold operators (document.lookup? key)) ↔
          (∀ operators ∈ packed,
            OperatorsHold operators (document.lookup? key)) ∧
            ∀ condition ∈ conditions, condition.HoldsAt codec document key := by
  induction conditions generalizing packed with
  | nil =>
      cases succeeded
      exact ⟨packedLowered, by simp⟩
  | cons condition rest inductionHypothesis =>
      obtain ⟨operator, named, lowering⟩ := bind_eq_ok.mp succeeded
      obtain ⟨fragment, lowered, packing⟩ := bind_eq_ok.mp lowering
      have fragmentLowered := (lowered_of_lowerOperator lowered).1
      obtain ⟨stepLowered, stepHolds⟩ :=
        packInto_lowered fragmentLowered packedLowered
      obtain ⟨resultLowered, resultHolds⟩ :=
        inductionHypothesis packing stepLowered
      refine ⟨resultLowered, fun document => ?_⟩
      rw [resultHolds, stepHolds, operatorsHold_lowerOperator lowered,
        ← Condition.holdsAt_iff named, List.forall_mem_cons, and_assoc]

end Conditions

end PolyQuery.DocumentCompiler
