import PolyQuery.Document.Matching

namespace PolyQuery.Matching

/-!
# Evaluating filter documents

Evaluation stops at the first entry that fails, and an entry that cannot be
evaluated is an error. Where every part can be evaluated, the order of the
parts does not matter: a filter document holds exactly if all its entries do,
a combination exactly if all or some of its clauses do.
-/

/--
A computation answers a truth value, which says whether something is the case.
-/
def Decides
    (computation : Except QueryError Bool)
    (meaning : Prop) :
    Prop :=
  ∃ value, computation = .ok value ∧ (value = true ↔ meaning)

namespace Decides

variable {computation : Except QueryError Bool} {meaning other : Prop}

theorem eq_true_iff
    (decides : Decides computation meaning) :
    computation = .ok true ↔ meaning := by
  obtain ⟨value, rfl, means⟩ := decides
  rw [← means]
  simp

theorem eq_false_iff
    (decides : Decides computation meaning) :
    computation = .ok false ↔ ¬meaning := by
  obtain ⟨value, rfl, means⟩ := decides
  rw [← means]
  simp

theorem congr
    (decides : Decides computation meaning)
    (equivalent : meaning ↔ other) :
    Decides computation other := by
  obtain ⟨value, answered, means⟩ := decides
  exact ⟨value, answered, means.trans equivalent⟩

theorem of_ok
    {value : Bool}
    (answered : computation = .ok value) :
    Decides computation (value = true) :=
  ⟨value, answered, Iff.rfl⟩

theorem iff
    (decides : Decides computation meaning)
    (also : Decides computation other) :
    meaning ↔ other :=
  decides.eq_true_iff.symm.trans also.eq_true_iff

theorem self
    (decides : Decides computation meaning) :
    Decides computation (computation = .ok true) :=
  decides.congr decides.eq_true_iff.symm

end Decides

/-- A list of items that can be evaluated holds exactly if every item does. -/
theorem allHold_decides
    {α : Type}
    {holds : α → Except QueryError Bool}
    {meaning : α → Prop}
    {items : List α}
    (decides : ∀ item ∈ items, Decides (holds item) (meaning item)) :
    Decides (allHold holds items) (∀ item ∈ items, meaning item) := by
  induction items with
  | nil =>
      exact ⟨true, rfl, by simp⟩
  | cons item rest inductionHypothesis =>
      obtain ⟨value, answered, means⟩ := decides item List.mem_cons_self
      cases value with
      | false =>
          refine ⟨false, by simp [allHold, answered], ?_⟩
          simp only [Bool.false_eq_true, false_iff] at means ⊢
          exact fun all => means (all item List.mem_cons_self)
      | true =>
          have restDecides :=
            inductionHypothesis fun later member =>
              decides later (List.mem_cons_of_mem item member)
          have itemHolds : meaning item := means.mp rfl
          simp only [allHold, answered]
          exact restDecides.congr (by simp [itemHolds])

theorem allHold_single
    {α : Type}
    (holds : α → Except QueryError Bool)
    (item : α) :
    allHold holds [item] = holds item := by
  unfold allHold
  rcases holds item with _ | _ | _ <;> rfl

theorem allHold_congr
    {α : Type}
    {holds others : α → Except QueryError Bool}
    {items : List α}
    (alike : ∀ item ∈ items, holds item = others item) :
    allHold holds items = allHold others items := by
  induction items with
  | nil =>
      rfl
  | cons item rest inductionHypothesis =>
      obtain ⟨itemAlike, restAlike⟩ := List.forall_mem_cons.mp alike
      rw [allHold, allHold, itemAlike, inductionHypothesis restAlike]

theorem filterHolds_eq_allHold
    (document : Document)
    (filter : List (String × Json)) :
    filterHolds document filter =
      allHold (fun entry => entryHolds document entry.1 entry.2) filter := by
  induction filter with
  | nil =>
      rfl
  | cons entry rest inductionHypothesis =>
      obtain ⟨key, condition⟩ := entry
      simp only [filterHolds, allHold, inductionHypothesis]

/--
A filter document whose entries can be evaluated holds exactly
if every entry does.
-/
theorem filterHolds_decides
    {document : Document}
    {meaning : String × Json → Prop}
    {filter : List (String × Json)}
    (decides :
      ∀ entry ∈ filter,
        Decides (entryHolds document entry.1 entry.2) (meaning entry)) :
    Decides (filterHolds document filter)
      (∀ entry ∈ filter, meaning entry) := by
  rw [filterHolds_eq_allHold]
  exact allHold_decides decides

/--
Clauses that can be evaluated decide a combination exactly if one of them does.
-/
theorem anyDecides_decides
    {document : Document}
    {connective : Connective}
    {meaning : Json → Prop}
    {clauses : List Json}
    (decides :
      ∀ clause ∈ clauses,
        Decides ((clauseHolds document clause).map connective.decides)
          (meaning clause)) :
    Decides (anyDecides document connective clauses)
      (∃ clause ∈ clauses, meaning clause) := by
  induction clauses with
  | nil =>
      exact ⟨false, rfl, by simp⟩
  | cons clause rest inductionHypothesis =>
      obtain ⟨value, answered, means⟩ := decides clause List.mem_cons_self
      obtain ⟨held, evaluated, rfl⟩ :
          ∃ held, clauseHolds document clause = .ok held ∧
            connective.decides held = value := by
        cases outcome : clauseHolds document clause with
        | error cause =>
            simp [outcome, Except.map] at answered
        | ok held =>
            exact ⟨held, rfl, by simpa [outcome, Except.map] using answered⟩
      by_cases decisive : connective.decides held = true
      · refine ⟨true, by simp [anyDecides, evaluated, decisive], ?_⟩
        have clauseMeans := means.mp decisive
        simp [clauseMeans]
      · have restDecides :=
          inductionHypothesis fun later member =>
            decides later (List.mem_cons_of_mem clause member)
        have clauseFails : ¬meaning clause :=
          fun holds => decisive (means.mpr holds)
        simp only [anyDecides, evaluated, decisive, Bool.false_eq_true,
          if_false]
        exact restDecides.congr (by simp [clauseFails])

section Combinations

variable
  {document : Document}
  {meaning : Json → Prop}
  {clauses : List Json}
  (objects : ∀ clause ∈ clauses, clause.isObject = true)
  (decides :
    ∀ clause ∈ clauses, Decides (clauseHolds document clause) (meaning clause))

include objects decides

/-- Clauses under `$or` hold exactly if one of them does. -/
theorem entryHolds_or_decides :
    Decides (entryHolds document "$or" (.array clauses))
      (∃ clause ∈ clauses, meaning clause) := by
  have someDecides :
      Decides (anyDecides document .any clauses)
        (∃ clause ∈ clauses, meaning clause) := by
    apply anyDecides_decides
    intro clause member
    obtain ⟨value, answered, means⟩ := decides clause member
    exact ⟨value, by simp [answered, Except.map, Connective.decides], means⟩
  obtain ⟨value, answered, means⟩ := someDecides
  refine ⟨value, ?_, means⟩
  have allObjects : clauses.all Json.isObject = true :=
    List.all_eq_true.mpr objects
  simp [entryHolds, Connective.ofKey?, allObjects, answered, Except.map,
    Connective.outcome]

/-- Clauses under `$and` hold exactly if all of them do. -/
theorem entryHolds_and_decides :
    Decides (entryHolds document "$and" (.array clauses))
      (∀ clause ∈ clauses, meaning clause) := by
  have someFails :
      Decides (anyDecides document .all clauses)
        (∃ clause ∈ clauses, ¬meaning clause) := by
    apply anyDecides_decides
    intro clause member
    obtain ⟨value, answered, means⟩ := decides clause member
    refine ⟨!value, by simp [answered, Except.map, Connective.decides], ?_⟩
    rw [← means]
    simp
  obtain ⟨value, answered, means⟩ := someFails
  refine ⟨!value, ?_, ?_⟩
  · have allObjects : clauses.all Json.isObject = true :=
      List.all_eq_true.mpr objects
    simp [entryHolds, Connective.ofKey?, allObjects, answered, Except.map,
      Connective.outcome]
  · rw [Bool.not_eq_true', ← Bool.not_eq_true, means]
    simp

end Combinations

/-- An entry under an unmarked key is a condition on the value at that path. -/
theorem entryHolds_path
    {key : String}
    (unmarked : Operator.isMarked key = false)
    (document : Document)
    (condition : Json) :
    entryHolds document key condition =
      conditionHolds (document.lookup? key) condition := by
  have noConnective : Connective.ofKey? key = none := by
    unfold Connective.ofKey?
    split <;> first
      | rfl
      | exact absurd unmarked (by decide)
  cases condition <;> simp [entryHolds, noConnective, unmarked]

/-- A filter with one entry holds if that entry does. -/
theorem filterHolds_singleton
    (document : Document)
    (key : String)
    (condition : Json) :
    filterHolds document [(key, condition)] =
      entryHolds document key condition := by
  rw [filterHolds_eq_allHold, allHold_single]

/--
A filter document of one entry under an unmarked key is the
condition on that path.
-/
theorem matches_single
    {key : String}
    (unmarked : Operator.isMarked key = false)
    (document : Document)
    (condition : Json) :
    document.matches [(key, condition)] =
      conditionHolds (document.lookup? key) condition := by
  rw [Document.matches, filterHolds_singleton, entryHolds_path unmarked]

/-- An operator document of one operator is that operator. -/
theorem conditionHolds_single
    {operator : String}
    (marked : Operator.isMarked operator = true)
    (noIdentifier : operator ≠ "$oid")
    (actual : Option Json)
    (operand : Json) :
    conditionHolds actual (.object [(operator, operand)]) =
      operatorHolds [(operator, operand)] actual operator operand := by
  have noId : ObjectId.ofJson? (.object [(operator, operand)]) = none := by
    simp [ObjectId.ofJson?, noIdentifier]
  have isOperators :
      isOperatorDocument (.object [(operator, operand)]) = true := by
    simp [isOperatorDocument, marked, noId]
  rw [conditionHolds, if_pos isOperators]
  exact allHold_single _ _

/-- A value that is no operator document is compared for equality. -/
theorem conditionHolds_of_plain
    {condition : Json}
    (plain : isOperatorDocument condition = false)
    (actual : Option Json) :
    conditionHolds actual condition = .ok (equals actual condition) := by
  simp [conditionHolds, plain]

end PolyQuery.Matching
