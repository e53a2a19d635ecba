import PolyQuery.Proofs.Document.AffectedDocuments
import PolyQuery.Proofs.Document.EqualRows
import PolyQuery.Proofs.Query.FullTable

namespace PolyQuery

open Failing

/-!
# Repeated upserts

An upsert can be repeated if a document that it left behind satisfies its
filter: then it finds that document the next time and inserts nothing. What it
inserts starts from the entries of the filter document that are values. A field
that is asked to equal a bare value is such an entry; the same equality asked by
an operator is a document of operators, of which the new document takes nothing.
So an upsert that had to insert can be repeated exactly if all its equalities
are bare.
-/

theorem Json.same_self_of_scalar
    {value : Json}
    (scalar : value.isScalar = true) :
    value.same value = true := by
  cases value with
  | number value =>
      cases value <;> simp [Json.same, Number.same, Binary64.same]
  | array items =>
      cases scalar
  | object members =>
      cases scalar
  | _ =>
      simp [Json.same]

/--
A path with dots reads nothing in a document whose value under its root is a
scalar or absent.
-/
theorem Document.lookup?_of_dotted
    {document : Document}
    {key : String}
    (dotted : ¬IsPlainKey key)
    (scalarRoot :
      ∀ value,
        document.get? (Path.rootOf key) = some value → value.isScalar = true) :
    document.lookup? key = none := by
  obtain ⟨rest, isCons, single_iff⟩ := Path.segments_eq_cons key
  obtain ⟨next, others, goesOn⟩ :=
    List.exists_cons_of_ne_nil (mt single_iff.mp dotted)
  rw [lookup?, isCons, goesOn, Path.get?]
  cases found : document.get? (Path.rootOf key) with
  | none =>
      rfl
  | some value =>
      have scalar := scalarRoot value found
      cases value <;> first | rfl | cases scalar

/-- The root of an unmarked path is unmarked. -/
theorem Operator.isMarked_rootOf
    {path : String}
    (unmarked : Operator.isMarked path = false) :
    Operator.isMarked (Path.rootOf path) = false := by
  unfold Operator.isMarked Path.rootOf at *
  rw [String.toList_ofList]
  cases characters : path.toList with
  | nil =>
      rfl
  | cons first rest =>
      rw [characters] at unmarked
      by_cases isDot : first = '.'
      · simp [isDot]
      · simpa [isDot] using unmarked

namespace FieldFilter

/--
A field is asked to equal scalars other than null, by a bare
value or by an operator.
-/
inductive IsEquality : FieldFilter → Prop where
  | bare
      {value : Json}
      (scalar : value.isScalar = true)
      (given : value ≠ .null) :
      IsEquality (.equals value)
  | byOperator
      {conditions : List Condition}
      (someAsked : conditions ≠ [])
      (equal :
        ∀ condition ∈ conditions,
          condition.operator = .ok .equal ∧
            condition.operand.isScalar = true ∧ condition.operand ≠ .null) :
      IsEquality (.conditions conditions)

/-- Whether a field is asked to equal a bare value. -/
def isBare : FieldFilter → Bool
  | .equals _ => true
  | .conditions _ => false

/-- What a document that is inserted takes over under the key of a field. -/
def planted
    (key : String) :
    FieldFilter →
    Document
  | .equals value => [(key, value)]
  | .conditions _ => []

theorem get?_planted
    (key : String)
    (asked : FieldFilter) :
    (asked.planted key).get? key = (asked.planted key).head?.map Prod.snd := by
  cases asked <;> simp [planted]

theorem IsEquality.of_mem_toConditions
    {asked : FieldFilter}
    (equality : asked.IsEquality) :
    ∀ condition ∈ asked.toConditions,
      condition.operator = .ok .equal ∧
        condition.operand.isScalar = true ∧ condition.operand ≠ .null := by
  cases equality with
  | bare scalar given =>
      exact List.forall_mem_singleton.mpr
        ⟨Operator.ofTag_tag .equal, scalar, given⟩
  | byOperator _ equal =>
      exact equal

/-- An equality asks for something other than null. -/
theorem IsEquality.not_satisfied_by_none
    {asked : FieldFilter}
    (equality : asked.IsEquality) :
    ¬∀ condition ∈ asked.toConditions,
      Matching.equals none condition.operand = true := by
  intro satisfied
  have someAsked : asked.toConditions ≠ [] := by
    cases equality with
    | bare =>
        exact List.cons_ne_nil _ _
    | byOperator someAsked =>
        exact someAsked
  obtain ⟨condition, member⟩ := List.exists_mem_of_ne_nil _ someAsked
  obtain ⟨-, -, given⟩ := equality.of_mem_toConditions condition member
  exact given (Sql.isNull_iff.mp (satisfied condition member))

theorem IsEquality.scalar_of_planted
    {asked : FieldFilter}
    (equality : asked.IsEquality)
    {key : String}
    {value : Json}
    (found : (asked.planted key).get? key = some value) :
    value.isScalar = true := by
  cases equality with
  | bare scalar =>
      simp only [planted, Entries.get?_cons, if_true, Option.some.injEq]
        at found
      rw [← found]
      exact scalar
  | byOperator =>
      cases found

/--
A document with what a field plants satisfies the equality
exactly if it is bare.
-/
theorem IsEquality.planted_satisfies_iff
    {asked : FieldFilter}
    (equality : asked.IsEquality)
    (key : String) :
    (∀ condition ∈ asked.toConditions,
        Matching.equals ((asked.planted key).get? key) condition.operand =
          true) ↔
      asked.isBare = true := by
  cases equality with
  | bare scalar given =>
      simp [toConditions, planted, isBare, Matching.equals,
        Json.same_self_of_scalar scalar]
  | byOperator someAsked equal =>
      have noneSatisfied :=
        IsEquality.not_satisfied_by_none (.byOperator someAsked equal)
      simpa [planted, isBare] using noneSatisfied

end FieldFilter

namespace DocumentCompiler

section Placing

variable
  {draft : Draft}
  {key other : String}

theorem Draft.under_place_of_ne
    (different : key ≠ other)
    (condition : Json) :
    (draft.place key condition).document.under other =
      draft.document.under other := by
  unfold place
  split
  · rfl
  · exact Entries.under_alter_of_ne different _ _

theorem Draft.under_place_of_free
    (free : draft.document.under key = [])
    (condition : Json) :
    (draft.place key condition).document.under key = [(key, condition)] := by
  have absent : key ∉ Entries.keys draft.document := by
    rw [← Entries.get?_eq_none_iff, Entries.get?_eq_head?_under, free]
    rfl
  have notTaken : ¬draft.document.contains key = true := by
    rw [Entries.contains_iff_mem_keys]
    exact absent
  rw [place, if_neg notTaken]
  simp only [Entries.under] at free ⊢
  rw [Entries.insert_of_not_mem absent, List.filter_append, free]
  simp

theorem Draft.place_of_taken
    (taken : draft.document.under key ≠ [])
    (condition : Json) :
    (draft.place key condition).document = draft.document := by
  have present : draft.document.contains key = true := by
    obtain ⟨entry, rest, isUnder⟩ := List.exists_cons_of_ne_nil taken
    simp [Entries.contains, Entries.get?_eq_head?_under, isUnder]
  rw [place, if_pos present]

theorem Draft.under_placeAll_of_ne
    (different : key ≠ other)
    (packed : List Document) :
    (packed.foldl (fun draft operators => draft.place key (.object operators))
        draft).document.under other =
      draft.document.under other := by
  induction packed generalizing draft with
  | nil =>
      rfl
  | cons operators rest inductionHypothesis =>
      rw [List.foldl_cons, inductionHypothesis, under_place_of_ne different]

/--
Operator documents of one field leave only the first of them under its key.
-/
theorem Draft.under_placeAll_of_free
    (free : draft.document.under key = [])
    (first : Document)
    (rest : List Document) :
    ((first :: rest).foldl
      (fun draft operators => draft.place key (.object operators))
        draft).document.under key =
      [(key, .object first)] := by
  have stays :
      ∀ (packed : List Document) (draft : Draft),
        draft.document.under key ≠ [] →
          (packed.foldl
            (fun draft operators => draft.place key (.object operators))
              draft).document =
            draft.document := by
    intro packed
    induction packed with
    | nil =>
        exact fun _ _ => rfl
    | cons operators others inductionHypothesis =>
        intro draft taken
        have unchanged := place_of_taken taken (.object operators)
        rw [List.foldl_cons,
          inductionHypothesis _ (by rw [unchanged]; exact taken), unchanged]
  have placed := under_place_of_free free (.object first)
  rw [List.foldl_cons,
    stays rest _ (by rw [placed]; exact List.cons_ne_nil _ _), placed]

theorem Draft.under_finish
    (unmarked : Operator.isMarked key = false) :
    draft.finish.under key = draft.document.under key := by
  have notAnd : "$and" ≠ key := by
    rintro rfl
    exact absurd unmarked (by decide)
  unfold finish
  split
  · rfl
  · split <;> exact Entries.under_alter_of_ne notAnd _ _

end Placing

theorem under_upsertSeed
    (filter : Document)
    (key : String) :
    (Collection.upsertSeed filter).under key =
      Collection.upsertSeed (filter.under key) := by
  simp only [Collection.upsertSeed, Entries.under, List.filter_filter,
    Bool.and_comm]

section Fields

variable
  {schema : Schema}
  {field : String}
  {asked : FieldFilter}
  {draft placed : Draft}

theorem under_placeField_of_ne
    {other : String}
    (different : fieldKey schema field ≠ other)
    (succeeded :
      placeField ObjectId.codec schema draft field asked = .ok placed) :
    placed.document.under other = draft.document.under other := by
  cases asked with
  | equals value =>
      obtain ⟨stored, -, same⟩ := bind_eq_ok.mp succeeded
      cases same
      exact Draft.under_place_of_ne different stored
  | conditions list =>
      obtain ⟨packed, -, same⟩ := bind_eq_ok.mp succeeded
      cases same
      exact Draft.under_placeAll_of_ne different packed

theorem under_placeFields_of_ne
    {filter : List (String × FieldFilter)}
    {other : String}
    (different : ∀ entry ∈ filter, fieldKey schema entry.1 ≠ other)
    (succeeded : placeFields ObjectId.codec schema filter draft = .ok placed) :
    placed.document.under other = draft.document.under other := by
  induction filter generalizing draft with
  | nil =>
      cases succeeded
      rfl
  | cons entry rest inductionHypothesis =>
      obtain ⟨extended, fieldPlaced, restPlaced⟩ := bind_eq_ok.mp succeeded
      obtain ⟨headDifferent, restDifferent⟩ := List.forall_mem_cons.mp different
      rw [inductionHypothesis restDifferent restPlaced,
        under_placeField_of_ne headDifferent fieldPlaced]

/--
An equality that is placed under a free key plants its value
there if it is bare.
-/
theorem planted_placeField
    (equality : asked.IsEquality)
    (ordinary : fieldKey schema field ≠ idKey)
    (unmarked : Operator.isMarked (fieldKey schema field) = false)
    (free : draft.document.under (fieldKey schema field) = [])
    (succeeded :
      placeField ObjectId.codec schema draft field asked = .ok placed) :
    Collection.upsertSeed (placed.document.under (fieldKey schema field)) =
      asked.planted (fieldKey schema field) := by
  cases equality with
  | @bare value scalar given =>
      obtain ⟨stored, encoded, same⟩ := bind_eq_ok.mp succeeded
      rw [storedValue, if_neg ordinary] at encoded
      cases encoded
      cases same
      have isSeed : Collection.isSeed (fieldKey schema field) value = true := by
        unfold Collection.isSeed
        rw [unmarked]
        cases value <;> first | rfl | cases scalar
      rw [Draft.under_place_of_free free]
      simp [Collection.upsertSeed, FieldFilter.planted, isSeed]
  | @byOperator conditions someAsked equal =>
      obtain ⟨packed, packing, same⟩ := bind_eq_ok.mp succeeded
      cases same
      obtain ⟨lowered, -⟩ := packConditions_lowered packing (by simp)
      cases packed with
      | nil =>
          exact absurd ((packConditions_eq_nil_iff packing).mp rfl).2 someAsked
      | cons first rest =>
          have firstLowered := lowered first List.mem_cons_self
          have noSeed :
              Collection.isSeed (fieldKey schema field) (.object first) =
                false := by
            have isOperators := isOperatorDocument_lowered firstLowered
            simp only [Matching.isOperatorDocument, Bool.and_eq_true]
              at isOperators
            obtain ⟨-, noIdentifier⟩ := isOperators
            obtain ⟨entry, member⟩ :=
              List.exists_mem_of_ne_nil _ firstLowered.nonempty
            have someMarked :
                (first.any fun entry => Operator.isMarked entry.1) = true :=
              List.any_eq_true.mpr
                ⟨entry, member, firstLowered.marked entry member⟩
            simp [Collection.isSeed, someMarked,
              Option.isNone_iff_eq_none.mp noIdentifier]
          rw [Draft.under_placeAll_of_free free]
          simp [Collection.upsertSeed, FieldFilter.planted, noSeed]

/--
Equalities on distinct keys plant their bare values, each under its own key.
-/
theorem planted_placeFields
    {filter : List (String × FieldFilter)}
    (equalities : ∀ entry ∈ filter, entry.2.IsEquality)
    (ordinary : ∀ entry ∈ filter, fieldKey schema entry.1 ≠ idKey)
    (unmarked :
      ∀ entry ∈ filter, Operator.isMarked (fieldKey schema entry.1) = false)
    (distinct : (filter.map fun entry => fieldKey schema entry.1).Nodup)
    (free :
      ∀ entry ∈ filter, draft.document.under (fieldKey schema entry.1) = [])
    (succeeded : placeFields ObjectId.codec schema filter draft = .ok placed) :
    ∀ entry ∈ filter,
      Collection.upsertSeed (placed.document.under (fieldKey schema entry.1)) =
        entry.2.planted (fieldKey schema entry.1) := by
  induction filter generalizing draft with
  | nil =>
      simp
  | cons entry rest inductionHypothesis =>
      obtain ⟨extended, fieldPlaced, restPlaced⟩ := bind_eq_ok.mp succeeded
      obtain ⟨headElsewhere, restDistinct⟩ := List.nodup_cons.mp distinct
      rw [List.forall_mem_cons] at equalities ordinary unmarked free
      have restDiffers :
          ∀ later ∈ rest,
            fieldKey schema later.1 ≠ fieldKey schema entry.1 := by
        intro later member same
        exact headElsewhere (List.mem_map.mpr ⟨later, member, same⟩)
      have restFree :
          ∀ later ∈ rest,
            extended.document.under (fieldKey schema later.1) = [] := by
        intro later member
        rw [under_placeField_of_ne (Ne.symm (restDiffers later member))
          fieldPlaced]
        exact free.2 later member
      refine List.forall_mem_cons.mpr ⟨?_, ?_⟩
      · rw [under_placeFields_of_ne restDiffers restPlaced]
        exact planted_placeField equalities.1 ordinary.1 unmarked.1 free.1
          fieldPlaced
      · exact
          inductionHypothesis equalities.2 ordinary.2 unmarked.2 restDistinct
          restFree restPlaced

end Fields

end DocumentCompiler

/--
A query upserts one row by equalities on keys of their own.

The keys are unmarked, none of them leads into the identifier, and the row leads
into nothing that one of them leads into.
-/
structure Query.UpsertsByEqualities
    (query : Query)
    (row : Document) :
    Prop where
  isUpdate : query.kind = .update
  oneRow : query.values = some (.single row)
  upserting : query.upsert = true
  noAlternatives : query.alternatives = []
  equalities : ∀ entry ∈ query.filter, entry.2.IsEquality
  distinct :
    (query.filter.map fun entry =>
      DocumentCompiler.fieldKey query.schema entry.1).Nodup
  ordinary :
    ∀ entry ∈ query.filter,
      Path.rootOf (DocumentCompiler.fieldKey query.schema entry.1) ≠ idKey
  unmarked :
    ∀ entry ∈ query.filter,
      Operator.isMarked (DocumentCompiler.fieldKey query.schema entry.1) = false
  elsewhere :
    ∀ changes,
      DocumentCompiler.updateDocument ObjectId.codec query.schema row =
          .ok changes →
        ∀ entry ∈ query.filter,
          Update.leaves
              (Path.rootOf (DocumentCompiler.fieldKey query.schema entry.1))
              changes =
            true

/-- All equalities of a query are bare, and on keys without dots. -/
def Query.PlantsFilter
    (query : Query) :
    Prop :=
  ∀ entry ∈ query.filter,
    entry.2.isBare = true ∧
      IsPlainKey (DocumentCompiler.fieldKey query.schema entry.1)

namespace Query.UpsertsByEqualities

open DocumentCompiler

variable
  {query : Query}
  {row filter changes : Document}
  (shape : query.UpsertsByEqualities row)

include shape

theorem fieldKey_ne_idKey
    {entry : String × FieldFilter}
    (member : entry ∈ query.filter) :
    fieldKey query.schema entry.1 ≠ idKey := by
  have plainIdKey : IsPlainKey idKey := by decide
  intro isIdKey
  apply shape.ordinary entry member
  rw [isIdKey, Path.rootOf_of_plain plainIdKey]

/--
The filter document decides whether the values that the keys lead to are equal.
-/
theorem decides
    (compiled : filterDocument ObjectId.codec query = .ok filter)
    (document : Document) :
    Matching.Decides (document.matches filter)
      (∀ entry ∈ query.filter, ∀ condition ∈ entry.2.toConditions,
        Matching.equals (document.lookup? (fieldKey query.schema entry.1))
            condition.operand =
          true) := by
  have unmarkedFields :
      ∀ field ∈ query.constrainedFields,
        Operator.isMarked (fieldKey query.schema field) = false := by
    intro field member
    rcases List.mem_append.mp member with inFilter | inAlternatives
    · obtain ⟨entry, entryMember, rfl⟩ := List.mem_map.mp inFilter
      exact shape.unmarked entry entryMember
    · rw [shape.noAlternatives] at inAlternatives
      cases inAlternatives
  have plainStored :
      ∀ entry ∈ query.filter, ∀ value stored,
        entry.2 = .equals value →
        storedValue ObjectId.codec (fieldKey query.schema entry.1) value =
          .ok stored →
        Matching.isOperatorDocument stored = false := by
    intro entry member value stored isEquals encoded
    rw [storedValue, if_neg (shape.fieldKey_ne_idKey member)] at encoded
    cases encoded
    have equality := shape.equalities entry member
    rw [isEquals] at equality
    cases equality with
    | bare scalar _ =>
        cases value <;> first | rfl | cases scalar
  refine (filterDocument_decides unmarkedFields plainStored compiled
    document).congr ?_
  have alternativesHold : query.AlternativesHold ObjectId.codec document := by
    simp [Query.AlternativesHold, shape.noAlternatives]
  rw [Query.Admits, and_iff_left alternativesHold]
  refine forall₂_congr fun entry member => forall₂_congr
    fun condition asked => ?_
  obtain ⟨named, -, -⟩ :=
    (shape.equalities entry member).of_mem_toConditions condition asked
  have stored :
      Operator.equal.storedOperand ObjectId.codec
          (fieldKey query.schema entry.1) condition.operand =
        .ok condition.operand :=
    Sql.storedOperand_ordinary (shape.fieldKey_ne_idKey member) .equal
      condition.operand
  rw [Condition.holdsAt_iff named, Operator.holdsAt_iff stored]
  rfl

section Seed

variable (compiled : filterDocument ObjectId.codec query = .ok filter)

include compiled

/--
What an upsert starts from has under every key what the equality on it plants.
-/
theorem under_seed :
    (∀ entry ∈ query.filter,
      (Collection.upsertSeed filter).under (fieldKey query.schema entry.1) =
        entry.2.planted (fieldKey query.schema entry.1)) ∧
      ∀ key, Operator.isMarked key = false →
        (∀ entry ∈ query.filter, fieldKey query.schema entry.1 ≠ key) →
          (Collection.upsertSeed filter).under key = [] := by
  obtain ⟨placed, fieldsPlaced, rest⟩ := bind_eq_ok.mp compiled
  obtain ⟨groups, traversed, same⟩ := bind_eq_ok.mp rest
  rw [shape.noAlternatives] at traversed
  cases traversed
  cases same
  have nothing : ∀ entry ∈ query.filter,
      Entries.under ({} : Draft).document (fieldKey query.schema entry.1) =
        [] :=
    fun _ _ => rfl
  have planted :=
    planted_placeFields shape.equalities (fun _ => shape.fieldKey_ne_idKey)
      shape.unmarked shape.distinct nothing fieldsPlaced
  constructor
  · intro entry member
    rw [under_upsertSeed, Draft.under_finish (shape.unmarked entry member)]
    exact planted entry member
  · intro key unmarked elsewhere
    have untouched : placed.document.under key = [] :=
      under_placeFields_of_ne elsewhere fieldsPlaced
    rw [under_upsertSeed, Draft.under_finish unmarked]
    exact congrArg Collection.upsertSeed untouched

/-- Under an unmarked key an upsert starts from one scalar at most. -/
theorem seed_scalar
    {key : String}
    (unmarked : Operator.isMarked key = false) :
    ((Collection.upsertSeed filter).under key).length ≤ 1 ∧
      ∀ value, (Collection.upsertSeed filter).get? key = some value →
        value.isScalar = true := by
  obtain ⟨planted, absent⟩ := shape.under_seed compiled
  rw [Entries.get?_eq_head?_under]
  by_cases isKey : ∃ entry ∈ query.filter, fieldKey query.schema entry.1 = key
  · obtain ⟨entry, member, rfl⟩ := isKey
    rw [planted entry member]
    refine ⟨?_, fun value found => ?_⟩
    · cases entry.2 <;> simp [FieldFilter.planted]
    · rw [← FieldFilter.get?_planted] at found
      exact (shape.equalities entry member).scalar_of_planted found
  · have elsewhere :
        ∀ entry ∈ query.filter, fieldKey query.schema entry.1 ≠ key :=
      fun entry member same => isKey ⟨entry, member, same⟩
    rw [absent key unmarked elsewhere]
    exact ⟨Nat.zero_le 1, fun value found => nomatch found⟩

/-- What an upsert inserts satisfies its filter exactly if that is planted. -/
theorem upserted_matches_iff
    (changesCompiled :
      updateDocument ObjectId.codec query.schema row = .ok changes)
    {supply left : Supply}
    {new : Document}
    (upserted : Collection.UpsertedBy filter changes supply new left) :
    new.matches filter = .ok true ↔ query.PlantsFilter := by
  obtain ⟨built, drawn, applied, rfl, -⟩ := upserted
  rw [(shape.decides compiled _).eq_true_iff]
  refine forall₂_congr fun entry member => ?_
  have equality := shape.equalities entry member
  have unmarkedRoot := Operator.isMarked_rootOf (shape.unmarked entry member)
  obtain ⟨once, scalar⟩ := shape.seed_scalar compiled unmarkedRoot
  have kept :=
    Collection.get?_applyTo
      (shape.elsewhere changes changesCompiled entry member) once applied
  have rootKept :
      (Collection.withIdFirst (Collection.chosenId built drawn).1 built).get?
          (Path.rootOf (fieldKey query.schema entry.1)) =
        (Collection.upsertSeed filter).get?
          (Path.rootOf (fieldKey query.schema entry.1)) := by
    rw [Collection.get?_withIdFirst_of_ne (shape.ordinary entry member), kept]
  rw [Document.lookup?_congr rootKept]
  by_cases plain : IsPlainKey (fieldKey query.schema entry.1)
  · rw [Document.lookup?_of_plain plain, and_iff_left plain,
      Entries.get?_eq_head?_under, (shape.under_seed compiled).1 entry member,
      ← FieldFilter.get?_planted]
    exact equality.planted_satisfies_iff _
  · rw [Document.lookup?_of_dotted plain scalar]
    exact iff_of_false equality.not_satisfied_by_none fun both => plain both.2

end Seed

/-- A document that the filter holds of satisfies it also after the changes. -/
theorem changed_matches
    (compiled : filterDocument ObjectId.codec query = .ok filter)
    (changesCompiled :
      updateDocument ObjectId.codec query.schema row = .ok changes)
    {document changed : Document}
    (distinct : document.Distinct)
    (holds : document.matches filter = .ok true)
    {supply left : Supply}
    (applied :
      Collection.applyTo false changes document supply =
        (.ok (), changed, left)) :
    changed.matches filter = .ok true := by
  rw [(shape.decides compiled _).eq_true_iff] at holds ⊢
  intro entry member condition asked
  have once :=
    Entries.length_under_le distinct
      (Path.rootOf (fieldKey query.schema entry.1))
  have kept :=
    Collection.get?_applyTo
      (shape.elsewhere changes changesCompiled entry member) once applied
  rw [Document.lookup?_congr kept]
  exact holds entry member condition asked

/--
After an upsert a document satisfies its filter if it found one or
planted what it asks for.
-/
theorem exists_matching_iff
    (compiled : filterDocument ObjectId.codec query = .ok filter)
    (changesCompiled :
      updateDocument ObjectId.codec query.schema row = .ok changes)
    {many : Bool}
    {before after : List Document}
    {supply left : Supply}
    {outcome : Outcome}
    (distinct : ∀ document ∈ before, document.Distinct)
    (settled :
      Collection.Settled filter changes many true before supply outcome after
        left) :
    (∃ document ∈ after, document.matches filter = .ok true) ↔
      outcome.upsertedId = none ∨ query.PlantsFilter := by
  cases settled with
  | @updated touched _ _ affected _ noneInserted enough =>
      have someTouched : touched ≠ [] := fun noneTouched =>
        Bool.false_ne_true (enough noneTouched).symm
      obtain ⟨document, member, reached, outcome, drawn, holds,
          ⟨changed, rfl, applied⟩,
        included⟩ := affected.exists_outcome someTouched
      have changedHolds :=
        shape.changed_matches compiled changesCompiled
          (distinct document member) holds applied
      refine iff_of_true ?_ (.inl noneInserted)
      exact ⟨changed, included List.mem_cons_self, changedHolds⟩
  | @inserted new _ spared _ told _ upserted =>
      have newHolds :=
        shape.upserted_matches_iff compiled changesCompiled upserted
      have wasInserted : outcome.upsertedId ≠ none :=
        Option.isSome_iff_ne_none.mp told
      rw [or_iff_right wasInserted, ← newHolds]
      constructor
      · rintro ⟨document, member, holds⟩
        rcases List.mem_append.mp member with wasThere | isNew
        · cases (spared document wasThere).symm.trans holds
        · rw [← List.mem_singleton.mp isNew]
          exact holds
      · intro holds
        exact ⟨new, List.mem_append_right _ List.mem_cons_self, holds⟩

end Query.UpsertsByEqualities

namespace Collection

/--
An update whose filter holds of some document leaves as many
documents as there were.
-/
theorem length_update_of_matching
    {filter changes : Document}
    {many upserting : Bool}
    {collection : Collection}
    (someMatches :
      ∃ document ∈ collection.documents, document.matches filter = .ok true)
    (supply : Supply) :
    ((update filter changes many upserting).runFrom
        (collection, supply)).2.1.documents.length =
      collection.documents.length := by
  have related :
      List.Forall₂ (fun _ _ => True) collection.documents
        (updateMatching filter changes many collection.documents {}
          supply).2.1 :=
    forall₂_updateMatching (fun _ => trivial) (fun _ _ => trivial) filter many
      collection.documents {} supply
  have sameNumber := related.length_eq
  simp only [update, Stateful.runFrom_bind, Stateful.runFrom_get,
    Stateful.runFrom_set, Stateful.runFrom_ofExcept]
  cases matched :
      updateMatching filter changes many collection.documents {} supply with
  | mk result further =>
      obtain ⟨documents, left⟩ := further
      rw [matched] at sameNumber
      cases result with
      | error cause =>
          exact sameNumber.symm
      | ok tally =>
          obtain ⟨touched, counted, affected⟩ :=
            affected_of_updateMatching matched
          have someTouched : touched ≠ [] := by
            intro noneTouched
            obtain ⟨-, -, spared⟩ := affected.of_none noneTouched
            obtain ⟨document, member, holds⟩ := someMatches
            cases (spared document member).symm.trans holds
          have someCounted : tally.matched ≠ 0 := by
            rw [counted, Nat.zero_add]
            exact fun noLength =>
              someTouched (List.length_eq_zero_iff.mp noLength)
          dsimp only
          rw [decide_eq_false someCounted, Bool.false_and,
            if_neg Bool.false_ne_true]
          exact sameNumber.symm

variable
  {filter changes : Document}
  {many : Bool}
  {before after : List Document}
  {supply left : Supply}
  {outcome : Outcome}
  (settled : Settled filter changes many true before supply outcome after left)

include settled

/-- An upsert inserts exactly if its filter holds of no document. -/
theorem Settled.upsertedId_eq_none_iff :
    outcome.upsertedId = none ↔
      ∃ document ∈ before, document.matches filter = .ok true := by
  cases settled with
  | @updated touched _ _ affected _ noneInserted enough =>
      have someTouched : touched ≠ [] := fun noneTouched =>
        Bool.false_ne_true (enough noneTouched).symm
      obtain ⟨document, member, _, _, _, holds, -, -⟩ :=
        affected.exists_outcome someTouched
      exact iff_of_true noneInserted ⟨document, member, holds⟩
  | inserted spared _ told =>
      refine iff_of_false (Option.isSome_iff_ne_none.mp told) ?_
      rintro ⟨document, member, holds⟩
      cases (spared document member).symm.trans holds

/-- An upsert that inserts nothing counts what its filter holds of. -/
theorem Settled.matched_ne_zero
    (noneInserted : outcome.upsertedId = none) :
    outcome.matched ≠ 0 := by
  cases settled with
  | updated _ counted _ enough =>
      rw [counted]
      intro noLength
      exact Bool.false_ne_true
        (enough (List.length_eq_zero_iff.mp noLength)).symm
  | inserted _ _ told =>
      rw [noneInserted] at told
      cases told

end Collection

namespace Store

/--
An upsert found a document, or planted what its filter asks for in
the one it inserted.
-/
def IsRepeatable
    (query : Query)
    (outcome : Outcome) :
    Prop :=
  outcome.upsertedId = none ∨ query.PlantsFilter

/--
What running an upsert once more does to a collection if a document
satisfies its filter.
-/
theorem run_upsert_of_matching
    {name : String}
    {filter changes : Document}
    {many : Bool}
    {state again : StoreState}
    {result : Except QueryError (List Document × Outcome)}
    (someMatches :
      ∃ document ∈ (state.1.collection name).documents,
        document.matches filter = .ok true)
    (ran :
      (run (.update name filter changes many true)).runFrom state =
        (result, again)) :
    (again.1.collection name).documents.length =
      (state.1.collection name).documents.length := by
  have runs :
      run (.update name filter changes many true) =
        onCollection name (Collection.update filter changes many true) >>=
          fun outcome => pure ([], outcome) :=
    rfl
  rw [runs, Stateful.runFrom_bind_pure, onCollection_runFrom] at ran
  cases ran
  dsimp only
  rw [collection_insert]
  exact Collection.length_update_of_matching someMatches state.2

/--
When an upsert by equalities can be repeated.

After an upsert that succeeded a document satisfies its filter exactly if it had
found one before, or inserted one by equalities that are all bare and on keys
without dots. Executed once more it then finds a document and adds none, whether
it succeeds or fails; otherwise, if it succeeds, it inserts again.
-/
theorem upsert_repeatable_iff
    {query : Query}
    {row : Document}
    (shape : query.UpsertsByEqualities row)
    {state after : StoreState}
    {outcome : Outcome}
    (distinct :
      ∀ document ∈ (state.1.collection query.schema.storage).documents,
        document.Distinct)
    (executed : (execute query).runFrom state = (.ok outcome, after)) :
    ∃ filter,
      DocumentCompiler.filterDocument ObjectId.codec query = .ok filter ∧
        ((∃ document ∈ (after.1.collection query.schema.storage).documents,
            document.matches filter = .ok true) ↔
          IsRepeatable query outcome) ∧
          ∀ result again, (execute query).runFrom after = (result, again) →
            (IsRepeatable query outcome →
              (again.1.collection query.schema.storage).documents.length =
                  (after.1.collection query.schema.storage).documents.length ∧
                ∀ told, result = .ok told →
                  told.upsertedId = none ∧ told.matched ≠ 0) ∧
              (¬IsRepeatable query outcome →
                ∀ told, result = .ok told → told.upsertedId ≠ none) := by
  have isWrite : query.kind ≠ .select := by
    rw [shape.isUpdate]
    exact StatementKind.noConfusion
  obtain ⟨operation, answered, compiled, ran⟩ := execute_eq_ok isWrite executed
  have isOperation := compiled
  simp only [DocumentCompiler.compile, shape.isUpdate,
    DocumentCompiler.updateOperation, shape.oneRow] at isOperation
  obtain ⟨filter, filterCompiled, continued⟩ := bind_eq_ok.mp isOperation
  obtain ⟨changes, changesCompiled, same⟩ := bind_eq_ok.mp continued
  cases same
  rw [shape.upserting] at ran compiled
  have settled := (settled_of_run_update ran).1
  have matching_iff :=
    shape.exists_matching_iff filterCompiled changesCompiled distinct settled
  refine ⟨filter, filterCompiled, matching_iff, ?_⟩
  intro result again executedAgain
  have inserts_iff :
      ∀ told, result = .ok told →
        (told.upsertedId = none ↔ IsRepeatable query outcome) ∧
          (told.upsertedId = none → told.matched ≠ 0) := by
    rintro told rfl
    obtain ⟨_, _, compiledAgain, ranAgain⟩ :=
      execute_eq_ok isWrite executedAgain
    cases compiled.symm.trans compiledAgain
    have settledAgain := (settled_of_run_update ranAgain).1
    exact ⟨settledAgain.upsertedId_eq_none_iff.trans matching_iff,
      settledAgain.matched_ne_zero⟩
  refine ⟨fun repeatable => ⟨?_, fun told succeeded => ?_⟩,
    fun notRepeatable told succeeded noneInserted => ?_⟩
  · rw [execute_runFrom isWrite, compiled] at executedAgain
    cases executedAgain
    exact run_upsert_of_matching (matching_iff.mpr repeatable) rfl
  · obtain ⟨noneInserted_iff, counted⟩ := inserts_iff told succeeded
    have noneInserted := noneInserted_iff.mpr repeatable
    exact ⟨noneInserted, counted noneInserted⟩
  · exact notRepeatable ((inserts_iff told succeeded).1.mp noneInserted)

/-- An entity with two fields besides its identifier. -/
def pairedSchema : Schema :=
  {
    name := "p"
    storageName := none
    fields := [identifierField, plainField "a" "a", plainField "b" "b"]
  }

/-- An upsert of one field by an equality on another. -/
def pairedUpsert
    (asked : FieldFilter) :
    Query :=
  {
    kind := .update
    schema := pairedSchema
    values := some (.single [("b", .ofInt 2)])
    filter := [("a", asked)]
    upsert := true
  }

/-- A store with one document, of which the equality does not hold. -/
def pairedStore : Store :=
  [("p", { name := "p", documents := [[("_id", .ofInt 1), ("a", .ofInt 5)]] })]

theorem upsert_repeatable_of_bare :
    ∃ outcome after,
      (pairedUpsert (.equals (.ofInt 1))).UpsertsByEqualities
          [("b", .ofInt 2)] ∧
        (∀ document ∈ (pairedStore.collection "p").documents,
          document.Distinct) ∧
          (execute (pairedUpsert (.equals (.ofInt 1)))).runFrom
              (pairedStore, firstSupply) =
            (.ok outcome, after) ∧
          ∃ filter,
            DocumentCompiler.filterDocument ObjectId.codec
                (pairedUpsert (.equals (.ofInt 1))) =
                .ok filter ∧
              ((∃ document ∈ (after.1.collection "p").documents,
                  document.matches filter = .ok true) ↔
                IsRepeatable (pairedUpsert (.equals (.ofInt 1))) outcome) ∧
                ∀ result again,
                  (execute (pairedUpsert (.equals (.ofInt 1)))).runFrom after =
                      (result, again) →
                    (IsRepeatable (pairedUpsert (.equals (.ofInt 1))) outcome →
                      (again.1.collection "p").documents.length =
                          (after.1.collection "p").documents.length ∧
                        ∀ told, result = .ok told →
                          told.upsertedId = none ∧ told.matched ≠ 0) ∧
                      (¬IsRepeatable (pairedUpsert (.equals (.ofInt 1)))
                        outcome →
                        ∀ told,
                          result = .ok told → told.upsertedId ≠ none) := by
  have isEquality : FieldFilter.IsEquality (.equals (.ofInt 1)) :=
    .bare rfl Json.noConfusion
  have shape :
      (pairedUpsert (.equals (.ofInt 1))).UpsertsByEqualities
        [("b", .ofInt 2)] := {
    isUpdate := rfl
    oneRow := rfl
    upserting := rfl
    noAlternatives := rfl
    equalities := List.forall_mem_singleton.mpr isEquality
    distinct := by decide
    ordinary := by decide
    unmarked := by decide
    elsewhere := by
      intro changes compiled
      cases compiled
      decide
  }
  have distinct :
      ∀ document ∈ (pairedStore.collection "p").documents,
        document.Distinct := by
    unfold Entries.Distinct
    decide
  have succeeds :
      ((execute (pairedUpsert (.equals (.ofInt 1)))).runFrom
        (pairedStore, firstSupply)).1.isOk = true := by
    decide +kernel
  obtain ⟨outcome, after, executed⟩ := exists_executed succeeds
  exact ⟨outcome, after, shape, distinct, executed,
    upsert_repeatable_iff shape distinct executed⟩

/-- An equality that is asked by an operator. -/
def equalByOperator : FieldFilter :=
  .conditions [⟨"eq", .ofInt 1⟩]

/--
An upsert by an equality that is asked by an operator inserts each time
that it is executed.
-/
theorem upsert_by_operator_inserts_twice :
    equalByOperator.IsEquality ∧
      DocumentCompiler.filterDocument ObjectId.codec
        (pairedUpsert equalByOperator) =
          .ok [("a", .object [("$eq", .ofInt 1)])] ∧
        ((execute (pairedUpsert equalByOperator)).runFrom
          ([], firstSupply)).1.isOk = true ∧
          (((execute (pairedUpsert equalByOperator)).runFrom
              ([], firstSupply)).2.1.collection "p").documents =
            [[("_id", (ObjectId.ofNat 0).toJson), ("b", .ofInt 2)]] ∧
          Document.matches [("_id", (ObjectId.ofNat 0).toJson), ("b", .ofInt 2)]
              [("a", .object [("$eq", .ofInt 1)])] =
            .ok false ∧
          (((execute (pairedUpsert equalByOperator)).runFrom
              ((execute (pairedUpsert equalByOperator)).runFrom
                ([], firstSupply)).2).2.1.collection
                  "p").documents.length = 2 := by
  have isEquality : equalByOperator.IsEquality :=
    .byOperator (List.cons_ne_nil _ _)
      (List.forall_mem_singleton.mpr ⟨rfl, rfl, Json.noConfusion⟩)
  refine ⟨isEquality, rfl, ?_, ?_, rfl, ?_⟩
  · decide +kernel
  · decide +kernel
  · decide +kernel

end Store

end PolyQuery
