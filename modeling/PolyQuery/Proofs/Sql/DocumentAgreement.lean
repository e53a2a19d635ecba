import PolyQuery.Proofs.Document.FilterMeaning
import PolyQuery.Proofs.Sql.Reading

namespace PolyQuery.Sql

open Failing DocumentCompiler

/-!
# Both backends compile the same filter

Where every constrained field is a field of the schema and none is the
identifier, the relational restriction and the filter document of a query ask
the same: compiling them fails for the same cause or succeeds for both, and then
they hold of the same documents.
-/

section Fields

variable
  {codec : IdentifierCodec}
  {schema : Schema}
  {field : String}

/--
A field of the schema other than the identifier has one name in both backends.
-/
theorem column_eq_fieldKey
    (known : (schema.field? field).isSome = true)
    (ordinary : fieldKey schema field ≠ idKey) :
    schema.column field = .ok (fieldKey schema field) := by
  obtain ⟨found, lookup⟩ := Option.isSome_iff_exists.mp known
  unfold fieldKey at ordinary ⊢
  split at ordinary
  next =>
    exact absurd rfl ordinary
  next notId =>
    simp only [lookup] at ordinary ⊢
    split at ordinary
    next =>
      exact absurd rfl ordinary
    next notPrimary =>
      simp [Schema.column, Schema.resolve, lookup, Except.map, notId,
        notPrimary]

/-- Under a key other than the identifier's a value is stored as it is. -/
theorem storedValue_ordinary
    {key : String}
    (ordinary : key ≠ idKey)
    (value : Json) :
    storedValue codec key value = .ok value := by
  simp [storedValue, ordinary]

theorem mapM_storedValue_ordinary
    {key : String}
    (ordinary : key ≠ idKey)
    (items : List Json) :
    items.mapM (storedValue codec key) = .ok items :=
  mapM_eq_ok.mpr
    (List.forall₂_same.mpr fun item _ => storedValue_ordinary ordinary item)

/-- Under a key other than the identifier's an operand is stored as it is. -/
theorem storedOperand_ordinary
    {key : String}
    (ordinary : key ≠ idKey)
    (operator : Operator)
    (operand : Json) :
    operator.storedOperand codec key operand = .ok operand := by
  unfold Operator.storedOperand
  split <;> first
    | rfl
    | rw [mapM_storedValue_ordinary ordinary]
      rfl
    | exact storedValue_ordinary ordinary operand

/-- A predicate can be compiled exactly if the operator can be lowered. -/
theorem verdict_predicate
    {key base : String}
    (ordinary : key ≠ idKey)
    (subject : Expr)
    (operator : Operator)
    (operand : Json) :
    verdict (predicate field subject base operator operand) =
      verdict (lowerOperator codec field key operator operand) := by
  cases operator with
  | equal | notEqual =>
      simp only [predicate, lowerOperator, storedValue_ordinary ordinary]
      split <;> rfl
  | oneOf | noneOf =>
      cases operand with
      | array items =>
          simp only [lowerOperator, mapM_storedValue_ordinary ordinary]
          cases items <;> rfl
      | _ =>
          rfl
  | between =>
      cases operand with
      | array items =>
          rcases items with _ | ⟨low, _ | ⟨high, _ | ⟨third, rest⟩⟩⟩
          · rfl
          · rfl
          · simp only [lowerOperator, storedValue_ordinary ordinary]
            rfl
          · rfl
      | _ =>
          rfl
  | like | likeIgnoringCase =>
      cases operand <;> rfl
  | _ =>
      simp only [predicate, lowerOperator, storedValue_ordinary ordinary]
      rfl

/-- Whether a condition on a field can be lowered, and the cause if not. -/
def conditionVerdict
    (codec : IdentifierCodec)
    (schema : Schema)
    (field : String)
    (condition : Condition) :
    Except QueryError Unit :=
  verdict (condition.operator >>= fun operator =>
    lowerOperator codec field (fieldKey schema field) operator
      condition.operand)

/--
The terms of a field can be compiled exactly if its conditions can be lowered.
-/
theorem verdict_fieldTerms
    (named : schema.column field = .ok (fieldKey schema field))
    (ordinary : fieldKey schema field ≠ idKey)
    (asked : FieldFilter) :
    verdict (fieldTerms schema field asked) =
      asked.toConditions.forM (conditionVerdict codec schema field) := by
  simp only [fieldTerms, named]
  change verdict (asked.toConditions.mapM _) = _
  rw [verdict_mapM]
  apply forM_congr_of_mem
  intro condition _
  unfold conditionVerdict
  cases condition.operator with
  | error cause =>
      rfl
  | ok operator =>
      exact verdict_predicate ordinary _ operator condition.operand

theorem verdict_packConditions
    (conditions : List Condition)
    (packed : List Document) :
    verdict
        (packConditions codec field (fieldKey schema field) conditions packed) =
      conditions.forM (conditionVerdict codec schema field) := by
  induction conditions generalizing packed with
  | nil =>
      rfl
  | cons condition rest inductionHypothesis =>
      simp only [packConditions, List.forM_eq_forM, List.forM_cons,
        conditionVerdict]
        at inductionHypothesis ⊢
      cases condition.operator with
      | error cause =>
          rfl
      | ok operator =>
          change verdict
              (lowerOperator codec field _ operator condition.operand >>= _) =
            verdict (lowerOperator codec field _ operator condition.operand) >>=
              _
          exact verdict_bind fun fragment _ =>
            inductionHypothesis (packInto fragment packed)

theorem verdict_placeField
    (draft : Draft)
    (asked : FieldFilter) :
    verdict (placeField codec schema draft field asked) =
      asked.toConditions.forM (conditionVerdict codec schema field) := by
  cases asked with
  | equals value =>
      have named : Condition.operator ⟨"eq", value⟩ = .ok .equal :=
        Operator.ofTag_tag .equal
      simp only [placeField, FieldFilter.toConditions, conditionVerdict, named,
        List.forM_eq_forM, List.forM_cons, List.forM_nil]
      change _ =
        verdict (storedValue codec (fieldKey schema field) value >>= _) >>= _
      cases storedValue codec (fieldKey schema field) value <;> rfl
  | conditions list =>
      rw [FieldFilter.toConditions, ← verdict_packConditions list []]
      simp only [placeField]
      cases packConditions codec field (fieldKey schema field) list [] <;> rfl

/--
Fields can be placed in a draft exactly if all their conditions can be lowered.
-/
theorem verdict_placeFields
    (filter : List (String × FieldFilter))
    (draft : Draft) :
    verdict (placeFields codec schema filter draft) =
      filter.forM fun entry =>
        entry.2.toConditions.forM (conditionVerdict codec schema entry.1) := by
  induction filter generalizing draft with
  | nil =>
      rfl
  | cons entry rest inductionHypothesis =>
      simp only [placeFields, List.forM_eq_forM, List.forM_cons]
        at inductionHypothesis ⊢
      rw [verdict_bind fun placed _ => inductionHypothesis placed,
        verdict_placeField]
      rfl

/--
The alternatives of a field can be compiled in both backends,
or fail for one cause.
-/
theorem verdict_groupTerm?
    (named : schema.column field = .ok (fieldKey schema field))
    (ordinary : fieldKey schema field ≠ idKey)
    (conditions : List Condition) :
    verdict (groupTerm? schema field conditions) =
      verdict (groupClauses codec schema field conditions) := by
  simp only [groupTerm?, groupClauses, named]
  change verdict (conditions.mapM _ >>= _) = _
  rw [verdict_bind_pure, verdict_bind_pure, verdict_mapM, verdict_mapM]
  apply forM_congr_of_mem
  intro condition _
  cases condition.disjuncts with
  | error cause =>
      rfl
  | ok disjuncts =>
      change verdict (disjuncts.mapM _) = verdict (disjuncts.mapM _)
      rw [verdict_mapM, verdict_mapM]
      apply forM_congr_of_mem
      intro disjunct _
      rw [verdict_bind_pure]
      exact verdict_predicate ordinary _ disjunct.1 disjunct.2

/--
The predicate of an operator on its column holds exactly if the
operator does at the key.
-/
theorem predicate_holds_iff
    {key base : String}
    {table : Option String}
    {operator : Operator}
    {operand : Json}
    {expr : Expr}
    (ordinary : key ≠ idKey)
    (compiled :
      predicate field (.column table key) base operator operand = .ok expr)
    (document : Document) :
    expr.holdsOf document = true ↔
      operator.HoldsAt codec document key operand := by
  have encoded : operator.storedOperand codec key operand = .ok operand :=
    storedOperand_ordinary ordinary operator operand
  rw [Operator.holdsAt_iff encoded, holdsOf_predicate compiled]

/-- The terms of a field hold of a document exactly if its conditions do. -/
theorem fieldTerms_hold_iff
    {asked : FieldFilter}
    {terms : List Expr}
    (named : schema.column field = .ok (fieldKey schema field))
    (ordinary : fieldKey schema field ≠ idKey)
    (compiled : fieldTerms schema field asked = .ok terms)
    (document : Document) :
    (∀ term ∈ terms, term.holdsOf document = true) ↔
      ∀ condition ∈ asked.toConditions,
        condition.HoldsAt codec document (fieldKey schema field) := by
  obtain ⟨column, isColumn, traversed⟩ := bind_eq_ok.mp compiled
  cases named.symm.trans isColumn
  refine forall_mem_mapM_iff traversed ?_
  intro condition _ term computed
  obtain ⟨operator, isOperator, isTerm⟩ := bind_eq_ok.mp computed
  rw [Condition.holdsAt_iff isOperator, predicate_holds_iff ordinary isTerm]

/--
The term of a group lets a document pass exactly if an alternative
holds, if there is any.
-/
theorem passes_groupTerm?
    {conditions : List Condition}
    {term : Option Expr}
    (named : schema.column field = .ok (fieldKey schema field))
    (ordinary : fieldKey schema field ≠ idKey)
    (compiled : groupTerm? schema field conditions = .ok term)
    (document : Document) :
    passes term document = true ↔
      ((∃ disjunct, Condition.Offered conditions disjunct) →
        ∃ disjunct,
          Condition.Offered conditions disjunct ∧
            disjunct.1.HoldsAt codec document (fieldKey schema field)
              disjunct.2) := by
  obtain ⟨column, isColumn, computed⟩ := bind_eq_ok.mp compiled
  cases named.symm.trans isColumn
  obtain ⟨alternatives, traversed, isTerm⟩ := bind_eq_ok.mp computed
  cases isTerm
  obtain ⟨fromTerm, toTerm⟩ := Condition.offered_iff_lowered traversed
  rw [passes_anyOf?]
  constructor
  · rintro someHolds ⟨disjunct, offered⟩
    obtain ⟨term, member, -⟩ := toTerm disjunct offered
    obtain ⟨holding, holdingMember, holds⟩ :=
      someHolds (List.ne_nil_of_mem member)
    obtain ⟨source, sourceOffered, computed⟩ := fromTerm holding holdingMember
    exact ⟨source, sourceOffered,
      (predicate_holds_iff ordinary computed document).mp holds⟩
  · intro someHolds nonempty
    obtain ⟨term, member⟩ := List.exists_mem_of_ne_nil _ nonempty
    obtain ⟨disjunct, offered, -⟩ := fromTerm term member
    obtain ⟨holding, holdingOffered, holds⟩ := someHolds ⟨disjunct, offered⟩
    obtain ⟨result, resultMember, computed⟩ := toTerm holding holdingOffered
    exact ⟨result, resultMember,
      (predicate_holds_iff ordinary computed document).mpr holds⟩

end Fields

section Queries

variable
  {codec : IdentifierCodec}
  {query : Query}

theorem column_of_ordinary
    (ordinary : query.OnOrdinaryFields)
    {field : String}
    (constrained : field ∈ query.constrainedFields) :
    query.schema.column field = .ok (fieldKey query.schema field) ∧
      fieldKey query.schema field ≠ idKey := by
  obtain ⟨known, notId, -⟩ := ordinary field constrained
  exact ⟨column_eq_fieldKey known notId, notId⟩

/--
On ordinary fields both backends can compile the filter, or fail for one cause.
-/
theorem verdict_whereClause?
    (codec : IdentifierCodec)
    (ordinary : query.OnOrdinaryFields) :
    verdict (whereClause? query.schema query) =
      verdict (filterDocument codec query) := by
  have fieldsAgree :
      verdict
          (query.filter.mapM fun entry =>
            fieldTerms query.schema entry.1 entry.2) =
        verdict (placeFields codec query.schema query.filter {}) := by
    rw [verdict_mapM, verdict_placeFields]
    apply forM_congr_of_mem
    intro entry member
    obtain ⟨named, notId⟩ :=
      column_of_ordinary ordinary (Query.mem_constrainedFields_of_filter member)
    exact verdict_fieldTerms named notId entry.2
  have groupsAgree :
      verdict (query.alternatives.mapM fun entry =>
          groupTerm? query.schema entry.1 entry.2) =
        verdict (query.alternatives.mapM fun entry =>
          groupClauses codec query.schema entry.1 entry.2) := by
    rw [verdict_mapM, verdict_mapM]
    apply forM_congr_of_mem
    intro entry member
    obtain ⟨named, notId⟩ :=
      column_of_ordinary ordinary
        (Query.mem_constrainedFields_of_alternatives member)
    exact verdict_groupTerm? named notId entry.2
  unfold whereClause? filterDocument
  rw [verdict_bind fun _ _ => verdict_bind_pure _ _,
    verdict_bind fun _ _ => verdict_bind_pure _ _, fieldsAgree, groupsAgree]

/--
On ordinary fields the restriction lets exactly those documents
pass that are admitted.
-/
theorem passes_whereClause?
    {restriction : Option Expr}
    (ordinary : query.OnOrdinaryFields)
    (compiled : whereClause? query.schema query = .ok restriction)
    (document : Document) :
    passes restriction document = true ↔ query.Admits codec document := by
  obtain ⟨terms, fieldsCompiled, rest⟩ := bind_eq_ok.mp compiled
  obtain ⟨groups, groupsCompiled, same⟩ := bind_eq_ok.mp rest
  cases same
  have termsHold_iff :
      (∀ term ∈ terms.flatten, term.holdsOf document = true) ↔
        query.FilterHolds codec document := by
    rw [List.forall_mem_flatten]
    refine forall_mem_mapM_iff fieldsCompiled ?_
    intro entry member ofField computed
    obtain ⟨named, notId⟩ :=
      column_of_ordinary ordinary (Query.mem_constrainedFields_of_filter member)
    exact fieldTerms_hold_iff named notId computed document
  have groupsHold_iff :
      (∀ term ∈ groups.filterMap id, term.holdsOf document = true) ↔
        query.AlternativesHold codec document := by
    rw [List.forall_mem_filterMap]
    refine forall_mem_mapM_iff groupsCompiled ?_
    intro entry member term computed
    obtain ⟨named, notId⟩ :=
      column_of_ordinary ordinary
        (Query.mem_constrainedFields_of_alternatives member)
    rw [← passes_groupTerm? named notId computed document]
    cases term <;> simp [passes]
  rw [passes_allOf?, List.forall_mem_append, termsHold_iff, groupsHold_iff]
  rfl

/--
The two backends compile the same filter.

On ordinary fields compiling the filter of a query fails for one cause in both
backends, or it succeeds in both, and then the relational restriction lets
exactly those documents pass that the filter document matches.
-/
theorem filterDocument_agrees_with_restriction
    (codec : IdentifierCodec)
    (ordinary : query.OnOrdinaryFields)
    (plain : query.PlainEqualities) :
    (∃ cause,
      whereClause? query.schema query = .error cause ∧
        filterDocument codec query = .error cause) ∨
      ∃ restriction filter,
        whereClause? query.schema query = .ok restriction ∧
          filterDocument codec query = .ok filter ∧
            ∀ document : Document,
              document.matches filter = .ok (passes restriction document) := by
  -- The verdicts decide which side it is; both sides then mean what the query
  -- admits.
  rcases both_of_verdict_eq (verdict_whereClause? codec ordinary) with
    failed | ⟨restriction, filter, restrictionCompiled, filterCompiled⟩
  · exact .inl failed
  · refine .inr ⟨restriction, filter, restrictionCompiled, filterCompiled, ?_⟩
    intro document
    have plainStored :
        ∀ entry ∈ query.filter, ∀ value stored,
          entry.2 = .equals value →
          storedValue codec (fieldKey query.schema entry.1) value = .ok stored →
          Matching.isOperatorDocument stored = false := by
      intro entry member value stored isEquals encoded
      obtain ⟨-, notId⟩ :=
        column_of_ordinary ordinary
          (Query.mem_constrainedFields_of_filter member)
      rw [storedValue_ordinary notId] at encoded
      cases encoded
      exact isOperatorDocument_of_plain (plain entry member value isEquals)
    obtain ⟨value, evaluated, decided⟩ :=
      filterDocument_decides (fun field member => (ordinary field member).2.2)
        plainStored filterCompiled document
    have same : value = passes restriction document :=
      Bool.eq_iff_iff.mpr
        (decided.trans
          (passes_whereClause? ordinary restrictionCompiled document).symm)
    rw [evaluated, same]

end Queries

/--
A query with two fields on one key, a list of lists and a group
that offers nothing.
-/
def sharedKeyQuery : Query :=
  {
    kind := .select
    schema := {
      name := "person"
      storageName := none
      fields := [
        ⟨"age", none, false, none, none⟩,
        ⟨"years", some "age", false, none, none⟩,
        ⟨"name", none, false, none, none⟩]
    }
    values := none
    filter := [
      ("age",
        .conditions
          [⟨"between", .array [.ofInt 18, .ofInt 65]⟩, ⟨"ne", .null⟩]),
      ("years", .equals (.ofInt 30))]
    alternatives := [
      ("name", [⟨"like", .array [.string "A%", .string "_b"]⟩, ⟨"eq", .null⟩]),
      ("age", [⟨"in", .array [.array [.ofInt 30], .array []]⟩]),
      ("years", [⟨"gt", .array []⟩])]
  }

theorem filterDocument_agrees_with_restriction_on_shared_key :
    sharedKeyQuery.OnOrdinaryFields ∧
      sharedKeyQuery.PlainEqualities ∧
        ((∃ cause,
          whereClause? sharedKeyQuery.schema sharedKeyQuery = .error cause ∧
            filterDocument ObjectId.codec sharedKeyQuery = .error cause) ∨
          ∃ restriction filter,
            whereClause? sharedKeyQuery.schema sharedKeyQuery =
                .ok restriction ∧
              filterDocument ObjectId.codec sharedKeyQuery = .ok filter ∧
                ∀ document : Document,
                  document.matches filter =
                    .ok (passes restriction document)) := by
  have ordinary : sharedKeyQuery.OnOrdinaryFields := by
    unfold Query.OnOrdinaryFields
    decide
  have plain : sharedKeyQuery.PlainEqualities := by
    simp [Query.PlainEqualities, sharedKeyQuery, Json.isMarkedObject,
      Json.ofInt]
  exact ⟨ordinary, plain,
    filterDocument_agrees_with_restriction ObjectId.codec ordinary plain⟩

end PolyQuery.Sql
