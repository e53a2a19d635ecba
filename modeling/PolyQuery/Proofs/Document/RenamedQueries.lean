import PolyQuery.Proofs.Document.RenamedStores
import PolyQuery.Proofs.Document.StoredRows

namespace PolyQuery

open Failing

/-!
# Renamed queries

The operation that a query is compiled to under the columns of a schema is the
one that it is compiled to without them, with storage names for field names.
This needs every name in the query to be that of a field: a raw target, or a
name that the schema does not know, is a key by itself and is not renamed.
-/

namespace Schema

/-- The same entity with every field stored under its own name. -/
def withoutColumns
    (schema : Schema) :
    Schema :=
  { schema with
    fields := schema.fields.map fun field => { field with column := none } }

/--
No two fields share a name or a storage name, none of these is a path or an
operator, and only an identifier may be named or stored like the identifier's
key.
-/
structure PlainlyNamed
    (schema : Schema) :
    Prop where
  names : (schema.fields.map Field.name).Nodup
  storages : (schema.fields.map Field.storage).Nodup
  plain :
    ∀ field ∈ schema.fields, IsPlainKey field.name ∧ IsPlainKey field.storage
  unmarked :
    ∀ field ∈ schema.fields,
      Operator.isMarked field.name = false ∧
        Operator.isMarked field.storage = false
  ordinary :
    ∀ field ∈ schema.fields, field.primary = false →
      field.name ≠ idKey ∧ field.storage ≠ idKey

/-- A field is named so. -/
def HasField
    (schema : Schema)
    (name : String) :
    Prop :=
  ∃ field ∈ schema.fields, field.name = name

instance
    (schema : Schema)
    (name : String) :
    Decidable (schema.HasField name) :=
  inferInstanceAs (Decidable (∃ field ∈ schema.fields, field.name = name))

instance
    (schema : Schema)
    (row : Document) :
    Decidable (schema.Knows row) :=
  inferInstanceAs (Decidable (∀ name ∈ row.keys, schema.HasField name))

/-- The key of a field without columns, and the one with them. -/
def SameField
    (schema : Schema)
    (key other : String) :
    Prop :=
  (key = idKey ∧ other = idKey) ∨
    ∃ field ∈ schema.fields,
      field.primary = false ∧ field.name = key ∧ field.storage = other

section Names

variable
  {schema : Schema}
  (named : schema.PlainlyNamed)

include named

theorem PlainlyNamed.oneToOne :
    Relator.BiUnique schema.SameField := by
  constructor
  · rintro key keyToo other (⟨rfl, rfl⟩ | ⟨field, member, notPrimary, rfl, rfl⟩)
      (⟨rfl, isIdKey⟩ | ⟨fieldToo, memberToo, notPrimaryToo, rfl, sameStorage⟩)
    · rfl
    · exact absurd sameStorage
        (named.ordinary fieldToo memberToo notPrimaryToo).2
    · exact absurd isIdKey (named.ordinary field member notPrimary).2
    · rw [List.inj_on_of_nodup_map named.storages memberToo member sameStorage]
  · rintro key other otherToo
      (⟨rfl, rfl⟩ | ⟨field, member, notPrimary, rfl, rfl⟩)
      (⟨isIdKey, rfl⟩ | ⟨fieldToo, memberToo, notPrimaryToo, sameName, rfl⟩)
    · rfl
    · exact absurd sameName (named.ordinary fieldToo memberToo notPrimaryToo).1
    · exact absurd isIdKey (named.ordinary field member notPrimary).1
    · rw [List.inj_on_of_nodup_map named.names memberToo member sameName]

/-- Field names may stand for storage names. -/
theorem PlainlyNamed.faithful :
    FaithfulRenaming schema.SameField where
  oneToOne := named.oneToOne
  identifier := .inl ⟨rfl, rfl⟩
  plain := by
    rintro key other (⟨rfl, rfl⟩ | ⟨field, member, -, rfl, rfl⟩)
    · decide
    · exact named.plain field member
  unmarked := by
    rintro key other (⟨rfl, rfl⟩ | ⟨field, member, -, rfl, rfl⟩)
    · decide
    · exact named.unmarked field member

theorem PlainlyNamed.field?_eq
    {field : Field}
    (member : field ∈ schema.fields) :
    schema.field? field.name = some field :=
  field?_of_distinct named.names member

theorem PlainlyNamed.fieldForStorage?_eq
    {field : Field}
    (member : field ∈ schema.fields) :
    schema.fieldForStorage? field.storage = some field :=
  fieldForStorage?_of_distinct named.storages member

end Names

theorem field?_withoutColumns
    (schema : Schema)
    (name : String) :
    schema.withoutColumns.field? name =
      (schema.field? name).map fun field => { field with column := none } := by
  rw [field?, withoutColumns, List.find?_map]
  rfl

/--
Without columns, a field is found by its name where it would be
by its storage name.
-/
theorem fieldForStorage?_withoutColumns
    (schema : Schema)
    (name : String) :
    schema.withoutColumns.fieldForStorage? name =
      (schema.field? name).map fun field => { field with column := none } := by
  rw [fieldForStorage?, withoutColumns, List.find?_map]
  rfl

theorem primaryKey?_withoutColumns
    (schema : Schema) :
    schema.withoutColumns.primaryKey? =
      schema.primaryKey?.map fun field => { field with column := none } := by
  rw [primaryKey?, withoutColumns, List.find?_map]
  rfl

end Schema

namespace DocumentCompiler

section Drafts

variable {names : String → String → Prop}

/-- Clauses with renamed keys. -/
inductive ClauseRenamed
    (names : String → String → Prop) :
    Json →
    Json →
    Prop where
  | mk
      {filter filterToo : Document}
      (renamed : filter.FilterRenamed names filterToo) :
      ClauseRenamed names (.object filter) (.object filterToo)

theorem ClauseRenamed.condition
    {key other : String}
    (sameKey : names key other)
    (asked : Json) :
    ClauseRenamed names (.object [(key, asked)]) (.object [(other, asked)]) :=
  .mk (.cons (.condition sameKey asked) .nil)

/-- A combination of renamed clauses is a renamed entry of a filter. -/
theorem entryRenamed_of_clauses
    {key : String}
    (marked : Operator.isMarked key = true)
    {clauses clausesToo : List Json}
    (renamed : List.Forall₂ (ClauseRenamed names) clauses clausesToo) :
    Matching.EntryRenamed names (key, .array clauses)
      (key, .array clausesToo) := by
  have areObjects :
      ∃ filters filtersToo : List Document,
        clauses = filters.map Json.object ∧
          clausesToo = filtersToo.map Json.object ∧
          List.Forall₂ (Document.FilterRenamed names) filters filtersToo := by
    induction renamed with
    | nil =>
        exact ⟨[], [], rfl, rfl, .nil⟩
    | cons headRenamed _ inductionHypothesis =>
        obtain ⟨filters, filtersToo, rfl, rfl, restRenamed⟩ :=
          inductionHypothesis
        cases headRenamed with
        | mk filterRenamed =>
            exact ⟨_ :: filters, _ :: filtersToo, rfl, rfl,
              .cons filterRenamed restRenamed⟩
  obtain ⟨filters, filtersToo, rfl, rfl, filtersRenamed⟩ := areObjects
  exact .combination marked filtersRenamed

/--
Drafts of a filter with renamed keys, in which no combination
stands yet under `$and`.
-/
structure Draft.Renamed
    (names : String → String → Prop)
    (left right : Draft) :
    Prop where
  document : left.document.FilterRenamed names right.document
  clauses : List.Forall₂ (ClauseRenamed names) left.clauses right.clauses
  noConjunction : left.document.contains "$and" = false

variable
  (faithful : FaithfulRenaming names)
  {draft draftToo : Draft}
  (renamed : draft.Renamed names draftToo)

include faithful renamed

/-- A new entry joins a renamed draft as it did the draft, but under `$and`. -/
theorem Draft.Renamed.extend
    {key other : String}
    {condition conditionToo : Json}
    (isFree : draft.document.contains key = false)
    (sameKey : SameFilterKey names key other)
    (entryRenamed :
      Matching.EntryRenamed names (key, condition) (other, conditionToo))
    (notConjunction : key ≠ "$and") :
    Draft.Renamed names
      { draft with document := draft.document.insert key condition }
      { draftToo with
        document := draftToo.document.insert other conditionToo } := by
  have absent := Entries.contains_eq_false_iff.mp isFree
  have absentToo : other ∉ draftToo.document.keys := by
    rw [renamed.document.contains_eq faithful sameKey] at isFree
    exact Entries.contains_eq_false_iff.mp isFree
  have noConjunction := Entries.contains_eq_false_iff.mp renamed.noConjunction
  rw [Entries.insert_of_not_mem absent, Entries.insert_of_not_mem absentToo]
  exact {
    document := List.rel_append renamed.document (.cons entryRenamed .nil)
    clauses := renamed.clauses
    noConjunction := by
      rw [Entries.contains_eq_false_iff, Entries.keys_append, List.mem_append,
        not_or]
      exact ⟨noConjunction,
        fun isKey => notConjunction (List.mem_singleton.mp isKey).symm⟩
  }

theorem Draft.Renamed.place
    {key other : String}
    (sameKey : names key other)
    (condition : Json) :
    (draft.place key condition).Renamed names
      (draftToo.place other condition) := by
  have sameAnswer := renamed.document.contains_eq faithful (.inl sameKey)
  unfold Draft.place
  by_cases isTaken : draft.document.contains key = true
  · rw [if_pos isTaken, if_pos (sameAnswer ▸ isTaken)]
    exact {
      document := renamed.document
      clauses :=
        List.rel_append renamed.clauses
          (.cons (.condition sameKey condition) .nil)
      noConjunction := renamed.noConjunction
    }
  · rw [if_neg isTaken, if_neg (sameAnswer ▸ isTaken)]
    have notConjunction : key ≠ "$and" := by
      rintro rfl
      cases (faithful.unmarked "$and" other sameKey).1
    exact
      renamed.extend faithful (Bool.eq_false_iff.mpr isTaken) (.inl sameKey)
        (.condition sameKey condition) notConjunction

theorem Draft.Renamed.placeGroups
    {groups groupsToo : List (List Json)}
    (groupsRenamed :
      List.Forall₂ (List.Forall₂ (ClauseRenamed names)) groups groupsToo) :
    (draft.placeGroups groups).Renamed names
      (draftToo.placeGroups groupsToo) := by
  have alternatives :
      ∀ group groupToo, List.Forall₂ (ClauseRenamed names) group groupToo →
        Matching.EntryRenamed names ("$or", .array group)
          ("$or", .array groupToo) :=
    fun _ _ => entryRenamed_of_clauses rfl
  have asClauses :
      Draft.Renamed names
        { draft with
          clauses :=
            draft.clauses ++ groups.map fun group =>
              .object [("$or", .array group)] }
        { draftToo with
          clauses :=
            draftToo.clauses ++ groupsToo.map fun group =>
              .object [("$or", .array group)] } := {
    document := renamed.document
    clauses := by
      refine List.rel_append renamed.clauses (List.rel_map ?_ groupsRenamed)
      exact fun group groupToo groupRenamed =>
        .mk (.cons (alternatives group groupToo groupRenamed) .nil)
    noConjunction := renamed.noConjunction
  }
  have sameConnective : SameFilterKey names "$or" "$or" := .inr ⟨rfl, rfl⟩
  have sameAnswer := renamed.document.contains_eq faithful sameConnective
  unfold Draft.placeGroups
  cases groupsRenamed with
  | nil =>
      exact renamed
  | cons headRenamed restRenamed =>
      cases restRenamed with
      | cons _ _ =>
          exact asClauses
      | nil =>
          dsimp only
          by_cases isTaken : draft.document.contains "$or" = true
          · rw [if_pos isTaken, if_pos (sameAnswer ▸ isTaken)]
            exact asClauses
          · rw [if_neg isTaken, if_neg (sameAnswer ▸ isTaken)]
            exact
              renamed.extend faithful (Bool.eq_false_iff.mpr isTaken)
                sameConnective (alternatives _ _ headRenamed) (by decide)

theorem Draft.Renamed.finish :
    draft.finish.FilterRenamed names draftToo.finish := by
  have sameConnective : SameFilterKey names "$and" "$and" := .inr ⟨rfl, rfl⟩
  have absent := Entries.contains_eq_false_iff.mp renamed.noConjunction
  have absentToo : "$and" ∉ draftToo.document.keys := by
    rw [← Entries.contains_eq_false_iff,
      ← renamed.document.contains_eq faithful sameConnective]
    exact renamed.noConjunction
  unfold Draft.finish
  rw [Entries.isEmpty_eq_of_forall₂ renamed.clauses,
    Entries.get?_eq_none_iff.mpr absent, Entries.get?_eq_none_iff.mpr absentToo]
  split
  · exact renamed.document
  · dsimp only
    rw [Entries.insert_of_not_mem absent, Entries.insert_of_not_mem absentToo]
    exact
      List.rel_append renamed.document
        (.cons (entryRenamed_of_clauses rfl renamed.clauses) .nil)

end Drafts

/-- The alternatives of one condition on a field as clauses. -/
def conditionClauses
    (codec : IdentifierCodec)
    (field : String)
    (key : String)
    (condition : Condition) :
    Except QueryError (List Json) := do
  let disjuncts ← condition.disjuncts
  disjuncts.mapM fun disjunct => do
    let fragment ← lowerOperator codec field key disjunct.1 disjunct.2
    return .object [(key, .object (Entries.ofList fragment))]

section Fields

variable
  {schema : Schema}
  (named : schema.PlainlyNamed)

include named

/-- The key of a field without columns stands for its key with them. -/
theorem sameField_fieldKey
    {name : String}
    (hasField : schema.HasField name) :
    schema.SameField (fieldKey schema.withoutColumns name)
      (fieldKey schema name) := by
  obtain ⟨field, member, rfl⟩ := hasField
  unfold fieldKey
  by_cases isIdKey : field.name = idKey
  · rw [if_pos isIdKey, if_pos isIdKey]
    exact .inl ⟨rfl, rfl⟩
  · rw [if_neg isIdKey, if_neg isIdKey, Schema.field?_withoutColumns,
      named.field?_eq member]
    by_cases isPrimary : field.primary = true
    · dsimp only [Option.map_some]
      rw [if_pos isPrimary, if_pos isPrimary]
      exact .inl ⟨rfl, rfl⟩
    · dsimp only [Option.map_some]
      rw [if_neg isPrimary, if_neg isPrimary]
      exact .inr ⟨field, member, Bool.eq_false_iff.mpr isPrimary, rfl, rfl⟩

/--
A field is known to the caller by one name, whatever key it is stored under.
-/
theorem fieldName_eq
    {key other : String}
    (sameKey : schema.SameField key other) :
    fieldName schema.withoutColumns key = fieldName schema other := by
  unfold fieldName
  rcases sameKey with ⟨rfl, rfl⟩ | ⟨field, member, notPrimary, rfl, rfl⟩
  · rw [if_pos rfl, if_pos rfl, Schema.primaryKey?_withoutColumns,
      Option.map_map]
    rfl
  · obtain ⟨nameOrdinary, storageOrdinary⟩ :=
      named.ordinary field member notPrimary
    rw [if_neg nameOrdinary, if_neg storageOrdinary,
      Schema.fieldForStorage?_withoutColumns, named.field?_eq member,
      named.fieldForStorage?_eq member]
    rfl

/-- Renamed documents are one row to the caller. -/
theorem fromStore_eq
    (codec : IdentifierCodec)
    {document documentToo : Document}
    (renamed : document.Renamed schema.SameField documentToo) :
    fromStore codec schema.withoutColumns document =
      fromStore codec schema documentToo := by
  unfold fromStore
  congr 1
  induction renamed with
  | nil =>
      rfl
  | @cons entry entryToo _ _ both _ inductionHypothesis =>
      have isIdKey := named.faithful.isIdKey_iff both.1
      rw [List.map_cons, List.map_cons, inductionHypothesis,
        fieldName_eq named both.1, both.2, if_congr isIdKey rfl rfl]

section Values

variable
  (codec : IdentifierCodec)
  {key other : String}
  (sameKey : schema.SameField key other)

include sameKey

theorem storedValue_eq :
    storedValue codec key = storedValue codec other := by
  funext value
  unfold storedValue
  rw [if_congr (named.faithful.isIdKey_iff sameKey) rfl rfl]

theorem lowerOperator_eq
    (field : String) :
    lowerOperator codec field key = lowerOperator codec field other := by
  funext operator value
  unfold lowerOperator
  rw [storedValue_eq named codec sameKey]

theorem packConditions_eq
    (field : String)
    (conditions : List Condition)
    (packed : List Document) :
    packConditions codec field key conditions packed =
      packConditions codec field other conditions packed := by
  induction conditions generalizing packed with
  | nil =>
      rfl
  | cons condition rest inductionHypothesis =>
      rw [packConditions, packConditions, lowerOperator_eq named codec sameKey]
      simp only [inductionHypothesis]

theorem conditionClauses_alike
    (field : String)
    (condition : Condition) :
    Alike SameKind (List.Forall₂ (ClauseRenamed schema.SameField))
      (conditionClauses codec field key condition)
      (conditionClauses codec field other condition) := by
  unfold conditionClauses
  rw [lowerOperator_eq named codec sameKey]
  refine Alike.after sameKind_refl fun disjuncts _ =>
    Alike.mapM_of_mem fun disjunct _ => ?_
  refine Alike.after sameKind_refl fun fragment _ => ?_
  exact .ok (.condition sameKey _)

end Values

section Filters

variable
  (codec : IdentifierCodec)
  {field : String}
  (hasField : schema.HasField field)

include hasField

theorem placeField_alike
    {draft draftToo : Draft}
    (renamed : draft.Renamed schema.SameField draftToo)
    (asked : FieldFilter) :
    Alike SameKind (Draft.Renamed schema.SameField)
      (placeField codec schema.withoutColumns draft field asked)
      (placeField codec schema draftToo field asked) := by
  have sameKey := sameField_fieldKey named hasField
  cases asked with
  | equals value =>
      dsimp only [placeField]
      rw [storedValue_eq named codec sameKey]
      refine Alike.after sameKind_refl fun stored _ => ?_
      exact .ok (renamed.place named.faithful sameKey stored)
  | conditions conditions =>
      dsimp only [placeField]
      rw [packConditions_eq named codec sameKey]
      refine Alike.after sameKind_refl fun packed packs => .ok ?_
      clear packs
      induction packed generalizing draft draftToo with
      | nil =>
          exact renamed
      | cons operators rest inductionHypothesis =>
          exact inductionHypothesis
            (renamed.place named.faithful sameKey (.object operators))

theorem groupClauses_alike
    (conditions : List Condition) :
    Alike SameKind (List.Forall₂ (ClauseRenamed schema.SameField))
      (groupClauses codec schema.withoutColumns field conditions)
      (groupClauses codec schema field conditions) := by
  have sameKey := sameField_fieldKey named hasField
  have alternativesAlike :
      ∀ condition ∈ conditions,
        Alike SameKind (List.Forall₂ (ClauseRenamed schema.SameField))
          (conditionClauses codec field (fieldKey schema.withoutColumns field)
            condition)
          (conditionClauses codec field (fieldKey schema field) condition) :=
    fun condition _ =>
      conditionClauses_alike named codec sameKey field condition
  refine (Alike.mapM_of_mem alternativesAlike).bind
    fun clauses clausesToo clausesRenamed => ?_
  exact .ok (List.rel_flatten clausesRenamed)

end Filters

theorem placeFields_alike
    (codec : IdentifierCodec)
    {filter : List (String × FieldFilter)}
    (haveFields : ∀ entry ∈ filter, schema.HasField entry.1)
    {draft draftToo : Draft}
    (renamed : draft.Renamed schema.SameField draftToo) :
    Alike SameKind (Draft.Renamed schema.SameField)
      (placeFields codec schema.withoutColumns filter draft)
      (placeFields codec schema filter draftToo) := by
  induction filter generalizing draft draftToo with
  | nil =>
      exact .ok renamed
  | cons entry rest inductionHypothesis =>
      obtain ⟨hasField, restHave⟩ := List.forall_mem_cons.mp haveFields
      refine (placeField_alike named codec hasField renamed entry.2).bind ?_
      exact fun placed placedToo placedRenamed =>
        inductionHypothesis restHave placedRenamed

end Fields

end DocumentCompiler

end PolyQuery
