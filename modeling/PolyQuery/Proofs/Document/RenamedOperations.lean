import PolyQuery.Proofs.Document.RenamedQueries

namespace PolyQuery

open Failing

/-!
# Renamed operations

A query whose names are all those of fields is compiled to the same operation
under the columns of its schema as without them, but for the keys, or fails
under both with failures of one kind. An update may also hold operators, whose
fields are renamed; only `$rename` is left out, which names a field by a value.
-/

namespace Schema

/-- An entry of an update names a field, or an operator that names fields. -/
inductive Changes
    (schema : Schema) :
    String × Json →
    Prop where
  | field
      {name : String}
      (hasField : schema.HasField name)
      (value : Json) :
      Changes schema (name, value)
  | operator
      {name : String}
      (marked : Operator.isMarked name = true)
      (notRename : name ≠ "$rename")
      {operand : Json}
      (known : ∀ fields, operand = .object fields → schema.Knows fields) :
      Changes schema (name, operand)

/-- A target is a field. -/
def HasTarget
    (schema : Schema) :
    Target →
    Prop
  | .field name => schema.HasField name
  | .raw _ => False

instance
    (schema : Schema) :
    ∀ target, Decidable (schema.HasTarget target)
  | .field name => inferInstanceAs (Decidable (schema.HasField name))
  | .raw _ => inferInstanceAs (Decidable False)

end Schema

/-- All that clauses filter, project and order by are fields. -/
structure Clauses.NameFields
    (schema : Schema)
    (clauses : Clauses) :
    Prop where
  filter : ∀ entry ∈ clauses.filter, schema.HasField entry.1
  alternatives : ∀ entry ∈ clauses.alternatives, schema.HasField entry.1
  projection : ∀ target ∈ clauses.projection, schema.HasTarget target
  order : ∀ term ∈ clauses.order, schema.HasTarget term.target

instance
    (schema : Schema)
    (clauses : Clauses) :
    Decidable (clauses.NameFields schema) :=
  decidable_of_iff
    ((∀ entry ∈ clauses.filter, schema.HasField entry.1) ∧
      (∀ entry ∈ clauses.alternatives, schema.HasField entry.1) ∧
      (∀ target ∈ clauses.projection, schema.HasTarget target) ∧
      ∀ term ∈ clauses.order, schema.HasTarget term.target)
    ⟨fun ⟨filter, alternatives, projection, order⟩ =>
        ⟨filter, alternatives, projection, order⟩,
      fun names =>
        ⟨names.filter, names.alternatives, names.projection, names.order⟩⟩

namespace Query

/-- The query of an entity with every field stored under its own name. -/
def withoutColumns
    (query : Query) :
    Query :=
  { query with schema := query.schema.withoutColumns }

/--
Every name in a query is that of a field, but for the operators of an update.
-/
structure NamesFields
    (query : Query) :
    Prop where
  clauses : query.toClauses.NameFields query.schema
  inserted : query.kind = .insert → ∀ row ∈ query.rows, query.schema.Knows row
  updated :
    query.kind = .update → ∀ row ∈ query.rows, ∀ entry ∈ row,
      query.schema.Changes entry

end Query

namespace DocumentCompiler

section Rows

variable
  {schema : Schema}
  (named : schema.PlainlyNamed)
  (codec : IdentifierCodec)

include named

/--
Entries with a value computed for every key are computed
alike under renamed keys.
-/
theorem mapM_entries_alike
    {row : Document}
    (known : schema.Knows row)
    {compute : String → Json → Except QueryError Json}
    (computedAlike :
      ∀ key other, schema.SameField key other → compute key = compute other) :
    Alike SameKind (Document.Renamed schema.SameField)
      (row.mapM fun entry => do
        let value ← compute (fieldKey schema.withoutColumns entry.1) entry.2
        return (fieldKey schema.withoutColumns entry.1, value))
      (row.mapM fun entry => do
        let value ← compute (fieldKey schema entry.1) entry.2
        return (fieldKey schema entry.1, value)) := by
  refine Alike.mapM_of_mem fun entry member => ?_
  have sameKey :=
    sameField_fieldKey named (known entry.1 (Entries.mem_keys_of_mem member))
  rw [computedAlike _ _ sameKey]
  exact Alike.after sameKind_refl fun value _ => .ok ⟨sameKey, rfl⟩

theorem toStore_alike
    {row : Document}
    (known : schema.Knows row) :
    Alike SameKind (Document.Renamed schema.SameField)
      (toStore codec schema.withoutColumns row) (toStore codec schema row) := by
  refine (mapM_entries_alike named known fun _ _ =>
    storedValue_eq named codec).bind ?_
  exact fun _ _ renamed => .ok (renamed.ofList named.oneToOne)

theorem mapOperand_alike
    (operator : String)
    {fields : Document}
    (known : schema.Knows fields) :
    Alike SameKind (Document.Renamed schema.SameField)
      (mapOperand codec schema.withoutColumns operator fields)
      (mapOperand codec schema operator fields) := by
  unfold mapOperand
  cases storesValues operator with
  | true =>
      exact toStore_alike named codec known
  | false =>
      refine (mapM_entries_alike named known fun _ _ _ =>
        Eq.refl Except.ok).bind ?_
      exact fun _ _ renamed => .ok (renamed.ofList named.oneToOne)

end Rows

/-- Update documents under way with renamed keys. -/
structure UpdateDraft.Renamed
    (names : String → String → Prop)
    (left right : UpdateDraft) :
    Prop where
  operators : left.operators.UpdateRenamed names right.operators
  plain : left.plain.Renamed names right.plain

theorem membersOf_renamed
    {names : String → String → Prop}
    {value valueToo : Option Json}
    (both : Option.Rel (FieldsRenamed names) value valueToo) :
    (Path.membersOf value).Renamed names (Path.membersOf valueToo) := by
  cases both with
  | none =>
      exact .nil
  | some fieldsRenamed =>
      cases fieldsRenamed with
      | mk renamed =>
          exact renamed

theorem sameOperator_oneToOne :
    Relator.BiUnique SameOperator := by
  constructor
  · rintro operator other _ ⟨rfl, -⟩ ⟨rfl, -⟩
    rfl
  · rintro operator other _ ⟨rfl, -⟩ ⟨rfl, -⟩
    rfl

section Updates

variable
  {schema : Schema}
  (named : schema.PlainlyNamed)
  (codec : IdentifierCodec)

include named

theorem addEntry_alike
    {draft draftToo : UpdateDraft}
    (renamed : draft.Renamed schema.SameField draftToo)
    {entry : String × Json}
    (changes : schema.Changes entry) :
    Alike SameKind (UpdateDraft.Renamed schema.SameField)
      (addEntry codec schema.withoutColumns draft entry.1 entry.2)
      (addEntry codec schema draftToo entry.1 entry.2) := by
  unfold addEntry
  cases changes with
  | @field name hasField value =>
      have sameKey := sameField_fieldKey named hasField
      obtain ⟨field, member, rfl⟩ := hasField
      dsimp only
      rw [(named.unmarked field member).1, storedValue_eq named codec sameKey]
      refine Alike.after sameKind_refl fun stored _ => .ok ?_
      exact {
        operators := renamed.operators
        plain := renamed.plain.insert named.oneToOne sameKey rfl
      }
  | @operator name marked notRename operand known =>
      dsimp only
      rw [marked, if_pos rfl, if_pos rfl]
      split
      · exact .error rfl
      · cases operand with
        | object fields =>
            refine (mapOperand_alike named codec name (known fields rfl)).bind
              ?_
            intro mapped mappedToo mappedRenamed
            exact .ok {
              operators :=
                renamed.operators.insert sameOperator_oneToOne ⟨rfl, notRename⟩
                  (.mk mappedRenamed)
              plain := renamed.plain
            }
        | _ =>
            exact .error rfl

theorem addEntries_alike
    {row : List (String × Json)}
    (changes : ∀ entry ∈ row, schema.Changes entry)
    {draft draftToo : UpdateDraft}
    (renamed : draft.Renamed schema.SameField draftToo) :
    Alike SameKind (UpdateDraft.Renamed schema.SameField)
      (addEntries codec schema.withoutColumns row draft)
      (addEntries codec schema row draftToo) := by
  induction row generalizing draft draftToo with
  | nil =>
      exact .ok renamed
  | cons entry rest inductionHypothesis =>
      obtain ⟨headChanges, restChanges⟩ := List.forall_mem_cons.mp changes
      refine (addEntry_alike named codec renamed headChanges).bind ?_
      exact fun extended extendedToo extendedRenamed =>
        inductionHypothesis restChanges extendedRenamed

theorem updateDocument_alike
    {row : Document}
    (changes : ∀ entry ∈ row, schema.Changes entry) :
    Alike SameKind (Document.UpdateRenamed schema.SameField)
      (updateDocument codec schema.withoutColumns row)
      (updateDocument codec schema row) := by
  have drafted : UpdateDraft.Renamed schema.SameField {} {} := ⟨.nil, .nil⟩
  refine (addEntries_alike named codec changes drafted).bind
    fun draft draftToo renamed => ?_
  have sameSet : SameOperator "$set" "$set" := ⟨rfl, by decide⟩
  have explicit := renamed.operators.get? sameOperator_oneToOne sameSet
  rw [Entries.isEmpty_eq_of_forall₂ renamed.plain]
  split
  · exact .ok renamed.operators
  · refine .ok (renamed.operators.insert sameOperator_oneToOne sameSet (.mk ?_))
    refine List.rel_foldl ?_ (membersOf_renamed explicit) renamed.plain
    exact fun _ _ valuesRenamed _ _ both =>
      Entries.Alike.insertIfAbsent named.oneToOne valuesRenamed both.1 both.2

/--
The update of a row of a batch is found by the same
identifier under the columns.
-/
theorem rowUpdate_alike
    (key : Field)
    {base baseToo : Document}
    (baseRenamed : base.FilterRenamed schema.SameField baseToo)
    {row : Document}
    (changes : ∀ entry ∈ row, schema.Changes entry) :
    Alike SameKind (FilteredUpdate.Renamed schema.SameField)
      (rowUpdate codec schema.withoutColumns { key with column := none } base
        row)
      (rowUpdate codec schema key baseToo row) := by
  have restChanges : ∀ entry ∈ row.erase key.name, schema.Changes entry :=
    fun entry member => changes entry (Entries.mem_of_mem_erase member)
  unfold rowUpdate
  dsimp only
  cases row.get? key.name with
  | none =>
      exact .error rfl
  | some identifier =>
      refine Alike.after sameKind_refl fun encoded _ => ?_
      refine (updateDocument_alike named codec restChanges).bind
        fun update updateToo renamed => ?_
      have byId :
          Document.FilterRenamed schema.SameField [(idKey, encoded)]
            [(idKey, encoded)] :=
        .cons (.condition (.inl ⟨rfl, rfl⟩) encoded) .nil
      have clauses :
          List.Forall₂ (ClauseRenamed schema.SameField)
            [.object base, .object [(idKey, encoded)]]
            [.object baseToo, .object [(idKey, encoded)]] :=
        .cons (.mk baseRenamed) (.cons (.mk byId) .nil)
      refine .ok {
        filter := ?_
        update := renamed
      }
      dsimp only
      rw [Entries.isEmpty_eq_of_forall₂ baseRenamed]
      split
      · exact byId
      · exact .cons (entryRenamed_of_clauses rfl clauses) .nil

end Updates

section Queries

variable
  {query : Query}
  (named : query.schema.PlainlyNamed)
  (names : query.NamesFields)
  (codec : IdentifierCodec)

include named names

theorem filterDocument_alike :
    Alike SameKind (Document.FilterRenamed query.schema.SameField)
      (filterDocument codec query.withoutColumns)
      (filterDocument codec query) := by
  have drafted : Draft.Renamed query.schema.SameField {} {} := ⟨.nil, .nil, rfl⟩
  have grouped :
      Alike SameKind
        (List.Forall₂ (List.Forall₂ (ClauseRenamed query.schema.SameField)))
        (query.alternatives.mapM fun entry =>
          groupClauses codec query.schema.withoutColumns entry.1 entry.2)
        (query.alternatives.mapM fun entry =>
          groupClauses codec query.schema entry.1 entry.2) := by
    refine Alike.mapM_of_mem fun entry member => ?_
    exact groupClauses_alike named codec
      (names.clauses.alternatives entry member) entry.2
  refine (placeFields_alike named codec names.clauses.filter drafted).bind ?_
  intro placed placedToo placedRenamed
  refine grouped.bind fun groups groupsToo groupsRenamed => ?_
  have nonemptyRenamed :
      List.Forall₂ (List.Forall₂ (ClauseRenamed query.schema.SameField))
        (groups.filter fun group => !group.isEmpty)
        (groupsToo.filter fun group => !group.isEmpty) := by
    refine List.rel_filter (fun group groupToo groupRenamed => ?_) groupsRenamed
    dsimp only
    rw [Entries.isEmpty_eq_of_forall₂ groupRenamed]
  have completed := placedRenamed.placeGroups named.faithful nonemptyRenamed
  exact .ok (completed.finish named.faithful)

omit names in
theorem targetKey_sameField
    {target : Target}
    (hasTarget : query.schema.HasTarget target) :
    query.schema.SameField (targetKey query.withoutColumns.schema target)
      (targetKey query.schema target) := by
  cases target with
  | field name =>
      exact sameField_fieldKey named hasTarget
  | raw expression =>
      cases hasTarget

omit names in
theorem targetMapping?_renamed
    {α : Type}
    {terms : List α}
    {target : α → Target}
    (haveTargets : ∀ term ∈ terms, query.schema.HasTarget (target term))
    (mark : α → Json) :
    Option.Rel (Document.Renamed query.schema.SameField)
      (targetMapping? (terms.map fun term =>
        (targetKey query.withoutColumns.schema (target term), mark term)))
      (targetMapping? (terms.map fun term =>
        (targetKey query.schema (target term), mark term))) := by
  have renamed :
      Document.Renamed query.schema.SameField
        (terms.map fun term =>
          (targetKey query.withoutColumns.schema (target term), mark term))
        (terms.map fun term =>
          (targetKey query.schema (target term), mark term)) := by
    apply List.forall₂_map_left_iff.mpr
    apply List.forall₂_map_right_iff.mpr
    apply List.forall₂_same.mpr
    exact fun term member =>
      ⟨targetKey_sameField named (haveTargets term member), rfl⟩
  unfold targetMapping?
  rw [Entries.isEmpty_eq_of_forall₂ renamed]
  split
  · exact .none
  · exact .some (renamed.ofList named.oneToOne)

theorem window_renamed :
    (window query.withoutColumns).Renamed query.schema.SameField
      (window query) where
  projection := targetMapping?_renamed named names.clauses.projection _
  sort := targetMapping?_renamed named names.clauses.order _
  sameSkip := rfl
  sameLimit := rfl

theorem updateOperation_alike
    (isUpdate : query.kind = .update) :
    Alike SameKind (DocumentOperation.Renamed query.schema.SameField)
      (updateOperation codec query.withoutColumns)
      (updateOperation codec query) := by
  have filtered := filterDocument_alike named names codec
  have changes := names.updated isUpdate
  unfold updateOperation
  unfold Query.rows at changes
  dsimp only [Query.withoutColumns] at filtered ⊢
  cases values : query.values with
  | none =>
      exact .error rfl
  | some mutation =>
      rw [values] at changes
      cases mutation with
      | single row =>
          refine filtered.bind fun filter filterToo filterRenamed => ?_
          refine (updateDocument_alike named codec
            (changes row List.mem_cons_self)).bind ?_
          intro update updateToo updateRenamed
          exact .ok (.update _ filterRenamed updateRenamed _ _)
      | batch rows =>
          dsimp only
          rw [Schema.primaryKey?_withoutColumns]
          cases query.schema.primaryKey? with
          | none =>
              exact .error rfl
          | some key =>
              refine filtered.bind fun base baseToo baseRenamed => ?_
              have rowsUpdated :
                  ∀ row ∈ rows,
                    Alike SameKind
                      (FilteredUpdate.Renamed query.schema.SameField)
                      (rowUpdate codec query.schema.withoutColumns
                        { key with column := none } base row)
                      (rowUpdate codec query.schema key baseToo row) :=
                fun row member =>
                  rowUpdate_alike named codec key baseRenamed
                    (changes row member)
              refine (Alike.mapM_of_mem rowsUpdated).bind
                fun _ _ updatesRenamed => ?_
              exact .ok (.bulkUpdate _ updatesRenamed _)

/--
With columns and without, a query is compiled to one operation but for the keys.
-/
theorem compile_alike :
    Alike SameKind (DocumentOperation.Renamed query.schema.SameField)
      (compile codec query.withoutColumns) (compile codec query) := by
  have filtered := filterDocument_alike named names codec
  unfold compile
  dsimp only [Query.withoutColumns] at filtered ⊢
  cases isKind : query.kind with
  | select =>
      refine Alike.after sameKind_refl fun _ _ => ?_
      refine filtered.bind fun filter filterToo filterRenamed => ?_
      exact .ok (.find _ filterRenamed (window_renamed named names))
  | insert =>
      have known := names.inserted isKind
      have rowsStored :
          ∀ row ∈ query.rows,
            Alike SameKind (Document.Renamed query.schema.SameField)
              (toStore codec query.schema.withoutColumns row)
              (toStore codec query.schema row) :=
        fun row member => toStore_alike named codec (known row member)
      refine (Alike.mapM_of_mem rowsStored).bind fun _ _ documentsRenamed => ?_
      exact .ok (.insert _ documentsRenamed)
  | update =>
      exact updateOperation_alike named names codec isKind
  | delete =>
      refine filtered.bind fun filter filterToo filterRenamed => ?_
      exact .ok (.delete _ filterRenamed _)

theorem compileCount_alike :
    Alike SameKind (DocumentOperation.Renamed query.schema.SameField)
      (compileCount codec query.withoutColumns) (compileCount codec query) := by
  refine Alike.after sameKind_refl fun _ _ => ?_
  refine (filterDocument_alike named names codec).bind
    fun filter filterToo filterRenamed => ?_
  exact .ok (.count _ filterRenamed)

end Queries

end DocumentCompiler

end PolyQuery
