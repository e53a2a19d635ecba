import PolyQuery.Proofs.Sql.Placeholders
import PolyQuery.Proofs.Sql.WrittenRows
import PolyQuery.Proofs.Sql.WrittenTexts

namespace PolyQuery

open Failing

/-!
# Payloads of batches

A batch has one payload for each row, in order. In each of them the placeholder
of a column, wherever it is written, holds the value that the row has for the
field of that column, and the placeholder of a row key the row's identifier.
The order of the keys in a row plays no part.
-/

namespace Sql

/--
By a payload, the placeholder of each column stands for the value that a row has
for the field which is stored in the column.
-/
def CarriesRow
    (dialect : Dialect)
    (schema : Schema)
    (columns placeholders : List String)
    (row payload : Document) :
    Prop :=
  List.Forall₂
    (fun column placeholder =>
      ∃ field value,
        schema.fieldForStorage? column = some field ∧
          row.get? field.name = some value ∧
            (boundValues dialect payload).get? placeholder = some value)
    columns placeholders

/-- Every name of a row has one of some columns, an identifier's name aside. -/
def CoversRow
    (schema : Schema)
    (columns : List String)
    (identifier : Option String)
    (row : Document) :
    Prop :=
  ∀ name ∈ row.keys, some name ≠ identifier → ∃ column ∈ columns,
    schema.column name = .ok column

/-- A rendered insert writes each row by a payload of its own. -/
def Rendered.InsertsInPlace
    (dialect : Dialect)
    (schema : Schema)
    (rows : List Document)
    (rendered : Rendered) :
    Prop :=
  ∃ columns placeholders,
    columns.Nodup ∧
      rendered.sql = insertText dialect schema.storage columns placeholders ∧
      (∀ row ∈ rows, CoversRow schema columns none row) ∧
      List.Forall₂ (CarriesRow dialect schema columns placeholders) rows
        rendered.params.payloads

/--
A rendered update writes each row, found by its identifier, by
a payload of its own.
-/
def Rendered.UpdatesInPlace
    (dialect : Dialect)
    (schema : Schema)
    (rows : List Document)
    (rendered : Rendered) :
    Prop :=
  ∃ key columns placeholders keyPlaceholder rest,
    schema.primaryKey? = some key ∧
      columns.Nodup ∧
      rendered.sql =
        updateText dialect schema.storage columns placeholders ++ " WHERE " ++
          dialect.quote schema.storage ++ "." ++ dialect.quote key.storage ++
            " = " ++ keyPlaceholder ++ rest ∧
      (∀ row ∈ rows, CoversRow schema columns (some key.name) row) ∧
      List.Forall₂
        (fun row payload =>
          CarriesRow dialect schema columns placeholders row payload ∧
            ∃ identifier,
              row.get? key.name = some identifier ∧
                (boundValues dialect payload).get? keyPlaceholder =
                  some identifier)
        rows rendered.params.payloads

section Rows

variable
  {schema : Schema}
  {names columns : List String}
  {rows : List Document}
  {values : List (List Json)}
  (storages : (schema.fields.map Field.storage).Nodup)

include storages

/-- Different names have different columns. -/
theorem LaidOut.nodup_columns
    (laid : LaidOut schema names columns rows values)
    (distinctNames : names.Nodup) :
    columns.Nodup := by
  have backToNames :
      columns.map
          (fun column => (schema.fieldForStorage? column).map Field.name) =
        names.map some := by
    have named := laid.named
    clear laid distinctNames
    induction named with
    | nil =>
        rfl
    | cons headNamed _ inductionHypothesis =>
        obtain ⟨field, found, isName⟩ :=
          Schema.fieldForStorage?_of_column storages headNamed
        rw [List.map_cons, List.map_cons, inductionHypothesis, found,
          Option.map_some, isName]
  refine List.Nodup.of_map
    (fun column => (schema.fieldForStorage? column).map Field.name) ?_
  rw [backToNames]
  exact distinctNames.map fun _ _ => Option.some.inj

/--
Values that are read in the order of the columns are carried
by their placeholders.
-/
theorem carriesRow_of_read
    {dialect : Dialect}
    {placeholders : List String}
    {row payload : Document}
    {items : List Json}
    {key : Option Json}
    (named :
      List.Forall₂ (fun name column => schema.column name = .ok column) names
        columns)
    (found :
      List.Forall₂ (fun name value => row.get? name = some value) names items)
    (sameLength : placeholders.length = columns.length)
    (bound :
      ∀ parameter ∈ placeholders.mapIdx fun index placeholder =>
          (placeholder, Slot.column index),
        (boundValues dialect payload).get? parameter.1 =
          some (parameter.2.value items key)) :
    CarriesRow dialect schema columns placeholders row payload := by
  refine List.forall₂_iff_get.mpr
    ⟨sameLength.symm, fun index inColumns inPlaceholders => ?_⟩
  have inNames : index < names.length := named.length_eq ▸ inColumns
  have inItems : index < items.length := found.length_eq ▸ inNames
  have isNamed := (List.forall₂_iff_get.mp named).2 index inNames inColumns
  have isFound := (List.forall₂_iff_get.mp found).2 index inNames inItems
  obtain ⟨field, stored, isName⟩ :=
    Schema.fieldForStorage?_of_column storages isNamed
  refine ⟨field, items[index], stored, isName ▸ isFound, ?_⟩
  have holds :=
    bound (placeholders[index], .column index)
      (List.mem_mapIdx.mpr ⟨index, inPlaceholders, rfl⟩)
  rw [Slot.value, List.getElem?_eq_getElem inItems] at holds
  exact holds

end Rows

/-- What one list has to do with two others, it has to do with their pairs. -/
theorem forall₂_zip_right
    {α β γ : Type}
    {related : α → β → Prop}
    {relatedToo : α → γ → Prop}
    {items : List α}
    {firsts : List β}
    {seconds : List γ}
    (allFirst : List.Forall₂ related items firsts)
    (allSecond : List.Forall₂ relatedToo items seconds) :
    List.Forall₂ (fun item both => related item both.1 ∧ relatedToo item both.2)
      items (firsts.zip seconds) := by
  induction allFirst generalizing seconds with
  | nil =>
      cases allSecond
      exact .nil
  | cons headRelated _ inductionHypothesis =>
      cases allSecond with
      | cons headToo restToo =>
          exact .cons ⟨headRelated, headToo⟩ (inductionHypothesis restToo)

section Batches

variable
  {query : Query}
  (storages : (query.schema.fields.map Field.storage).Nodup)
  (maps : ∀ row ∈ query.rows, Entries.Distinct row)

include storages maps

theorem insertOf_in_place
    (dialect : Dialect)
    {inserted : Insert}
    (compiled : insertOf query.schema query = .ok inserted) :
    ((Statement.insert inserted).render dialect).InsertsInPlace dialect
      query.schema query.rows := by
  obtain ⟨isTable, first, firstMember, laid⟩ := insertOf_eq_ok compiled
  have firstDistinct : Entries.Distinct first := maps first firstMember
  obtain ⟨placeholders, sameLength, isPlaced, isText⟩ :=
    insertText_of_pieces dialect inserted
  refine ⟨inserted.columns, placeholders,
    laid.nodup_columns storages firstDistinct, ?_, ?_, ?_⟩
  · rw [← isTable]
    exact isText
  · intro row rowMember name member _
    have isName := (laid.keys_perm firstDistinct rowMember).mem_iff.mp member
    exact exists_right_of_mem laid.named isName
  · rw [Statement.render, payloads_params, Statement.sources, List.map_map]
    refine List.forall₂_map_right_iff.mpr
      (laid.read.imp fun row items read => ?_)
    have bound :
        ∀ parameter ∈ placeholders.mapIdx fun index placeholder =>
            (placeholder, Slot.column index),
          (boundValues dialect
              (payload
                (bindPieces dialect .empty
                  (insertPieces dialect inserted)).slots items
                none)).get? parameter.1 =
            some (parameter.2.value items none) := fun parameter member =>
      get?_boundValues items none (isPlaced ▸ member)
    exact carriesRow_of_read storages laid.named read.found sameLength bound

theorem batchUpdateOf_in_place
    (dialect : Dialect)
    {filter : Option Expr}
    {first : Document}
    (firstMember : first ∈ query.rows)
    {updated : Update}
    (compiled :
      batchUpdateOf query.schema filter first query.rows = .ok updated) :
    ((Statement.update updated).render dialect).UpdatesInPlace dialect
      query.schema query.rows := by
  obtain ⟨key, identifiers, isKey, isTable, -, -, isRowKey, identified, laid⟩ :=
    batchUpdateOf_eq_ok compiled
  have firstDistinct : Entries.Distinct first := maps first firstMember
  obtain ⟨placeholders, keyPlaceholder, rest, sameLength, arePlaced, isText⟩ :=
    updateText_of_pieces dialect isRowKey
  refine ⟨key, updated.columns, placeholders, keyPlaceholder, rest, isKey,
    laid.nodup_columns storages (firstDistinct.filter _), ?_, ?_, ?_⟩
  · have spelled :
        ((Statement.update updated).render dialect).sql =
          updateText dialect updated.table updated.columns placeholders ++
            " WHERE " ++ rowKeyText dialect
              { table := query.schema.storage, column := key.storage,
                values := identifiers }
              keyPlaceholder ++
            rest :=
      isText
    simp only [spelled, isTable, rowKeyText, String.append_assoc]
  · intro row rowMember name member notKey
    obtain ⟨identifier, -, isIdentified⟩ :=
      exists_right_of_mem identified rowMember
    have keys := laid.keys_perm_of_erased firstDistinct rowMember isIdentified
    have isName :=
      List.mem_of_ne_of_mem (fun same => notKey (congrArg some same))
        (keys.mem_iff.mp member)
    exact exists_right_of_mem laid.named isName
  · have sources :
        (Statement.update updated).sources =
          (updated.rows.zip identifiers).map fun both =>
            (both.1, some both.2) := by
      simp only [Statement.sources, isRowKey, List.zip_map_right]
      rfl
    rw [Statement.render, payloads_params, sources, List.map_map]
    have together :=
      forall₂_zip_right (List.forall₂_map_left_iff.mp laid.read) identified
    have withDistinct := (List.forall₂_and_left _ _).mpr ⟨maps, together⟩
    refine List.forall₂_map_right_iff.mpr (withDistinct.imp ?_)
    rintro row ⟨items, identifier⟩ ⟨distinct, read, isIdentified⟩
    have bound :
        ∀ parameter ∈
            (placeholders.mapIdx fun index placeholder =>
              (placeholder, Slot.column index)) ++
              [(keyPlaceholder, Slot.rowKey)],
          (boundValues dialect
              (payload
                (bindPieces dialect .empty (updatePieces dialect updated)).slots
                items (some identifier))).get? parameter.1 =
            some (parameter.2.value items (some identifier)) :=
      fun parameter member =>
        get?_boundValues items (some identifier) (arePlaced member)
    obtain ⟨columnsBound, keyBound⟩ := List.forall_mem_append.mp bound
    have found := read.found.imp fun name value isFound =>
      Entries.get?_of_mem distinct
        (Entries.mem_of_mem_erase (Entries.mem_of_get? isFound))
    exact ⟨carriesRow_of_read storages laid.named found sameLength columnsBound,
      identifier, isIdentified, keyBound _ (List.mem_singleton_self _)⟩

omit storages in
/-- The rows of a batch that is compiled all have the same names. -/
theorem keys_perm_of_compiled
    {statement : Statement}
    (compiled : compile query = .ok statement)
    (writes : query.kind = .insert ∨
      query.kind = .update ∧ ∃ rows, query.values = some (.batch rows)) :
    ∃ names : List String, ∀ row ∈ query.rows, row.keys.Perm names := by
  rcases writes with isInsert | ⟨isUpdate, rows, isBatch⟩
  · obtain ⟨inserted, insertCompiled, -⟩ :=
      (compile_insert_eq_ok isInsert).mp compiled
    obtain ⟨-, first, firstMember, laid⟩ := insertOf_eq_ok insertCompiled
    exact ⟨first.keys, fun row => laid.keys_perm (maps first firstMember)⟩
  · obtain ⟨updated, updateCompiled, -⟩ :=
      (compile_update_eq_ok isUpdate).mp compiled
    obtain ⟨filter, first, firstMember, batch⟩ :=
      updateOf_of_batch isBatch updateCompiled
    obtain ⟨key, identifiers, -, -, -, -, -, identified, laid⟩ :=
      batchUpdateOf_eq_ok batch
    refine ⟨key.name :: assignedNames key first, fun row rowMember => ?_⟩
    obtain ⟨identifier, -, isIdentified⟩ :=
      exists_right_of_mem identified rowMember
    exact laid.keys_perm_of_erased (maps first firstMember) rowMember
      isIdentified

/-- The text of an insert, rendered, writes its rows in place. -/
theorem toSql_insert_in_place
    (isInsert : query.kind = .insert)
    {dialect : Dialect}
    {rendered : Rendered}
    (compiled : query.toSql dialect = .ok rendered) :
    rendered.InsertsInPlace dialect query.schema query.rows := by
  obtain ⟨statement, isStatement, rfl⟩ := map_eq_ok.mp compiled
  obtain ⟨inserted, insertCompiled, rfl⟩ :=
    (compile_insert_eq_ok isInsert).mp isStatement
  exact insertOf_in_place storages maps dialect insertCompiled

theorem toSql_batchUpdate_in_place
    (isUpdate : query.kind = .update)
    {rows : List Document}
    (isBatch : query.values = some (.batch rows))
    {dialect : Dialect}
    {rendered : Rendered}
    (compiled : query.toSql dialect = .ok rendered) :
    rendered.UpdatesInPlace dialect query.schema query.rows := by
  obtain ⟨statement, isStatement, rfl⟩ := map_eq_ok.mp compiled
  obtain ⟨updated, updateCompiled, rfl⟩ :=
    (compile_update_eq_ok isUpdate).mp isStatement
  obtain ⟨filter, first, firstMember, batch⟩ :=
    updateOf_of_batch isBatch updateCompiled
  exact batchUpdateOf_in_place storages maps dialect firstMember batch

end Batches

/--
Batches never shift values.

In every dialect the rendered insert or update of a batch has one payload for
each row, in order. The placeholder that is written for a column stands for the
row's value of the field stored there, the one for the row key for the row's
identifier. Rows with different names are not compiled.
-/
theorem batches_written_in_place
    (query : Query)
    (rows : List Document)
    (isBatch : query.values = some (.batch rows))
    (storages : (query.schema.fields.map Field.storage).Nodup)
    (maps : ∀ row ∈ rows, Entries.Distinct row) :
    (∀ dialect rendered, query.toSql dialect = .ok rendered →
        (query.kind = .insert →
          rendered.InsertsInPlace dialect query.schema rows) ∧
          (query.kind = .update →
            rendered.UpdatesInPlace dialect query.schema rows)) ∧
      (query.kind = .insert ∨ query.kind = .update →
        (∃ first ∈ rows, ∃ second ∈ rows, ∃ name ∈ first.keys,
          name ∉ second.keys) →
          ∃ cause, compile query = .error cause) := by
  have areRows : query.rows = rows := by
    simp [Query.rows, isBatch, Mutation.rows]
  subst areRows
  refine ⟨fun dialect rendered compiled =>
    ⟨fun isInsert => ?_, fun isUpdate => ?_⟩, ?_⟩
  · exact toSql_insert_in_place storages maps isInsert compiled
  · exact toSql_batchUpdate_in_place storages maps isUpdate isBatch compiled
  · rintro writes
      ⟨first, firstMember, second, secondMember, name, inFirst, notInSecond⟩
    cases compiled : compile query with
    | error cause =>
        exact ⟨cause, rfl⟩
    | ok statement =>
        have batch :
            query.kind = .insert ∨
              query.kind = .update ∧
                ∃ rows, query.values = some (.batch rows) :=
          writes.imp_right fun isUpdate => ⟨isUpdate, _, isBatch⟩
        obtain ⟨names, sameNames⟩ := keys_perm_of_compiled maps compiled batch
        have inSecond :=
          ((sameNames first firstMember).trans
            (sameNames second secondMember).symm).mem_iff.mp inFirst
        exact absurd inSecond notInSecond

/--
Rows of one shape whose keys stand in different orders, in columns
with like placeholders.
-/
def shuffledRows : List Document :=
  [[("low", .ofInt 1), ("id", .ofInt 7), ("high", .ofInt 2)],
    [("high", .ofInt 4), ("low", .ofInt 3), ("id", .ofInt 8)]]

/-- A batch update of bounds. -/
def boundsUpdate
    (rows : List Document) :
    Query :=
  {
    filter := [("low", .conditions [⟨"gt", .ofInt 0⟩])]
    kind := .update
    schema := {
      name := "bounds"
      storageName := none
      fields :=
        [⟨"id", none, true, none, none⟩,
          ⟨"low", some "at:x", false, none, none⟩,
          ⟨"high", some "at x", false, none, none⟩]
    }
    values := some (.batch rows)
  }

theorem batches_written_in_place_of_shuffledRows :
    (∃ rendered,
        (boundsUpdate shuffledRows).toSql .postgres = .ok rendered ∧
          rendered.UpdatesInPlace .postgres (boundsUpdate shuffledRows).schema
            shuffledRows) ∧
      ∃ cause,
        compile (boundsUpdate ([("id", .ofInt 9)] :: shuffledRows)) =
          .error cause := by
  have storages :
      ((boundsUpdate []).schema.fields.map Field.storage).Nodup := by
    decide
  have maps :
      ∀ row ∈ [("id", .ofInt 9)] :: shuffledRows, Entries.Distinct row := by
    simp [shuffledRows, Entries.Distinct, Entries.keys]
  refine ⟨⟨_, rfl, ?_⟩, ?_⟩
  · have inPlace :=
      (batches_written_in_place (boundsUpdate shuffledRows) shuffledRows rfl
        storages
        fun row member => maps row (List.mem_cons_of_mem _ member)).1 .postgres
        _ rfl
    exact inPlace.2 rfl
  · refine
      (batches_written_in_place
        (boundsUpdate ([("id", .ofInt 9)] :: shuffledRows)) _ rfl storages
        maps).2 (.inr rfl)
        ⟨[("low", .ofInt 1), ("id", .ofInt 7), ("high", .ofInt 2)], ?_,
          [("id", .ofInt 9)], List.mem_cons_self, "low", ?_, ?_⟩
    · simp [shuffledRows]
    · simp [Entries.keys]
    · simp [Entries.keys]

end Sql

end PolyQuery
