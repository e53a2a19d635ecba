import Mathlib.Data.List.Perm.Subperm
import PolyQuery.Proofs.Document.RenamedQueries
import PolyQuery.Sql.Compile

namespace PolyQuery

open Failing

/-!
# Rows of one shape

All rows of an insert or of a batch update share one list of columns. It belongs
to the names of the first row, and a row is taken only if it has exactly these
names, so its values can be read in their order, however its own are ordered.
-/

namespace Schema

variable
  {schema : Schema}
  {name column : String}

/-- A name has a column if it is that of a field, which is stored there. -/
theorem column_eq_ok :
    schema.column name = .ok column ↔
      ∃ field, schema.field? name = some field ∧ field.storage = column := by
  rw [Schema.column, resolve]
  cases schema.field? name <;> simp [Except.map]

theorem mem_of_field?
    {field : Field}
    (found : schema.field? name = some field) :
    field ∈ schema.fields ∧ field.name = name :=
  ⟨List.mem_of_find?_eq_some found, by simpa using List.find?_some found⟩

/-- A field is stored so. -/
def HasStorage
    (schema : Schema)
    (column : String) :
    Prop :=
  ∃ field ∈ schema.fields, field.storage = column

theorem hasStorage_of_column
    (named : schema.column name = .ok column) :
    schema.HasStorage column := by
  obtain ⟨field, found, isStorage⟩ := column_eq_ok.mp named
  exact ⟨field, (mem_of_field? found).1, isStorage⟩

theorem hasField_of_column
    (named : schema.column name = .ok column) :
    schema.HasField name := by
  obtain ⟨field, found, -⟩ := column_eq_ok.mp named
  exact ⟨field, mem_of_field? found⟩

/-- A name is unknown if no field has it. -/
theorem not_hasField_of_field?
    (unknown : schema.field? name = none) :
    ¬schema.HasField name := by
  rintro ⟨field, member, isName⟩
  have differs := List.find?_eq_none.mp unknown field member
  simp [isName] at differs

/--
Where storage names differ, the field that a name has its column from is
the one stored there.
-/
theorem fieldForStorage?_of_column
    (storages : (schema.fields.map Field.storage).Nodup)
    (named : schema.column name = .ok column) :
    ∃ field,
      schema.fieldForStorage? column = some field ∧ field.name = name := by
  obtain ⟨field, found, rfl⟩ := column_eq_ok.mp named
  obtain ⟨member, isName⟩ := mem_of_field? found
  refine ⟨field, ?_, isName⟩
  rw [fieldForStorage?, ← List.head?_filter,
    filter_eq_singleton storages member]
  rfl

end Schema

namespace Sql

/-- The values of a row under some names, which are all of its names. -/
structure ReadInOrder
    (names : List String)
    (row : Document)
    (values : List Json) :
    Prop where
  sameLength : row.length = names.length
  found :
    List.Forall₂ (fun name value => row.get? name = some value) names values

theorem valuesInOrder_eq_ok
    {schema : Schema}
    {action : String}
    {names : List String}
    {row : Document}
    {values : List Json} :
    valuesInOrder schema action names row = .ok values ↔
      ReadInOrder names row values := by
  unfold valuesInOrder
  split
  next differs =>
    exact ⟨nofun, fun read => absurd read.sameLength differs⟩
  next same =>
    rw [mapM_eq_ok]
    constructor
    · intro computed
      refine ⟨not_not.mp same, computed.imp fun name value isValue => ?_⟩
      cases found : row.get? name <;> simp_all
    · intro read
      exact read.found.imp fun name value isValue => by rw [isValue]

/-- A row that is read has the names that it is read by, in some order. -/
theorem ReadInOrder.keys_perm
    {names : List String}
    {row : Document}
    {values : List Json}
    (read : ReadInOrder names row values)
    (distinctNames : names.Nodup) :
    row.keys.Perm names := by
  have within : names ⊆ row.keys := by
    intro name member
    obtain ⟨value, -, isValue⟩ := exists_right_of_mem read.found member
    exact Entries.contains_iff_mem_keys.mp (Option.isSome_of_eq_some isValue)
  have sameLength : row.keys.length = names.length := by
    rw [Entries.keys, List.length_map, read.sameLength]
  exact ((distinctNames.subperm within).perm_of_length_le sameLength.le).symm

/-- Names with a column each, under which rows are read. -/
structure LaidOut
    (schema : Schema)
    (names columns : List String)
    (rows : List Document)
    (values : List (List Json)) :
    Prop where
  named :
    List.Forall₂ (fun name column => schema.column name = .ok column) names
      columns
  read : List.Forall₂ (ReadInOrder names) rows values

theorem insertOf_eq_ok
    {schema : Schema}
    {query : Query}
    {inserted : Insert}
    (compiled : insertOf schema query = .ok inserted) :
    inserted.table = schema.storage ∧
      ∃ first ∈ query.rows,
        LaidOut schema first.keys inserted.columns query.rows
          inserted.rows := by
  unfold insertOf at compiled
  split at compiled
  next =>
    cases compiled
  next first rest isRows =>
    obtain ⟨columns, named, continued⟩ := bind_eq_ok.mp compiled
    obtain ⟨values, read, isInsert⟩ := bind_eq_ok.mp continued
    cases isInsert
    refine ⟨rfl, first, isRows ▸ List.mem_cons_self, mapM_eq_ok.mp named, ?_⟩
    rw [isRows]
    exact (mapM_eq_ok.mp read).imp fun _ _ => valuesInOrder_eq_ok.mp

/--
The names that a batch update assigns to: those of its first
row but the identifier.
-/
def assignedNames
    (key : Field)
    (first : Document) :
    List String :=
  first.keys.filter fun name => name ≠ key.name

theorem batchUpdateOf_eq_ok
    {schema : Schema}
    {filter : Option Expr}
    {first : Document}
    {rows : List Document}
    {updated : Update}
    (compiled : batchUpdateOf schema filter first rows = .ok updated) :
    ∃ key identifiers,
      schema.primaryKey? = some key ∧
        updated.table = schema.storage ∧
        updated.filter = filter ∧
        updated.columns ≠ [] ∧
        updated.rowKey =
          some
            { table := schema.storage, column := key.storage,
              values := identifiers } ∧
        List.Forall₂
          (fun row identifier => Entries.get? row key.name = some identifier)
          rows identifiers ∧
        LaidOut schema (assignedNames key first) updated.columns
          (rows.map fun row => row.erase key.name) updated.rows := by
  unfold batchUpdateOf at compiled
  split at compiled
  next =>
    cases compiled
  next key isKey =>
    dsimp only at compiled
    split at compiled
    next =>
      cases compiled
    next someNames =>
      obtain ⟨columns, named, continued⟩ := bind_eq_ok.mp compiled
      obtain ⟨keyed, read, isUpdate⟩ := bind_eq_ok.mp continued
      cases isUpdate
      have readEach := mapM_eq_ok.mp read
      have opened :
          ∀ row values,
            keyedValues schema key (assignedNames key first) row = .ok values →
            row.get? key.name = some values.1 ∧
              ReadInOrder (assignedNames key first) (row.erase key.name)
                values.2 := by
        intro row values isKeyed
        unfold keyedValues at isKeyed
        split at isKeyed
        next =>
          cases isKeyed
        next identifier found =>
          obtain ⟨items, inOrder, same⟩ := bind_eq_ok.mp isKeyed
          cases same
          exact ⟨found, valuesInOrder_eq_ok.mp inOrder⟩
      refine ⟨key, keyed.map Prod.fst, isKey, rfl, rfl, ?_, rfl, ?_,
        mapM_eq_ok.mp named, ?_⟩
      · intro noColumns
        exact someNames
          (List.isEmpty_iff.mpr ((mapM_eq_nil_iff named).mp noColumns))
      · exact List.forall₂_map_right_iff.mpr
          (readEach.imp fun row values isKeyed => (opened row values isKeyed).1)
      · exact List.forall₂_map_left_iff.mpr (List.forall₂_map_right_iff.mpr
          (readEach.imp fun row values isKeyed =>
            (opened row values isKeyed).2))

theorem updateOf_eq_ok
    {schema : Schema}
    {query : Query}
    {updated : Update}
    (compiled : updateOf schema query = .ok updated) :
    ∃ filter,
      whereClause? schema query = .ok filter ∧
        ((∃ first ∈ query.rows,
          batchUpdateOf schema filter first query.rows = .ok updated) ∨
          ∃ row columns,
            query.values = some (.single row) ∧
              row.keys.mapM schema.column = .ok columns ∧
                updated = {
                  table := schema.storage
                  columns := columns
                  rows := [row.values]
                  filter := filter
                  rowKey := none
                }) := by
  obtain ⟨filter, restricts, continued⟩ := bind_eq_ok.mp compiled
  refine ⟨filter, restricts, ?_⟩
  split at continued
  next =>
    cases continued
  next =>
    cases continued
  next first rest isBatch =>
    have isRows : query.rows = first :: rest := by
      simp [Query.rows, isBatch, Mutation.rows]
    exact .inl ⟨first, isRows ▸ List.mem_cons_self, isRows ▸ continued⟩
  next row isSingle =>
    obtain ⟨columns, named, built⟩ := bind_eq_ok.mp continued
    split at built
    next =>
      cases built
    next =>
      cases built
      exact .inr ⟨row, columns, isSingle, named, rfl⟩

/-- The update of a batch is compiled as that of its rows. -/
theorem updateOf_of_batch
    {schema : Schema}
    {query : Query}
    {rows : List Document}
    (isBatch : query.values = some (.batch rows))
    {updated : Update}
    (compiled : updateOf schema query = .ok updated) :
    ∃ filter, ∃ first ∈ query.rows,
      batchUpdateOf schema filter first query.rows = .ok updated := by
  obtain ⟨filter, -, ⟨first, member, batch⟩ | ⟨row, columns, isSingle, -⟩⟩ :=
    updateOf_eq_ok compiled
  · exact ⟨filter, first, member, batch⟩
  · rw [isBatch] at isSingle
    cases isSingle

section Writes

variable
  {query : Query}
  {statement : Statement}

theorem compile_insert_eq_ok
    (isInsert : query.kind = .insert) :
    compile query = .ok statement ↔
      ∃ inserted,
        insertOf query.schema query = .ok inserted ∧
          statement = .insert inserted := by
  rw [compile, isInsert, bind_eq_ok]
  exact exists_congr fun _ => and_congr_right fun _ =>
    ⟨fun same => (Except.ok.inj same).symm,
      fun same => congrArg Except.ok same.symm⟩

theorem compile_update_eq_ok
    (isUpdate : query.kind = .update) :
    compile query = .ok statement ↔
      ∃ updated,
        updateOf query.schema query = .ok updated ∧
          statement = .update updated := by
  rw [compile, isUpdate, bind_eq_ok]
  exact exists_congr fun _ => and_congr_right fun _ =>
    ⟨fun same => (Except.ok.inj same).symm,
      fun same => congrArg Except.ok same.symm⟩

end Writes

section LaidOut

variable
  {schema : Schema}
  {names columns : List String}
  {rows : List Document}
  {values : List (List Json)}
  (laid : LaidOut schema names columns rows values)

include laid

theorem LaidOut.keys_perm
    (distinctNames : names.Nodup)
    {row : Document}
    (member : row ∈ rows) :
    row.keys.Perm names := by
  obtain ⟨items, -, read⟩ := exists_right_of_mem laid.read member
  exact read.keys_perm distinctNames

theorem LaidOut.hasField
    {name : String}
    (member : name ∈ names) :
    schema.HasField name := by
  obtain ⟨column, -, named⟩ := exists_right_of_mem laid.named member
  exact Schema.hasField_of_column named

theorem LaidOut.hasStorage
    {column : String}
    (member : column ∈ columns) :
    schema.HasStorage column := by
  obtain ⟨name, -, named⟩ := exists_left_of_mem laid.named member
  exact Schema.hasStorage_of_column named

end LaidOut

/--
A row of a batch update has the names that are assigned to,
and the identifier's.
-/
theorem LaidOut.keys_perm_of_erased
    {schema : Schema}
    {key : Field}
    {first : Document}
    {columns : List String}
    {rows : List Document}
    {values : List (List Json)}
    (laid :
      LaidOut schema (assignedNames key first) columns
        (rows.map fun row => row.erase key.name) values)
    (firstDistinct : Entries.Distinct first)
    {row : Document}
    (member : row ∈ rows)
    {identifier : Json}
    (identified : row.get? key.name = some identifier) :
    row.keys.Perm (key.name :: assignedNames key first) := by
  have erasedKeys := (Entries.erase_perm identified).map Prod.fst
  have assigned :=
    laid.keys_perm (firstDistinct.filter _) (List.mem_map_of_mem member)
  exact erasedKeys.symm.trans (assigned.cons key.name)

end Sql

end PolyQuery
