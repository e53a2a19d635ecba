import PolyQuery.Proofs.Document.BuiltStores
import PolyQuery.Proofs.Document.RenamedQueries

namespace PolyQuery

/-!
# Resolved rows

Which fields a write leaves out and what fills them does not depend on columns.
The entries of resolved rows are those that were written and others that name
fields, so that what holds of both holds of every resolved entry.
-/

theorem Schema.knows_iff
    {schema : Schema}
    {row : Document} :
    schema.Knows row ↔ ∀ entry ∈ row, schema.HasField entry.1 :=
  List.forall_mem_map

namespace Mutation

section WithoutColumns

variable
  {m : Type → Type}
  [Monad m]
  (evaluate : Provider → m Json)
  (purpose : WritePurpose)

theorem resolveFields_withoutColumns
    (row : Document)
    (fields : List Field)
    (resolved : Document) :
    resolveFields evaluate purpose row
        (fields.map fun field => { field with column := none }) resolved =
      resolveFields evaluate purpose row fields resolved := by
  induction fields generalizing resolved with
  | nil =>
      rfl
  | cons field rest inductionHypothesis =>
      have sameProvider :
          Field.provider? { field with column := none } purpose =
            field.provider? purpose := by
        cases purpose <;> rfl
      rw [List.map_cons, resolveFields, resolveFields, sameProvider]
      simp only [inductionHypothesis]

theorem resolveRow_withoutColumns
    (schema : Schema) :
    resolveRow evaluate schema.withoutColumns purpose =
      resolveRow evaluate schema purpose := by
  funext row
  unfold resolveRow
  have sameUnknown :
      ∀ name,
        (schema.withoutColumns.field? name).isNone =
          (schema.field? name).isNone := by
    intro name
    rw [Schema.field?_withoutColumns, Option.isNone_map]
  simp only [sameUnknown]
  rw [Schema.withoutColumns, resolveFields_withoutColumns]

/--
Which values a write leaves out, and what fills them, does
not depend on columns.
-/
theorem resolve_withoutColumns
    (schema : Schema)
    (values : Mutation) :
    values.resolve evaluate schema.withoutColumns purpose =
      values.resolve evaluate schema purpose := by
  have sameRow := resolveRow_withoutColumns evaluate purpose schema
  have sameRows :
      ∀ rows,
        resolveRows evaluate schema.withoutColumns purpose rows =
          resolveRows evaluate schema purpose rows := by
    intro rows
    induction rows with
    | nil =>
        rfl
    | cons row rest inductionHypothesis =>
        rw [resolveRows, resolveRows, sameRow, inductionHypothesis]
  cases values with
  | single row =>
      rw [resolve, resolve, sameRow]
  | batch rows =>
      rw [resolve, resolve, sameRows]

end WithoutColumns

section Entries

variable
  {schema : Schema}
  {purpose : WritePurpose}
  {holds : String × Json → Prop}
  (ofField : ∀ name value, schema.HasField name → holds (name, value))

include ofField

theorem forall_resolveFields
    (row : Document)
    {fields : List Field}
    (included : fields ⊆ schema.fields)
    {resolved : Document}
    (resolvedHold : ∀ entry ∈ resolved, holds entry)
    (supply : Supply) :
    ∀ entry ∈ ((resolveFields Supply.evaluate purpose row fields resolved).run
        supply).1,
      holds entry := by
  induction fields generalizing resolved supply with
  | nil =>
      exact resolvedHold
  | cons field rest inductionHypothesis =>
      obtain ⟨member, restIncluded⟩ := List.cons_subset.mp included
      have insertedHold :
          ∀ value, ∀ entry ∈ Entries.insert resolved field.name value,
            holds entry := by
        intro value entry entryMember
        rcases Entries.mem_insert entryMember with rfl | wasThere
        · exact ofField field.name value ⟨field, member, rfl⟩
        · exact resolvedHold entry wasThere
      rw [resolveFields]
      split
      next value _ =>
        exact inductionHypothesis restIncluded (insertedHold value) supply
      next =>
        split
        next =>
          exact inductionHypothesis restIncluded resolvedHold supply
        next provider _ =>
          rw [StateT.run_bind]
          exact inductionHypothesis restIncluded (insertedHold _) _

theorem forall_resolveRow
    {row : Document}
    (rowHolds : ∀ entry ∈ row, holds entry)
    (supply : Supply) :
    ∀ entry ∈ ((resolveRow Supply.evaluate schema purpose row).run supply).1,
      holds entry := by
  intro entry member
  rcases Entries.mem_insertAll member with isKnown | isUnknown
  · have noneHold : ∀ entry ∈ ([] : Document), holds entry := by
      simp
    exact
      forall_resolveFields ofField row (List.Subset.refl schema.fields) noneHold
        supply entry isKnown
  · exact rowHolds entry (List.mem_of_mem_filter isUnknown)

/--
What holds of all written entries, and of all that name fields, holds
of the resolved ones.
-/
theorem forall_resolve
    {values : Mutation}
    (valuesHold : ∀ row ∈ values.rows, ∀ entry ∈ row, holds entry)
    (supply : Supply) :
    ∀ row ∈ ((values.resolve Supply.evaluate schema purpose).run supply).1.rows,
      ∀ entry ∈ row, holds entry := by
  have rowsHold :
      ∀ rows supply, (∀ row ∈ rows, ∀ entry ∈ row, holds entry) →
        ∀ row ∈ ((resolveRows Supply.evaluate schema purpose rows).run
            supply).1,
          ∀ entry ∈ row, holds entry := by
    intro rows
    induction rows with
    | nil =>
        intro supply _ row member
        cases member
    | cons row rest inductionHypothesis =>
        intro supply allHold
        obtain ⟨headHolds, restHold⟩ := List.forall_mem_cons.mp allHold
        exact List.forall_mem_cons.mpr
          ⟨forall_resolveRow ofField headHolds supply,
            inductionHypothesis _ restHold⟩
  cases values with
  | single row =>
      have rowHolds := valuesHold row List.mem_cons_self
      exact List.forall_mem_singleton.mpr
        (forall_resolveRow ofField rowHolds supply)
  | batch rows =>
      exact rowsHold rows supply valuesHold

end Entries

end Mutation

end PolyQuery
