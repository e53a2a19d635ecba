import PolyQuery.Proofs.Document.Answers
import PolyQuery.Proofs.Document.StoredIdentifiers
import PolyQuery.Query.Builder

namespace PolyQuery

open Failing

/-!
# Built stores

Rows that a builder resolves name no field twice, and what is made of them can
be inserted. So in every store that inserts and deletes of builders lead to,
documents are found by their identifiers.
-/

namespace Mutation

section Resolution

variable {purpose : WritePurpose}

theorem distinct_resolveFields
    (row : Document)
    (fields : List Field)
    {resolved : Document}
    (distinct : resolved.Distinct)
    (supply : Supply) :
    Entries.Distinct
      ((resolveFields Supply.evaluate purpose row fields resolved).run
        supply).1 := by
  induction fields generalizing resolved supply with
  | nil =>
      exact distinct
  | cons field rest inductionHypothesis =>
      rw [resolveFields]
      split
      next value _ =>
        exact inductionHypothesis
          (Entries.distinct_insert distinct field.name value) supply
      next =>
        split
        next =>
          exact inductionHypothesis distinct supply
        next provider _ =>
          rw [StateT.run_bind]
          exact inductionHypothesis
            (Entries.distinct_insert distinct field.name _) _

theorem distinct_resolveRow
    (schema : Schema)
    (row : Document)
    (supply : Supply) :
    Entries.Distinct
      ((resolveRow Supply.evaluate schema purpose row).run supply).1 := by
  have noneDistinct : Entries.Distinct ([] : Document) := List.nodup_nil
  exact
    Entries.distinct_insertAll
    (distinct_resolveFields row schema.fields noneDistinct supply) _

theorem distinct_resolveRows
    (schema : Schema)
    (rows : List Document)
    (supply : Supply) :
    ∀ row ∈ ((resolveRows Supply.evaluate schema purpose rows).run supply).1,
      Entries.Distinct row := by
  induction rows generalizing supply with
  | nil =>
      intro row member
      cases member
  | cons row rest inductionHypothesis =>
      exact List.forall_mem_cons.mpr
        ⟨distinct_resolveRow schema row supply, inductionHypothesis _⟩

/-- A resolved row has no name twice. -/
theorem distinct_resolve
    (schema : Schema)
    (values : Mutation)
    (supply : Supply) :
    ∀ row ∈ ((resolve Supply.evaluate schema purpose values).run supply).1.rows,
      Entries.Distinct row := by
  cases values with
  | single row =>
      exact List.forall_mem_singleton.mpr
        (distinct_resolveRow schema row supply)
  | batch rows =>
      exact distinct_resolveRows schema rows supply

end Resolution

end Mutation

namespace Builder

/-- An insert is a write whose rows have no name twice. -/
theorem insert_eq_ok
    {builder : Builder}
    {before drawn : Supply}
    {query : Query}
    (completed : builder.insert.runFrom before = (.ok query, drawn)) :
    query.kind = .insert ∧ ∀ row ∈ query.rows, row.Distinct := by
  rw [insert, Stateful.runFrom_bind, Stateful.runFrom_ofExcept] at completed
  cases required : builder.requireSchema with
  | error cause =>
      rw [required] at completed
      cases completed
  | ok schema =>
      rw [required] at completed
      have isFrozen :
          builder.freeze .insert schema
              (some
                ((builder.givenValues.resolve Supply.evaluate schema
                  .insert).run before).1) =
            query :=
        Except.ok.inj (congrArg Prod.fst completed)
      rw [← isFrozen]
      exact ⟨rfl, Mutation.distinct_resolve schema builder.givenValues before⟩

theorem delete_eq_ok
    {builder : Builder}
    {query : Query}
    (completed : builder.delete = .ok query) :
    query.kind = .delete := by
  obtain ⟨schema, -, continued⟩ := bind_eq_ok.mp completed
  obtain ⟨-, -, isFrozen⟩ := bind_eq_ok.mp continued
  rw [← Except.ok.inj isFrozen]
  rfl

end Builder

/-- What a row is stored as can be inserted. -/
theorem DocumentCompiler.isInsertable_of_toStore
    {schema : Schema}
    {row stored : Document}
    (succeeded : toStore ObjectId.codec schema row = .ok stored) :
    Collection.IsInsertable stored := by
  obtain ⟨pairs, rfl, related⟩ := toStore_eq_ok succeeded
  intro identifier given
  have notNull : identifier ≠ .null := by
    rintro rfl
    exact Collection.givenId?_ne_null _ given
  have found : Entries.get? (Entries.ofList pairs) idKey = some identifier := by
    unfold Collection.givenId? at given
    split at given
    · cases given
    · exact given
  have member := Entries.mem_of_mem_ofList (Entries.mem_of_get? found)
  clear found given succeeded
  induction related with
  | nil =>
      cases member
  | cons headStored _ inductionHypothesis =>
      rcases List.mem_cons.mp member with isHead | inRest
      · obtain ⟨isKey, valueStored⟩ := headStored
        rw [← isKey, ← isHead, storedValue, if_pos rfl] at valueStored
        exact (ObjectId.null_or_stored_of_encode valueStored).resolve_left
          notNull
      · exact inductionHypothesis inRest

namespace Store

theorem execute_runFrom
    {query : Query}
    (isWrite : query.kind ≠ .select)
    (state : StoreState) :
    (execute query).runFrom state =
      match DocumentCompiler.compile ObjectId.codec query with
      | .error cause => (.error cause, state)
      | .ok operation =>
          (((run operation).runFrom state).1.map Prod.snd,
            ((run operation).runFrom state).2) := by
  rw [execute, if_neg isWrite]
  cases DocumentCompiler.compile ObjectId.codec query with
  | error cause =>
      rfl
  | ok operation =>
      change (run operation >>= fun answered => pure answered.2).runFrom state =
        (((run operation).runFrom state).1.map Prod.snd,
          ((run operation).runFrom state).2)
      rw [Stateful.runFrom_bind]
      cases (run operation).runFrom state with
      | mk result changed =>
          cases result <;> rfl

/-- A query that a builder made to insert or to delete. -/
inductive IsBuilt
    (query : Query) :
    Prop
  | insert
      {builder : Builder}
      {before drawn : Supply}
      (completed : builder.insert.runFrom before = (.ok query, drawn))
  | delete
      {builder : Builder}
      (completed : builder.delete = .ok query)

/--
A store that builders' inserts and deletes lead to, each of
them successful or not.
-/
inductive Reached : Store → Prop
  | empty : Reached []
  | execute
      {store : Store}
      {query : Query}
      (reached : Reached store)
      (built : IsBuilt query)
      (supply : Supply) :
      Reached ((execute query).runFrom (store, supply)).2.1

theorem IsBuilt.isWrite
    {query : Query}
    (built : IsBuilt query) :
    query.kind ≠ .select := by
  cases built with
  | insert completed =>
      rw [(Builder.insert_eq_ok completed).1]
      exact StatementKind.noConfusion
  | delete completed =>
      rw [Builder.delete_eq_ok completed]
      exact StatementKind.noConfusion

/-- What builders make inserts documents that can be inserted, or deletes. -/
theorem IsBuilt.operation_of_compile
    {query : Query}
    (built : IsBuilt query)
    {operation : DocumentOperation}
    (compiled : DocumentCompiler.compile ObjectId.codec query = .ok operation) :
    (∃ name documents, operation = .insert name documents ∧
      ∀ document ∈ documents, Collection.IsInsertable document) ∨
      ∃ name filter many, operation = .delete name filter many := by
  cases built with
  | insert completed =>
      simp only [DocumentCompiler.compile, (Builder.insert_eq_ok completed).1]
        at compiled
      obtain ⟨documents, traversed, isOperation⟩ := bind_eq_ok.mp compiled
      refine .inl ⟨_, documents, (Except.ok.inj isOperation).symm, ?_⟩
      intro document member
      obtain ⟨row, -, stored⟩ := exists_item_of_mem_mapM traversed member
      exact DocumentCompiler.isInsertable_of_toStore stored
  | delete completed =>
      simp only [DocumentCompiler.compile, Builder.delete_eq_ok completed]
        at compiled
      obtain ⟨filter, -, isOperation⟩ := bind_eq_ok.mp compiled
      exact .inr ⟨_, filter, _, (Except.ok.inj isOperation).symm⟩

theorem execute_keeps_keyed
    {query : Query}
    (built : IsBuilt query) :
    Stateful.Keeps (execute query) fun state =>
      Every Collection.Keyed state.1 := by
  intro state every
  rw [execute_runFrom built.isWrite]
  cases compiled : DocumentCompiler.compile ObjectId.codec query with
  | error cause =>
      exact every
  | ok operation =>
      rcases built.operation_of_compile compiled with
        ⟨name, documents, rfl, insertable⟩ | ⟨name, filter, many, rfl⟩
      · have inserts :
            ∀ document ∈ (DocumentOperation.insert name documents).inserted,
              Collection.KeepsDocuments (Collection.insert document)
                Collection.Keyed :=
          fun document member =>
            Collection.insert_keeps_keyed (insertable document member)
        exact
          run_keeps Collection.keyed_nil inserts
            (by simp [DocumentOperation.updates])
            Collection.delete_keeps_keyed state every
      · exact
          run_keeps Collection.keyed_nil (by simp [DocumentOperation.inserted])
            (by simp [DocumentOperation.updates]) Collection.delete_keeps_keyed
            state every

theorem Reached.keyed
    {store : Store}
    (reached : Reached store) :
    Every Collection.Keyed store := by
  induction reached with
  | empty =>
      simp [Every]
  | execute _ built supply inductionHypothesis =>
      exact execute_keeps_keyed built (_, supply) inductionHypothesis

end Store

end PolyQuery
