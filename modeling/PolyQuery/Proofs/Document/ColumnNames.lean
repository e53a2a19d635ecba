import PolyQuery.Proofs.Document.InsertedRows
import PolyQuery.Proofs.Document.RenamedOperations
import PolyQuery.Proofs.Document.ResolvedRows
import PolyQuery.Proofs.Query.Calls

namespace PolyQuery

open Failing Stateful

/-!
# Column names

A caller who asks by the names of fields cannot tell under which names they are
stored. Every query is frozen alike with columns and without, compiled to
operations that differ by keys only, and answered alike by stores that differ so
too. By induction, so is a whole sequence of queries, failed ones among them.
-/

/--
A query that names fields of an entity only, without the entity's
columns and with them.
-/
structure Query.Renamed
    (schema : Schema)
    (kind : StatementKind)
    (left right : Query) :
    Prop where
  same : left = right.withoutColumns
  ofSchema : right.schema = schema
  isKind : right.kind = kind
  names : right.NamesFields

namespace Builder

theorem stableOrder_withoutColumns
    (builder : Builder)
    (schema : Schema)
    (orderByIdentifier : Bool) :
    (builder.model schema.withoutColumns).stableOrder orderByIdentifier =
      (builder.model schema).stableOrder orderByIdentifier := by
  have sameKey :
      (builder.model schema.withoutColumns).schema.bind Schema.primaryKey? =
        ((builder.model schema).schema.bind Schema.primaryKey?).map fun field =>
          { field with column := none } :=
    Schema.primaryKey?_withoutColumns schema
  unfold stableOrder
  rw [sameKey]
  cases (builder.model schema).schema.bind Schema.primaryKey? <;> rfl

/-- The query of a write with its values completed. -/
def completed
    (builder : Builder)
    (kind : StatementKind)
    (purpose : WritePurpose)
    (schema : Schema) :
    Stateful Supply Query := do
  let resolved ←
    (builder.givenValues.resolve Supply.evaluate schema purpose :
      StateM Supply Mutation)
  return builder.freeze kind schema (some resolved)

section Alike

variable
  {schema : Schema}
  {builder : Builder}
  (names : builder.toClauses.NameFields schema)

include names

/--
The queries that one builder is frozen into without columns and with them.
-/
theorem freeze_renamed
    {kind : StatementKind}
    {values : Option Mutation}
    (inserted :
      kind = .insert → ∀ row ∈ (builder.freeze kind schema values).rows,
        schema.Knows row)
    (updated :
      kind = .update → ∀ row ∈ (builder.freeze kind schema values).rows,
        ∀ entry ∈ row,
        schema.Changes entry) :
    Query.Renamed schema kind (builder.freeze kind schema.withoutColumns values)
      (builder.freeze kind schema values) where
  same := rfl
  ofSchema := rfl
  isKind := rfl
  names := {
    clauses := names
    inserted := inserted
    updated := updated
  }

theorem select_alike :
    Alike SameKind (Query.Renamed schema .select)
      (builder.model schema.withoutColumns).select
      (builder.model schema).select :=
  .ok (freeze_renamed names nofun nofun)

theorem delete_alike :
    Alike SameKind (Query.Renamed schema .delete)
      (builder.model schema.withoutColumns).delete
      (builder.model schema).delete := by
  have required :
      Alike SameKind
        (fun found other => found = schema.withoutColumns ∧ other = schema)
        (builder.model schema.withoutColumns).requireSchema
        (builder.model schema).requireSchema :=
    .ok ⟨rfl, rfl⟩
  refine required.bind ?_
  rintro _ _ ⟨rfl, rfl⟩
  refine Alike.after sameKind_refl fun _ _ => ?_
  exact .ok (freeze_renamed names nofun nofun)

/-- Writes are completed alike without columns and with them. -/
theorem completed_runsAlike
    (kind : StatementKind)
    (purpose : WritePurpose)
    (inserted :
      kind = .insert → ∀ row ∈ builder.givenValues.rows, schema.Knows row)
    (updated :
      kind = .update → ∀ row ∈ builder.givenValues.rows, ∀ entry ∈ row,
        schema.Changes entry) :
    RunsAlike Eq SameKind (Query.Renamed schema kind)
      (builder.completed kind purpose schema.withoutColumns)
      (builder.completed kind purpose schema) := by
  rintro supply _ rfl
  unfold completed
  rw [Mutation.resolve_withoutColumns]
  refine ⟨.ok
    (freeze_renamed names (fun isInsert row member => ?_) fun isUpdate => ?_),
    rfl⟩
  · have entriesKnown :
        ∀ row ∈ builder.givenValues.rows, ∀ entry ∈ row,
          schema.HasField entry.1 :=
      fun row member => Schema.knows_iff.mp (inserted isInsert row member)
    have ofField :
        ∀ name (_ : Json), schema.HasField name → schema.HasField name :=
      fun _ _ hasField => hasField
    exact Schema.knows_iff.mpr
      (Mutation.forall_resolve ofField entriesKnown supply row member)
  · have ofField :
        ∀ name value, schema.HasField name → schema.Changes (name, value) :=
      fun _ value hasField => .field hasField value
    exact Mutation.forall_resolve ofField (updated isUpdate) supply

theorem insert_runsAlike
    (known : ∀ row ∈ builder.givenValues.rows, schema.Knows row) :
    RunsAlike Eq SameKind (Query.Renamed schema .insert)
      (builder.model schema.withoutColumns).insert
      (builder.model schema).insert :=
  completed_runsAlike names .insert .insert (fun _ => known) nofun

theorem update_runsAlike
    (changes :
      ∀ row ∈ builder.givenValues.rows, ∀ entry ∈ row, schema.Changes entry) :
    RunsAlike Eq SameKind (Query.Renamed schema .update)
      (builder.model schema.withoutColumns).update
      (builder.model schema).update := by
  have completes :=
    completed_runsAlike names .update .update nofun fun _ => changes
  have guarded :
      Alike SameKind Eq (builder.guardFullTable "update" schema.withoutColumns)
        (builder.guardFullTable "update" schema) :=
    .refl sameKind_refl fun _ _ => rfl
  have updated :
      ∀ entity,
        (builder.model entity).update =
          if !builder.givenValues.isBatch then do
            Stateful.ofExcept (builder.guardFullTable "update" entity)
            builder.completed .update .update entity
          else
            builder.completed .update .update entity :=
    fun _ => rfl
  rw [updated, updated]
  by_cases isSingle : (!builder.givenValues.isBatch) = true
  · rw [if_pos isSingle, if_pos isSingle]
    exact (runsAlike_ofExcept guarded).bind fun _ _ _ => completes
  · rw [if_neg isSingle, if_neg isSingle]
    exact completes

/-- The order that a page is given names fields, be it the identifier. -/
theorem stableOrder_hasTarget
    (orderByIdentifier : Bool) :
    ∀ term ∈ (builder.model schema).stableOrder orderByIdentifier,
      schema.HasTarget term.target := by
  have ordered : ∀ term ∈ builder.order, schema.HasTarget term.target :=
    names.order
  unfold stableOrder
  split
  · split
    next key isKey =>
      intro term member
      rcases List.mem_append.mp member with isOwn | isKeyTerm
      · exact ordered term isOwn
      · rcases List.mem_singleton.mp isKeyTerm with rfl
        exact ⟨key, List.mem_of_find?_eq_some isKey, rfl⟩
    next =>
      exact ordered
  · exact ordered

/--
A page is ordered by the name of the identifier, whatever it is stored under.
-/
theorem paginate_alike
    (request : PageRequest)
    (orderByIdentifier : Bool) :
    Alike SameKind (Query.Renamed schema .select)
      ((builder.model schema.withoutColumns).paginate request orderByIdentifier)
      ((builder.model schema).paginate request orderByIdentifier) := by
  obtain ⟨page, isPage, samePage⟩ :
      ∃ page : Builder,
        (builder.model schema).windowed request orderByIdentifier =
            page.model schema ∧
          page = { builder with
            limit := request.limit
            offset := request.offset
            order := (builder.model schema).stableOrder orderByIdentifier } :=
    ⟨_, windowed_eq _ _ _, rfl⟩
  have isPageToo :
      (builder.model schema.withoutColumns).windowed request orderByIdentifier =
        page.model schema.withoutColumns := by
    rw [windowed_eq, stableOrder_withoutColumns, samePage]
    rfl
  subst samePage
  unfold paginate
  rw [isPage, isPageToo]
  exact select_alike {
    filter := names.filter
    alternatives := names.alternatives
    projection := names.projection
    order := stableOrder_hasTarget names orderByIdentifier
  }

end Alike

end Builder

namespace Store

section Queries

variable
  {schema : Schema}
  (named : schema.PlainlyNamed)
  {left right : Query}

include named

theorem fetch_runsAlike
    (renamed : Query.Renamed schema .select left right) :
    RunsAlike (StoresAlike schema.SameField) SameKind Eq (fetch left)
      (fetch right) := by
  obtain ⟨rfl, rfl, isSelect, names⟩ := renamed
  have compiled := DocumentCompiler.compile_alike named names ObjectId.codec
  have bothSelect :
      ¬right.withoutColumns.kind ≠ .select ∧ ¬right.kind ≠ .select :=
    ⟨not_not.mpr isSelect, not_not.mpr isSelect⟩
  unfold fetch
  rw [if_neg bothSelect.1, if_neg bothSelect.2]
  refine (runsAlike_ofExcept compiled).bind
    fun operation operationToo operationRenamed => ?_
  refine (run_runsAlike named.faithful operationRenamed).bind
    fun answered answeredToo both => ?_
  have sameRows :
      List.Forall₂ Eq
        (answered.1.map
          (DocumentCompiler.fromStore ObjectId.codec
            right.schema.withoutColumns))
        (answeredToo.1.map
          (DocumentCompiler.fromStore ObjectId.codec right.schema)) := by
    refine List.rel_map (fun document documentToo documentRenamed => ?_) both.1
    exact DocumentCompiler.fromStore_eq named ObjectId.codec documentRenamed
  rw [List.forall₂_eq_eq_eq] at sameRows
  exact runsAlike_pure sameRows

theorem fetchOne_runsAlike
    (renamed : Query.Renamed schema .select left right) :
    RunsAlike (StoresAlike schema.SameField) SameKind Eq (fetchOne left)
      (fetchOne right) := by
  refine (fetch_runsAlike named renamed).bind fun rows rowsToo same => ?_
  exact runsAlike_pure (congrArg List.head? same)

theorem count_runsAlike
    (renamed : Query.Renamed schema .select left right) :
    RunsAlike (StoresAlike schema.SameField) SameKind Eq (count left)
      (count right) := by
  obtain ⟨rfl, rfl, -, names⟩ := renamed
  have compiled :=
    DocumentCompiler.compileCount_alike named names ObjectId.codec
  refine (runsAlike_ofExcept compiled).bind
    fun operation operationToo operationRenamed => ?_
  refine (run_runsAlike named.faithful operationRenamed).bind
    fun answered answeredToo both => ?_
  exact runsAlike_pure (congrArg Outcome.affected both.2)

theorem execute_runsAlike
    {kind : StatementKind}
    (renamed : Query.Renamed schema kind left right)
    (isWrite : kind ≠ .select) :
    RunsAlike (StoresAlike schema.SameField) SameKind Eq (execute left)
      (execute right) := by
  obtain ⟨rfl, rfl, rfl, names⟩ := renamed
  have compiled := DocumentCompiler.compile_alike named names ObjectId.codec
  have isWriteToo : right.withoutColumns.kind ≠ .select := isWrite
  unfold execute
  rw [if_neg isWrite, if_neg isWriteToo]
  refine (runsAlike_ofExcept compiled).bind
    fun operation operationToo operationRenamed => ?_
  refine (run_runsAlike named.faithful operationRenamed).bind
    fun answered answeredToo both => ?_
  exact runsAlike_pure both.2

end Queries

/-- Run an action on the supply of a store. -/
def drawing
    {α : Type}
    (action : Stateful Supply α) :
    Stateful StoreState α := do
  let (store, supply) ← get
  let (result, supply) := action.runFrom supply
  set (store, supply)
  Stateful.ofExcept result

theorem drawing_runsAlike
    {names : String → String → Prop}
    {α β : Type}
    {values : α → β → Prop}
    {action : Stateful Supply α}
    {actionToo : Stateful Supply β}
    (actionsAlike : RunsAlike Eq SameKind values action actionToo) :
    RunsAlike (StoresAlike names) SameKind values (drawing action)
      (drawing actionToo) := by
  refine runsAlike_of_beside fun store storeToo supply storeRenamed => ?_
  obtain ⟨resultAlike, sameLeft⟩ := actionsAlike supply supply rfl
  exact ⟨resultAlike, storeRenamed, sameLeft⟩

/-- What a caller asks of a store by a builder, whatever entity it is for. -/
inductive Inquiry where
  | fetch (builder : Builder)
  | fetchOne (builder : Builder)
  | fetchPage (builder : Builder) (request : PageRequest)
    (orderByIdentifier : Bool)
  | count (builder : Builder)
  | insert (builder : Builder)
  | update (builder : Builder)
  | delete (builder : Builder)

/-- What a caller is told. -/
inductive Reply where
  | rows (found : List Document)
  | row (first : Option Document)
  | number (counted : Nat)
  | completed (outcome : Outcome)

namespace Inquiry

/-- Ask a store about an entity. -/
def ask
    (schema : Schema) :
    Inquiry →
    Stateful StoreState Reply
  | .fetch builder => do
      let query ← Stateful.ofExcept (builder.model schema).select
      return .rows (← Store.fetch query)
  | .fetchOne builder => do
      let query ← Stateful.ofExcept (builder.model schema).select
      return .row (← Store.fetchOne query)
  | .fetchPage builder request orderByIdentifier => do
      let query ←
        Stateful.ofExcept
          ((builder.model schema).paginate request orderByIdentifier)
      return .rows (← Store.fetch query)
  | .count builder => do
      let query ← Stateful.ofExcept (builder.model schema).select
      return .number (← Store.count query)
  | .insert builder => do
      let query ← drawing (builder.model schema).insert
      return .completed (← execute query)
  | .update builder => do
      let query ← drawing (builder.model schema).update
      return .completed (← execute query)
  | .delete builder => do
      let query ← Stateful.ofExcept (builder.model schema).delete
      return .completed (← execute query)

/--
Every name in what a caller asks is that of a field, but for the
operators of an update.
-/
def NamesFields
    (schema : Schema) :
    Inquiry →
    Prop
  | .insert builder =>
      builder.toClauses.NameFields schema ∧
        ∀ row ∈ builder.givenValues.rows, schema.Knows row
  | .update builder =>
      builder.toClauses.NameFields schema ∧
        ∀ row ∈ builder.givenValues.rows, ∀ entry ∈ row, schema.Changes entry
  | .fetch builder
  | .fetchOne builder
  | .fetchPage builder _ _
  | .count builder
  | .delete builder => builder.toClauses.NameFields schema

/--
Stores that differ by keys only are asked alike, without columns and with them.
-/
theorem ask_runsAlike
    {schema : Schema}
    (named : schema.PlainlyNamed)
    {inquiry : Inquiry}
    (names : inquiry.NamesFields schema) :
    RunsAlike (StoresAlike schema.SameField) SameKind Eq
      (inquiry.ask schema.withoutColumns) (inquiry.ask schema) := by
  cases inquiry with
  | fetch builder =>
      refine (runsAlike_ofExcept (Builder.select_alike names)).bind
        fun _ _ renamed => ?_
      refine (fetch_runsAlike named renamed).bind fun rows rowsToo same => ?_
      exact runsAlike_pure (congrArg Reply.rows same)
  | fetchOne builder =>
      refine (runsAlike_ofExcept (Builder.select_alike names)).bind
        fun _ _ renamed => ?_
      refine (fetchOne_runsAlike named renamed).bind fun row rowToo same => ?_
      exact runsAlike_pure (congrArg Reply.row same)
  | fetchPage builder request orderByIdentifier =>
      have paginated := Builder.paginate_alike names request orderByIdentifier
      refine (runsAlike_ofExcept paginated).bind fun _ _ renamed => ?_
      refine (fetch_runsAlike named renamed).bind fun rows rowsToo same => ?_
      exact runsAlike_pure (congrArg Reply.rows same)
  | count builder =>
      refine (runsAlike_ofExcept (Builder.select_alike names)).bind
        fun _ _ renamed => ?_
      refine (count_runsAlike named renamed).bind
        fun counted countedToo same => ?_
      exact runsAlike_pure (congrArg Reply.number same)
  | insert builder =>
      have inserted := Builder.insert_runsAlike names.1 names.2
      refine (drawing_runsAlike inserted).bind fun _ _ renamed => ?_
      refine (execute_runsAlike named renamed nofun).bind
        fun outcome outcomeToo same => ?_
      exact runsAlike_pure (congrArg Reply.completed same)
  | update builder =>
      have updated := Builder.update_runsAlike names.1 names.2
      refine (drawing_runsAlike updated).bind fun _ _ renamed => ?_
      refine (execute_runsAlike named renamed nofun).bind
        fun outcome outcomeToo same => ?_
      exact runsAlike_pure (congrArg Reply.completed same)
  | delete builder =>
      refine (runsAlike_ofExcept (Builder.delete_alike names)).bind
        fun _ _ renamed => ?_
      refine (execute_runsAlike named renamed nofun).bind
        fun outcome outcomeToo same => ?_
      exact runsAlike_pure (congrArg Reply.completed same)

end Inquiry

/--
What a caller is told in turn; one that fails is followed by
the next all the same.
-/
def replies
    (schema : Schema) :
    List Inquiry →
    StoreState →
    List (Except QueryError Reply)
  | [], _ => []
  | inquiry :: rest, state =>
      let (reply, changed) := (inquiry.ask schema).runFrom state
      reply :: replies schema rest changed

/-- Stores that differ by keys only reply alike to all that is asked in turn. -/
theorem replies_alike
    {schema : Schema}
    (named : schema.PlainlyNamed)
    {inquiries : List Inquiry}
    (names : ∀ inquiry ∈ inquiries, inquiry.NamesFields schema)
    {state stateToo : StoreState}
    (storesAlike : StoresAlike schema.SameField state stateToo) :
    List.Forall₂ (Alike SameKind Eq)
      (replies schema.withoutColumns inquiries state)
      (replies schema inquiries stateToo) := by
  induction inquiries generalizing state stateToo with
  | nil =>
      exact .nil
  | cons inquiry rest inductionHypothesis =>
      obtain ⟨headNames, restNames⟩ := List.forall_mem_cons.mp names
      obtain ⟨replyAlike, leftAlike⟩ :=
        Inquiry.ask_runsAlike named headNames state stateToo storesAlike
      exact .cons replyAlike (inductionHypothesis restNames leftAlike)

/--
Column names are invisible: asked in turn by the names of fields, from the empty
store, an entity with columns and the same one without are answered alike.
-/
theorem columns_unseen
    {schema : Schema}
    (named : schema.PlainlyNamed)
    {inquiries : List Inquiry}
    (names : ∀ inquiry ∈ inquiries, inquiry.NamesFields schema)
    (supply : Supply) :
    List.Forall₂ (Alike SameKind Eq)
      (replies schema.withoutColumns inquiries ([], supply))
      (replies schema inquiries ([], supply)) :=
  replies_alike named names ⟨.nil, rfl⟩

/--
Rows are inserted, one of them is changed, and both are read by
fields stored crosswise.
-/
def swappedInquiries : List Inquiry :=
  let builder : Builder := {}
  [
    .insert (builder.write (.batch [
      [("a", .ofInt 1), ("b", .ofInt 2)],
      [("b", .ofInt 5), ("a", .ofInt 4)]])),
    .update ((builder.constrainEqual "a" (.ofInt 1)).write (.single [
      ("b", .ofInt 3),
      ("$inc", .object [("a", .ofInt 1)])])),
    .fetch
      (((builder.constrainBy "b" "gte" (.ofInt 3)).orderBy (.field "a")
        .descending).project ["b"]),
    .count (builder.alternative "a" "eq" (.array [.ofInt 2, .ofInt 4])),
    .delete (builder.constrainEqual "b" (.ofInt 3))
  ]

theorem columns_unseen_of_swapped :
    swappedSchema.PlainlyNamed ∧
      (∀ inquiry ∈ swappedInquiries, inquiry.NamesFields swappedSchema) ∧
      (replies swappedSchema swappedInquiries ([], firstSupply)).all
        Except.isOk = true ∧
      List.Forall₂ (Alike SameKind Eq)
        (replies swappedSchema.withoutColumns swappedInquiries
          ([], firstSupply))
        (replies swappedSchema swappedInquiries ([], firstSupply)) := by
  have named : swappedSchema.PlainlyNamed := {
    names := by decide
    storages := by decide
    plain := by decide
    unmarked := by decide
    ordinary := by decide
  }
  have incremented :
      swappedSchema.Changes ("$inc", .object [("a", .ofInt 1)]) := by
    refine .operator (by decide) (by decide) ?_
    rintro _ ⟨rfl⟩
    decide
  have names :
      ∀ inquiry ∈ swappedInquiries, inquiry.NamesFields swappedSchema := by
    unfold swappedInquiries
    simp only [List.forall_mem_cons]
    refine ⟨⟨by decide, by decide⟩, ⟨by decide, ?_⟩, ?_, ?_, ?_, ?_⟩
    · refine List.forall_mem_singleton.mpr (List.forall_mem_cons.mpr ⟨?_, ?_⟩)
      · exact .field (by decide) _
      · exact List.forall_mem_singleton.mpr incremented
    · change Clauses.NameFields _ _
      decide
    · change Clauses.NameFields _ _
      decide
    · change Clauses.NameFields _ _
      decide
    · simp
  exact ⟨named, names, by decide +kernel,
    columns_unseen named names firstSupply⟩

end Store

end PolyQuery
