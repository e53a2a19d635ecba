import PolyQuery.Proofs.Document.FilterMeaning
import PolyQuery.Proofs.Query.Calls
import PolyQuery.Proofs.Computation.Stateful
import PolyQuery.Proofs.Sql.SelectClauses

namespace PolyQuery

open Failing

/-!
# Mutations of the full table

A guarded builder refuses an update or a delete if no field is constrained. It
does not look at the conditions: a field that is constrained by an empty mapping
passes the guard but leaves nothing to restrict the mutation by. This is the one
way around the guard, and it is the same in both backends.
-/

/-- No constrained field has a condition, and no group offers an alternative. -/
def Query.AsksNothing
    (query : Query) :
    Prop :=
  (∀ entry ∈ query.filter, entry.2 = .conditions []) ∧
    ∀ entry ∈ query.alternatives, ¬∃ disjunct,
    Condition.Offered entry.2 disjunct

theorem FieldFilter.toConditions_eq_nil_iff
    {asked : FieldFilter} :
    asked.toConditions = [] ↔ asked = .conditions [] := by
  cases asked <;> simp [toConditions]

namespace Sql

section Restrictions

variable
  {schema : Schema}
  {field : String}

theorem fieldTerms_eq_nil_iff
    {asked : FieldFilter}
    {terms : List Expr}
    (compiled : fieldTerms schema field asked = .ok terms) :
    terms = [] ↔ asked = .conditions [] := by
  obtain ⟨column, -, traversed⟩ := bind_eq_ok.mp compiled
  rw [mapM_eq_nil_iff traversed, FieldFilter.toConditions_eq_nil_iff]

theorem groupTerm?_eq_none_iff
    {conditions : List Condition}
    {term : Option Expr}
    (compiled : groupTerm? schema field conditions = .ok term) :
    term = none ↔ ¬∃ disjunct, Condition.Offered conditions disjunct := by
  obtain ⟨column, -, computed⟩ := bind_eq_ok.mp compiled
  obtain ⟨alternatives, traversed, isTerm⟩ := bind_eq_ok.mp computed
  cases isTerm
  obtain ⟨fromTerm, toTerm⟩ := Condition.offered_iff_lowered traversed
  rw [Expr.anyOf?_eq_none_iff, List.eq_nil_iff_forall_not_mem]
  constructor
  · rintro noTerm ⟨disjunct, offered⟩
    obtain ⟨term, member, -⟩ := toTerm disjunct offered
    exact noTerm term member
  · intro noneOffered term member
    obtain ⟨disjunct, offered, -⟩ := fromTerm term member
    exact noneOffered ⟨disjunct, offered⟩

/-- A query has no restriction exactly if it asks nothing. -/
theorem whereClause?_eq_none_iff
    {query : Query}
    {restriction : Option Expr}
    (compiled : whereClause? schema query = .ok restriction) :
    restriction = none ↔ query.AsksNothing := by
  obtain ⟨terms, fieldsCompiled, rest⟩ := bind_eq_ok.mp compiled
  obtain ⟨groups, groupsCompiled, same⟩ := bind_eq_ok.mp rest
  cases same
  have noTerms_iff :
      terms.flatten = [] ↔
        ∀ entry ∈ query.filter, entry.2 = .conditions [] := by
    rw [List.flatten_eq_nil_iff]
    exact forall_mem_mapM_iff fieldsCompiled
      fun _ _ _ computed => fieldTerms_eq_nil_iff computed
  have noGroups_iff :
      groups.filterMap id = [] ↔
        ∀ entry ∈ query.alternatives, ¬∃ disjunct,
        Condition.Offered entry.2 disjunct := by
    rw [List.filterMap_eq_nil_iff]
    exact forall_mem_mapM_iff groupsCompiled
      fun _ _ _ computed => groupTerm?_eq_none_iff computed
  rw [Expr.allOf?_eq_none_iff, List.append_eq_nil_iff, noTerms_iff,
    noGroups_iff]
  rfl

end Restrictions

end Sql

namespace DocumentCompiler

/-- Nothing was put into a draft. -/
def Draft.IsBlank
    (draft : Draft) :
    Prop :=
  draft.document = [] ∧ draft.clauses = []

theorem insert_ne_nil
    (document : Document)
    (key : String)
    (value : Json) :
    document.insert key value ≠ [] := by
  cases document with
  | nil =>
      exact List.cons_ne_nil _ _
  | cons entry rest =>
      simp only [Entries.insert, Entries.alter]
      split <;> exact List.cons_ne_nil _ _

theorem Draft.not_isBlank_place
    (draft : Draft)
    (key : String)
    (condition : Json) :
    ¬(draft.place key condition).IsBlank := by
  unfold place IsBlank
  split
  · simp
  · simp [insert_ne_nil]

/-- Operator documents leave a draft blank only if there are none. -/
theorem Draft.isBlank_placeAll_iff
    (draft : Draft)
    (key : String)
    (packed : List Document) :
    (packed.foldl (fun draft operators => draft.place key (.object operators))
        draft).IsBlank ↔
      draft.IsBlank ∧ packed = [] := by
  induction packed generalizing draft with
  | nil =>
      simp
  | cons operators rest inductionHypothesis =>
      rw [List.foldl_cons, inductionHypothesis]
      simp [draft.not_isBlank_place]

theorem packInto_ne_nil
    (fragment : List (String × Json))
    (packed : List Document) :
    packInto fragment packed ≠ [] := by
  cases packed with
  | nil =>
      exact List.cons_ne_nil _ _
  | cons first rest =>
      unfold packInto
      split <;> exact List.cons_ne_nil _ _

section Drafts

variable
  {codec : IdentifierCodec}
  {schema : Schema}
  {field : String}
  {draft placed : Draft}

theorem packConditions_eq_nil_iff
    {key : String}
    {conditions : List Condition}
    {before packed : List Document}
    (succeeded :
      packConditions codec field key conditions before = .ok packed) :
    packed = [] ↔ before = [] ∧ conditions = [] := by
  induction conditions generalizing before with
  | nil =>
      cases succeeded
      simp
  | cons condition rest inductionHypothesis =>
      obtain ⟨operator, -, continued⟩ := bind_eq_ok.mp succeeded
      obtain ⟨fragment, -, restPacked⟩ := bind_eq_ok.mp continued
      rw [inductionHypothesis restPacked]
      simp [packInto_ne_nil]

theorem isBlank_placeField_iff
    {asked : FieldFilter}
    (succeeded : placeField codec schema draft field asked = .ok placed) :
    placed.IsBlank ↔ draft.IsBlank ∧ asked = .conditions [] := by
  cases asked with
  | equals value =>
      obtain ⟨stored, -, same⟩ := bind_eq_ok.mp succeeded
      cases same
      simp [draft.not_isBlank_place]
  | conditions list =>
      obtain ⟨packed, packing, same⟩ := bind_eq_ok.mp succeeded
      cases same
      rw [Draft.isBlank_placeAll_iff, packConditions_eq_nil_iff packing]
      simp

/-- Placing fields leaves a draft blank only if none of them has a condition. -/
theorem isBlank_placeFields_iff
    {filter : List (String × FieldFilter)}
    (succeeded : placeFields codec schema filter draft = .ok placed) :
    placed.IsBlank ↔
      draft.IsBlank ∧ ∀ entry ∈ filter, entry.2 = .conditions [] := by
  induction filter generalizing draft with
  | nil =>
      cases succeeded
      simp
  | cons entry rest inductionHypothesis =>
      obtain ⟨extended, fieldPlaced, restPlaced⟩ := bind_eq_ok.mp succeeded
      rw [inductionHypothesis restPlaced, isBlank_placeField_iff fieldPlaced,
        List.forall_mem_cons, and_assoc]

theorem Draft.isBlank_placeGroups_iff
    (draft : Draft)
    (groups : List (List Json)) :
    (draft.placeGroups groups).IsBlank ↔ draft.IsBlank ∧ groups = [] := by
  match groups with
  | [] =>
      simp [placeGroups]
  | [group] =>
      simp only [placeGroups, IsBlank]
      split
      · simp
      · simp [insert_ne_nil]
  | first :: second :: rest =>
      simp [placeGroups, IsBlank]

theorem Draft.finish_eq_nil_iff
    (draft : Draft) :
    draft.finish = [] ↔ draft.IsBlank := by
  unfold finish IsBlank
  split
  next noClauses =>
    simp [List.isEmpty_iff.mp noClauses]
  next someClauses =>
    split <;> simp_all [insert_ne_nil]

/-- A filter document is empty exactly if its query asks nothing. -/
theorem filterDocument_eq_nil_iff
    {query : Query}
    {filter : Document}
    (compiled : filterDocument codec query = .ok filter) :
    filter = [] ↔ query.AsksNothing := by
  obtain ⟨placed, fieldsPlaced, rest⟩ := bind_eq_ok.mp compiled
  obtain ⟨groups, traversed, same⟩ := bind_eq_ok.mp rest
  cases same
  have blank : Draft.IsBlank {} := ⟨rfl, rfl⟩
  have noGroups_iff :
      (groups.filter fun group => !group.isEmpty) = [] ↔
        ∀ entry ∈ query.alternatives, ¬∃ disjunct,
        Condition.Offered entry.2 disjunct := by
    rw [List.filter_eq_nil_iff]
    refine forall_mem_mapM_iff traversed ?_
    intro entry _ group computed
    rw [← groupClauses_ne_nil_iff computed]
    simp
  rw [Draft.finish_eq_nil_iff, Draft.isBlank_placeGroups_iff,
    isBlank_placeFields_iff fieldsPlaced, noGroups_iff]
  simp only [blank, true_and]
  rfl

end Drafts

end DocumentCompiler

/-- A query is a delete, or an update by one set of values. -/
def Query.IsMutation
    (query : Query) :
    Prop :=
  query.kind = .delete ∨
    query.kind = .update ∧ ∃ row, query.values = some (.single row)

/-- A statement is an update or a delete with a restriction. -/
inductive Sql.Statement.Mutates : Statement → Option Expr → Prop where
  | update (statement : Update) : Mutates (.update statement) statement.filter
  | delete (statement : Delete) : Mutates (.delete statement) statement.filter

/-- An operation is an update or a delete with a filter document. -/
inductive DocumentOperation.Mutates : DocumentOperation → Document → Prop where
  | update
      (collection : String)
      (filter changes : Document)
      (many upsert : Bool) :
      Mutates (.update collection filter changes many upsert) filter
  | delete
      (collection : String)
      (filter : Document)
      (many : Bool) :
      Mutates (.delete collection filter many) filter

section Compiled

variable
  {codec : IdentifierCodec}
  {query : Query}

/-- The statement of a mutation is restricted by the clause of its query. -/
theorem Sql.compile_restricts
    {statement : Statement}
    (isMutation : query.IsMutation)
    (compiled : compile query = .ok statement) :
    ∃ restriction,
      statement.Mutates restriction ∧
        whereClause? query.schema query = .ok restriction := by
  rcases isMutation with isDelete | ⟨isUpdate, row, isRow⟩
  · simp only [compile, isDelete] at compiled
    obtain ⟨filter, filterCompiled, same⟩ := bind_eq_ok.mp compiled
    cases same
    exact ⟨filter, .delete ⟨_, filter⟩, filterCompiled⟩
  · simp only [compile, isUpdate, updateOf, isRow] at compiled
    obtain ⟨update, updateCompiled, same⟩ := bind_eq_ok.mp compiled
    cases same
    obtain ⟨filter, filterCompiled, continued⟩ := bind_eq_ok.mp updateCompiled
    obtain ⟨columns, -, built⟩ := bind_eq_ok.mp continued
    split at built
    next =>
      cases built
    next =>
      cases built
      exact ⟨filter, .update _, filterCompiled⟩

/--
The statement of a mutation has no restriction exactly if
its query asks nothing.
-/
theorem Sql.compile_mutates
    {statement : Statement}
    (isMutation : query.IsMutation)
    (compiled : compile query = .ok statement) :
    ∃ restriction,
      statement.Mutates restriction ∧
        (restriction = none ↔ query.AsksNothing) := by
  obtain ⟨restriction, mutates, restricts⟩ :=
    Sql.compile_restricts isMutation compiled
  exact ⟨restriction, mutates, whereClause?_eq_none_iff restricts⟩

/--
The operation of a mutation is a delete by its filter, or an update
of what that holds of.
-/
theorem DocumentCompiler.compile_mutation_eq_ok
    {operation : DocumentOperation}
    (isMutation : query.IsMutation)
    (compiled : compile codec query = .ok operation) :
    ∃ filter,
      filterDocument codec query = .ok filter ∧
        (operation = .delete query.schema.storage filter (!query.single) ∨
          ∃ row changes,
            query.values = some (.single row) ∧
              updateDocument codec query.schema row = .ok changes ∧
                operation =
                  .update query.schema.storage filter changes (!query.single)
                    query.upsert) := by
  rcases isMutation with isDelete | ⟨isUpdate, row, isRow⟩
  · simp only [compile, isDelete] at compiled
    obtain ⟨filter, filterCompiled, same⟩ := bind_eq_ok.mp compiled
    exact ⟨filter, filterCompiled, .inl (Except.ok.inj same).symm⟩
  · simp only [compile, isUpdate, updateOperation, isRow] at compiled
    obtain ⟨filter, filterCompiled, continued⟩ := bind_eq_ok.mp compiled
    obtain ⟨changes, changesCompiled, same⟩ := bind_eq_ok.mp continued
    exact ⟨filter, filterCompiled,
      .inr ⟨row, changes, isRow, changesCompiled, (Except.ok.inj same).symm⟩⟩

/--
The operation of a mutation has an empty filter exactly if
its query asks nothing.
-/
theorem DocumentCompiler.compile_mutates
    {operation : DocumentOperation}
    (isMutation : query.IsMutation)
    (compiled : compile codec query = .ok operation) :
    ∃ filter,
      operation.Mutates filter ∧ (filter = [] ↔ query.AsksNothing) := by
  obtain ⟨filter, filterCompiled, rfl | ⟨row, changes, -, -, rfl⟩⟩ :=
    DocumentCompiler.compile_mutation_eq_ok isMutation compiled
  · exact ⟨filter, .delete _ _ _, filterDocument_eq_nil_iff filterCompiled⟩
  · exact ⟨filter, .update _ _ _ _ _, filterDocument_eq_nil_iff filterCompiled⟩

end Compiled

namespace Builder

/--
A builder freezes a query as a delete, or as an update by one set of values.
-/
def FreezesMutation
    (builder : Builder)
    (query : Query) :
    Prop :=
  builder.delete = .ok query ∨
    builder.givenValues.isBatch = false ∧
      ∃ supply, (builder.update.runFrom supply).1 = .ok query

theorem filter_ne_nil_of_guardFullTable
    {builder : Builder}
    {action : String}
    {schema : Schema}
    (guarded : builder.allowFullTable = false)
    (passed : builder.guardFullTable action schema = .ok ()) :
    builder.filter ≠ [] := by
  intro unconstrained
  simp [guardFullTable, unconstrained, guarded] at passed

/-- A guarded builder freezes no mutation unless a field is constrained. -/
theorem isMutation_of_freezesMutation
    {builder : Builder}
    {query : Query}
    (guarded : builder.allowFullTable = false)
    (frozen : builder.FreezesMutation query) :
    query.filter ≠ [] ∧ query.IsMutation := by
  rcases frozen with deleted | ⟨oneRow, supply, updated⟩
  · obtain ⟨schema, -, checked⟩ := bind_eq_ok.mp deleted
    obtain ⟨_, passed, same⟩ := bind_eq_ok.mp checked
    cases same
    exact ⟨filter_ne_nil_of_guardFullTable guarded passed, .inl rfl⟩
  · unfold update at updated
    cases given : builder.givenValues with
    | batch rows =>
        simp [given, Mutation.isBatch] at oneRow
    | single row =>
        simp only [Stateful.runFrom_bind, Stateful.runFrom_ofExcept, given]
          at updated
        cases known : builder.requireSchema with
        | error cause =>
            simp [known] at updated
        | ok schema =>
            cases passed : builder.guardFullTable "update" schema with
            | error cause =>
                simp [known, passed, Mutation.isBatch, Stateful.runFrom_bind]
                  at updated
            | ok =>
                simp only [known, passed, Mutation.isBatch] at updated
                cases updated
                exact ⟨filter_ne_nil_of_guardFullTable guarded passed,
                  .inr ⟨rfl, _, rfl⟩⟩

/--
When a mutation touches the full table without opting in.

Whatever was called on a builder that never opted in, a delete or an update by
one set of values is frozen only if a field is constrained. In both backends it
goes without a restriction exactly if every constrained field has an empty
mapping of conditions and no group offers an alternative.
-/
theorem mutation_unrestricted_iff
    {query : Query}
    (calls : List Call)
    (frozen : (afterCalls calls).FreezesMutation query) :
    query.filter ≠ [] ∧
      (∀ statement, Sql.compile query = .ok statement →
        ∃ restriction,
          statement.Mutates restriction ∧
            (restriction = none ↔ query.AsksNothing)) ∧
      ∀ codec operation, DocumentCompiler.compile codec query = .ok operation →
        ∃ filter,
          operation.Mutates filter ∧ (filter = [] ↔ query.AsksNothing) := by
  obtain ⟨constrained, isMutation⟩ :=
    isMutation_of_freezesMutation (allowFullTable_afterCalls calls) frozen
  refine ⟨constrained, ?_, ?_⟩
  · intro statement compiled
    exact Sql.compile_mutates isMutation compiled
  · intro codec operation compiled
    exact DocumentCompiler.compile_mutates isMutation compiled

/-- An entity with one field besides its identifier. -/
def emptyMappingSchema : Schema :=
  {
    name := "t"
    storageName := none
    fields := [⟨"id", none, true, none, none⟩, ⟨"a", none, false, none, none⟩]
  }

/-- Calls that constrain a field of an entity, but by an empty mapping. -/
def emptyMappingCalls : List Call :=
  [.model emptyMappingSchema, .constrain "a" (.ofJson (.object []))]

theorem mutation_unrestricted_iff_for_empty_mapping :
    ∃ query,
      (afterCalls emptyMappingCalls).FreezesMutation query ∧
        query.AsksNothing ∧
        query.filter ≠ [] ∧
          (∀ statement, Sql.compile query = .ok statement →
            ∃ restriction,
              statement.Mutates restriction ∧
                (restriction = none ↔ query.AsksNothing)) ∧
          ∀ codec operation,
            DocumentCompiler.compile codec query = .ok operation →
            ∃ filter,
              operation.Mutates filter ∧ (filter = [] ↔ query.AsksNothing) := by
  have frozen :
      (afterCalls emptyMappingCalls).FreezesMutation
        ((afterCalls emptyMappingCalls).freeze .delete emptyMappingSchema
          none) :=
    .inl rfl
  have asksNothing :
      ((afterCalls emptyMappingCalls).freeze .delete emptyMappingSchema
        none).AsksNothing := by
    constructor
    · decide
    · intro entry member
      cases member
  exact ⟨_, frozen, asksNothing,
    mutation_unrestricted_iff emptyMappingCalls frozen⟩

/--
A delete by an empty mapping passes the guard and removes every
row in both backends.
-/
theorem empty_mapping_deletes_everything :
    ∃ query,
      (afterCalls emptyMappingCalls).delete = .ok query ∧
        Sql.compile query = .ok (.delete ⟨"t", none⟩) ∧
          DocumentCompiler.compile ObjectId.codec query =
            .ok (.delete "t" [] true) :=
  ⟨_, rfl, rfl, rfl⟩

end Builder

end PolyQuery
