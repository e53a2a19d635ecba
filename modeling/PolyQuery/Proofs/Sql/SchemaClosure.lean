import PolyQuery.Proofs.Sql.Placeholders
import PolyQuery.Proofs.Sql.SelectClauses
import PolyQuery.Proofs.Sql.WrittenRows

namespace PolyQuery

open Failing

/-!
# Statements reach no further than their schema

A statement names the table of its entity, columns of that entity's fields and
the fragments that its caller passed as such. A name that no field has is never
passed on: wherever a statement would use it, there is no statement.
-/

namespace Sql

variable
  {schema : Schema}
  {fragments : List String}

/--
An expression without parts is a column of the entity, one of some
fragments, or no name.
-/
def Expr.NamesOnly
    (schema : Schema)
    (fragments : List String) :
    Expr →
    Prop
  | .column table name => table = some schema.storage ∧ schema.HasStorage name
  | .raw sql => sql ∈ fragments
  | _ => True

/--
All parts of an expression stay within the columns of the
entity and some fragments.
-/
def Expr.StaysWithin
    (schema : Schema)
    (fragments : List String)
    (expr : Expr) :
    Prop :=
  ∀ leaf ∈ expr.leaves, leaf.NamesOnly schema fragments

namespace Expr.StaysWithin

theorem column
    {name : String}
    (stored : schema.HasStorage name) :
    (Expr.column (some schema.storage) name).StaysWithin schema fragments := by
  simp [StaysWithin, leaves, NamesOnly, stored]

theorem raw
    {sql : String}
    (member : sql ∈ fragments) :
    (Expr.raw sql).StaysWithin schema fragments := by
  simp [StaysWithin, leaves, NamesOnly, member]

theorem operand
    (base : String)
    (value : Json) :
    (Expr.operand base value).StaysWithin schema fragments := by
  simp [StaysWithin, leaves, NamesOnly]

theorem constant
    (value : Bool) :
    (Expr.constant value).StaysWithin schema fragments := by
  simp [StaysWithin, leaves, NamesOnly]

theorem countAll :
    Expr.countAll.StaysWithin schema fragments := by
  simp [StaysWithin, leaves, NamesOnly]

/-- Nothing comes into a list of expressions from outside of them. -/
theorem leavesOfAll
    {exprs : List Expr}
    (within : ∀ expr ∈ exprs, expr.StaysWithin schema fragments) :
    ∀ leaf ∈ Expr.leavesOfAll exprs, leaf.NamesOnly schema fragments := by
  rw [leavesOfAll_eq_flatMap]
  intro leaf member
  obtain ⟨expr, exprMember, leafMember⟩ := List.mem_flatMap.mp member
  exact within expr exprMember leaf leafMember

theorem allOf?
    {terms : List Expr}
    (within : ∀ term ∈ terms, term.StaysWithin schema fragments) :
    ∀ expr ∈ Expr.allOf? terms, expr.StaysWithin schema fragments := by
  intro expr isAll
  match terms with
  | [] =>
      cases isAll
  | [term] =>
      cases isAll
      exact within _ List.mem_cons_self
  | first :: second :: rest =>
      cases isAll
      exact leavesOfAll within

theorem anyOf?
    {terms : List Expr}
    (within : ∀ term ∈ terms, term.StaysWithin schema fragments) :
    ∀ expr ∈ Expr.anyOf? terms, expr.StaysWithin schema fragments := by
  intro expr isAny
  match terms with
  | [] =>
      cases isAny
  | [term] =>
      cases isAny
      exact within _ List.mem_cons_self
  | first :: second :: rest =>
      cases isAny
      exact leavesOfAll within

/-- A predicate names what its subject names. -/
theorem predicate
    {field base : String}
    {subject expr : Expr}
    {operator : Operator}
    {value : Json}
    (within : subject.StaysWithin schema fragments)
    (compiled : Sql.predicate field subject base operator value = .ok expr) :
    expr.StaysWithin schema fragments := by
  have compared :
      ∀ sign,
        (Expr.comparison subject sign (.operand base value)).StaysWithin schema
          fragments :=
    fun sign => List.forall_mem_append.mpr ⟨within, operand base value⟩
  have matched :
      ∀ ignoringCase,
        (Expr.like subject (.operand base value) ignoringCase).StaysWithin
          schema fragments :=
    fun ignoringCase => List.forall_mem_append.mpr ⟨within, operand base value⟩
  have listed :
      ∀ (items : List Json) negated,
        (Expr.inList subject (items.map (.operand base)) negated).StaysWithin
          schema fragments := by
    refine fun items negated =>
      List.forall_mem_append.mpr ⟨within, leavesOfAll ?_⟩
    intro item member
    obtain ⟨value, -, rfl⟩ := List.mem_map.mp member
    exact operand base value
  cases operator with
  | equal | notEqual =>
      simp only [Sql.predicate] at compiled
      split at compiled <;> cases compiled
      · exact within
      · exact compared _
  | greater | atLeast | less | atMost =>
      cases compiled
      exact compared _
  | oneOf | noneOf =>
      simp only [Sql.predicate] at compiled
      split at compiled <;> cases compiled
      · exact constant _
      · exact listed _ _
  | like | likeIgnoringCase =>
      simp only [Sql.predicate] at compiled
      split at compiled <;> cases compiled
      exact matched _
  | between =>
      simp only [Sql.predicate] at compiled
      split at compiled <;> cases compiled
      refine List.forall_mem_append.mpr
        ⟨List.forall_mem_append.mpr ⟨within, ?_⟩, ?_⟩
      · exact operand base _
      · exact operand base _

end Expr.StaysWithin

section Filters

variable
  (fragments)
  {field : String}
  {query : Query}

theorem fieldTerms_within
    {asked : FieldFilter}
    {terms : List Expr}
    (compiled : fieldTerms schema field asked = .ok terms) :
    schema.HasField field ∧
      ∀ term ∈ terms, term.StaysWithin schema fragments := by
  obtain ⟨column, named, traversed⟩ := bind_eq_ok.mp compiled
  refine ⟨Schema.hasField_of_column named, fun term member => ?_⟩
  obtain ⟨condition, -, lowered⟩ := exists_item_of_mem_mapM traversed member
  obtain ⟨operator, -, isTerm⟩ := bind_eq_ok.mp lowered
  exact .predicate (.column (Schema.hasStorage_of_column named)) isTerm

theorem groupTerm?_within
    {conditions : List Condition}
    {term : Option Expr}
    (compiled : groupTerm? schema field conditions = .ok term) :
    schema.HasField field ∧
      ∀ expr ∈ term, expr.StaysWithin schema fragments := by
  obtain ⟨column, named, continued⟩ := bind_eq_ok.mp compiled
  obtain ⟨alternatives, traversed, isTerm⟩ := bind_eq_ok.mp continued
  cases isTerm
  refine ⟨Schema.hasField_of_column named, .anyOf? fun expr member => ?_⟩
  obtain ⟨group, groupMember, exprMember⟩ := List.mem_flatten.mp member
  obtain ⟨condition, -, lowered⟩ :=
    exists_item_of_mem_mapM traversed groupMember
  obtain ⟨disjuncts, -, disjunctsTraversed⟩ := bind_eq_ok.mp lowered
  obtain ⟨disjunct, -, isExpr⟩ :=
    exists_item_of_mem_mapM disjunctsTraversed exprMember
  exact .predicate (.column (Schema.hasStorage_of_column named)) isExpr

/--
A restriction names columns of its entity, and all names that are
filtered by are fields.
-/
theorem whereClause?_within
    {restriction : Option Expr}
    (compiled : whereClause? schema query = .ok restriction) :
    (∀ name ∈ query.filteredNames, schema.HasField name) ∧
      ∀ expr ∈ restriction, expr.StaysWithin schema fragments := by
  obtain ⟨terms, fieldsTraversed, continued⟩ := bind_eq_ok.mp compiled
  obtain ⟨groups, groupsTraversed, isRestriction⟩ := bind_eq_ok.mp continued
  cases isRestriction
  refine ⟨List.forall_mem_append.mpr ⟨?_, ?_⟩,
    .allOf? (List.forall_mem_append.mpr ⟨?_, ?_⟩)⟩
  · intro name member
    obtain ⟨entry, entryMember, rfl⟩ := List.mem_map.mp member
    obtain ⟨compiledTerms, -, isField⟩ :=
      exists_result_of_mem_mapM fieldsTraversed entryMember
    exact (fieldTerms_within [] isField).1
  · intro name member
    obtain ⟨entry, entryMember, rfl⟩ := List.mem_map.mp member
    obtain ⟨group, -, isGroup⟩ :=
      exists_result_of_mem_mapM groupsTraversed entryMember
    exact (groupTerm?_within [] isGroup).1
  · intro expr member
    obtain ⟨fieldTerms, fieldMember, exprMember⟩ := List.mem_flatten.mp member
    obtain ⟨entry, -, isField⟩ :=
      exists_item_of_mem_mapM fieldsTraversed fieldMember
    exact (fieldTerms_within fragments isField).2 expr exprMember
  · intro expr member
    obtain ⟨group, groupMember, isExpr⟩ := List.mem_filterMap.mp member
    obtain ⟨entry, -, isGroup⟩ :=
      exists_item_of_mem_mapM groupsTraversed groupMember
    exact (groupTerm?_within fragments isGroup).2 expr isExpr

end Filters

section Selects

variable
  {query : Query}
  {body : SelectBody}

/--
The field of a target is known, and its expression is its
column or its fragment.
-/
theorem targetOf_within
    {target : Target}
    {expr : Expr}
    (passed : ∀ sql ∈ target.fragment?, sql ∈ fragments)
    (compiled : targetOf schema target = .ok expr) :
    (∀ name ∈ target.fieldName?, schema.HasField name) ∧
      expr.StaysWithin schema fragments := by
  cases target with
  | field name =>
      obtain ⟨column, named, rfl⟩ := map_eq_ok.mp compiled
      refine ⟨fun fieldName isName => ?_,
        .column (Schema.hasStorage_of_column named)⟩
      cases isName
      exact Schema.hasField_of_column named
  | raw sql =>
      cases compiled
      exact ⟨nofun, .raw (passed sql rfl)⟩

/--
What is compiled from targets of a query names their fields and fragments only.
-/
theorem targets_within
    (schema : Schema)
    (query : Query)
    {α β : Type}
    {compute : α → Except QueryError β}
    {terms : List α}
    {results : List β}
    (target : α → Target)
    (exprOf : β → Expr)
    (amongTargets : ∀ term ∈ terms, target term ∈ query.targets)
    (about :
      ∀ term result, compute term = .ok result →
        ∃ subject, targetOf schema (target term) = .ok subject ∧
          ∀ fragments, subject.StaysWithin schema fragments →
            (exprOf result).StaysWithin schema fragments)
    (compiled : terms.mapM compute = .ok results) :
    (∀ name ∈ (terms.map target).filterMap Target.fieldName?,
      schema.HasField name) ∧
      ∀ expr ∈ results.map exprOf, expr.StaysWithin schema query.fragments := by
  have each :
      ∀ term ∈ terms, ∀ result, compute term = .ok result →
        (∀ name ∈ (target term).fieldName?, schema.HasField name) ∧
          (exprOf result).StaysWithin schema query.fragments := by
    intro term member result computed
    obtain ⟨subject, isSubject, keeps⟩ := about term result computed
    have passed : ∀ sql ∈ (target term).fragment?, sql ∈ query.fragments :=
      fun sql isFragment =>
        List.mem_filterMap.mpr
          ⟨target term, amongTargets term member, isFragment⟩
    obtain ⟨known, within⟩ := targetOf_within passed isSubject
    exact ⟨known, keeps _ within⟩
  constructor
  · intro name member
    obtain ⟨_, targetMember, isName⟩ := List.mem_filterMap.mp member
    obtain ⟨term, termMember, rfl⟩ := List.mem_map.mp targetMember
    obtain ⟨result, -, computed⟩ :=
      exists_result_of_mem_mapM compiled termMember
    exact (each term termMember result computed).1 name isName
  · intro expr member
    obtain ⟨result, resultMember, rfl⟩ := List.mem_map.mp member
    obtain ⟨term, termMember, computed⟩ :=
      exists_item_of_mem_mapM compiled resultMember
    exact (each term termMember result computed).2

variable (built : body.BuiltFrom schema query)

include built

theorem SelectBody.BuiltFrom.items_within :
    (∀ name ∈ query.projection.filterMap Target.fieldName?,
      schema.HasField name) ∧
      ∀ expr ∈ body.items.map Item.expr,
        expr.StaysWithin schema query.fragments := by
  have compiled := built.items
  unfold selectItems at compiled
  split at compiled
  next noProjection =>
    rw [← Except.ok.inj compiled]
    refine ⟨by simp [List.isEmpty_iff.mp noProjection], ?_⟩
    intro expr member
    simp only [List.map_map, List.mem_map, Function.comp_apply] at member
    obtain ⟨field, fieldMember, rfl⟩ := member
    exact .column ⟨field, fieldMember, rfl⟩
  next =>
    have within :=
      targets_within schema query id Item.expr
        (fun _ member => Clauses.mem_targets.mpr (.inl member))
        (fun target item isItem => by
          obtain ⟨expr, isExpr, rfl⟩ := map_eq_ok.mp isItem
          exact ⟨expr, isExpr, fun _ => id⟩)
        compiled
    rwa [List.map_id] at within

theorem SelectBody.BuiltFrom.groups_within :
    (∀ name ∈ query.groups.filterMap Target.fieldName?, schema.HasField name) ∧
      ∀ expr ∈ body.groups, expr.StaysWithin schema query.fragments := by
  have within :=
    targets_within schema query id id
      (fun _ member => Clauses.mem_targets.mpr (.inr (.inl member)))
      (fun target expr isExpr => ⟨expr, isExpr, fun _ => id⟩) built.groups
  rwa [List.map_id, List.map_id] at within

theorem SelectBody.BuiltFrom.having_within :
    (∀ name ∈ (query.having.map
      GroupCondition.target).filterMap Target.fieldName?,
        schema.HasField name) ∧
      ∀ expr ∈ body.having, expr.StaysWithin schema query.fragments := by
  obtain ⟨terms, compiled, isHaving⟩ := built.having
  have about :
      ∀ term expr, havingTerm schema term = .ok expr →
        ∃ subject, targetOf schema term.target = .ok subject ∧
          ∀ fragments, subject.StaysWithin schema fragments →
            expr.StaysWithin schema fragments := by
    intro term expr isTerm
    obtain ⟨operator, -, isTerm⟩ := bind_eq_ok.mp isTerm
    obtain ⟨subject, isSubject, isTerm⟩ := bind_eq_ok.mp isTerm
    obtain ⟨base, -, isTerm⟩ := bind_eq_ok.mp isTerm
    exact ⟨subject, isSubject,
      fun _ subjectWithin => .predicate subjectWithin isTerm⟩
  have among : ∀ term ∈ query.having, term.target ∈ query.targets :=
    fun term member =>
      Clauses.mem_targets.mpr (.inr (.inr (.inl (List.mem_map_of_mem member))))
  obtain ⟨known, within⟩ :=
    targets_within schema query GroupCondition.target id among about compiled
  rw [List.map_id] at within
  rw [isHaving]
  exact ⟨known, .allOf? within⟩

theorem SelectBody.BuiltFrom.distinct_within
    (dialect : Dialect) :
    (∀ name ∈ query.distinct.targets.filterMap Target.fieldName?,
      schema.HasField name) ∧
      ∀ expr ∈ body.distinctExprs dialect,
        expr.StaysWithin schema query.fragments := by
  have compiled := built.distinct
  have among : ∀ target ∈ query.distinct.targets, target ∈ query.targets :=
    fun _ member =>
      Clauses.mem_targets.mpr (.inr (.inr (.inr (.inl member))))
  unfold SelectBody.distinctExprs
  cases isDistinct : query.distinct with
  | none | all =>
      rw [isDistinct] at compiled
      rw [← Except.ok.inj compiled]
      exact ⟨nofun, nofun⟩
  | on targets =>
      rw [isDistinct] at compiled among
      obtain ⟨exprs, traversed, isOn⟩ := map_eq_ok.mp compiled
      have within :=
        targets_within schema query id id among
          (fun target expr isExpr => ⟨expr, isExpr, fun _ => id⟩) traversed
      rw [List.map_id, List.map_id] at within
      rw [← isOn]
      refine ⟨within.1, ?_⟩
      dsimp only
      split
      · exact within.2
      · nofun

theorem SelectBody.BuiltFrom.order_within :
    (∀ name ∈ (query.order.map OrderTerm.target).filterMap Target.fieldName?,
        schema.HasField name) ∧
      ∀ expr ∈ body.order.map Prod.fst,
        expr.StaysWithin schema query.fragments := by
  have among : ∀ term ∈ query.order, term.target ∈ query.targets :=
    fun term member =>
      Clauses.mem_targets.mpr
        (.inr (.inr (.inr (.inr (List.mem_map_of_mem member)))))
  refine targets_within schema query OrderTerm.target Prod.fst among ?_
    built.order
  intro term pair isTerm
  obtain ⟨expr, isExpr, rfl⟩ := map_eq_ok.mp isTerm
  exact ⟨expr, isExpr, fun _ => id⟩

theorem SelectBody.BuiltFrom.known :
    ∀ name ∈ query.selectedNames, schema.HasField name := by
  simp only [Clauses.selectedNames, Clauses.targets, List.filterMap_append,
    List.forall_mem_append]
  exact ⟨(whereClause?_within [] built.filter).1,
    ⟨⟨⟨built.items_within.1, built.groups_within.1⟩, built.having_within.1⟩,
      (built.distinct_within .postgres).1⟩,
    built.order_within.1⟩

/-- A select names columns of its entity and fragments of its caller only. -/
theorem SelectBody.BuiltFrom.within
    (table : String)
    (dialect : Dialect) :
    ∀ expr ∈ (Select.fromTable table body).exprs dialect,
      expr.StaysWithin schema query.fragments := by
  simp only [Select.exprs, SelectBody.headExprs, SelectBody.tailExprs,
    List.forall_mem_append, Option.mem_toList]
  exact ⟨⟨(built.distinct_within dialect).2, built.items_within.2⟩,
    ⟨⟨(whereClause?_within query.fragments built.filter).2,
      built.groups_within.2⟩, built.having_within.2⟩,
    built.order_within.2⟩

end Selects

/--
What counts rows has no other expressions than they have, but for the count.
-/
theorem exprs_countingOf
    {table : String}
    {body : SelectBody}
    {dialect : Dialect}
    {expr : Expr}
    (member : expr ∈ (countingOf table body).exprs dialect) :
    expr = .countAll ∨ expr ∈ (Select.fromTable table body).exprs dialect := by
  have unordered : body.unwindowed.tailExprs ⊆ body.tailExprs := by
    intro expr member
    simp only [SelectBody.tailExprs, List.mem_append] at member ⊢
    exact member.imp_right fun inNone => absurd inNone List.not_mem_nil
  unfold countingOf at member
  split at member
  · -- The outer select has the count only.
    rw [Select.exprs, List.mem_append, List.mem_append] at member
    rcases member with (isCount | inSource) | inTail
    · exact .inl (List.mem_singleton.mp isCount)
    · rw [Select.exprs, List.mem_append] at inSource ⊢
      exact .inr (inSource.imp_right (unordered ·))
    · cases inTail
  · rw [Select.exprs, List.mem_append, SelectBody.headExprs, List.mem_append]
      at member
    rw [Select.exprs, List.mem_append, SelectBody.headExprs, List.mem_append]
    rcases member with (inDistinct | isCount) | inTail
    · exact .inr (.inl (.inl inDistinct))
    · exact .inl (List.mem_singleton.mp isCount)
    · exact .inr (.inr (unordered inTail))

/-- The tables that a select reads. -/
def Select.tables : Select → List String
  | .fromTable table _ => [table]
  | .fromSelect source _ _ => source.tables

namespace Statement

/-- The tables that a statement names. -/
def tables : Statement → List String
  | .select selected => selected.tables
  | .insert inserted => [inserted.table]
  | .update updated => updated.table :: (updated.rowKey.map RowKey.table).toList
  | .delete deleted => [deleted.table]

/-- The columns that a statement names outside of its expressions. -/
def ownColumns : Statement → List String
  | .insert inserted => inserted.columns
  | .update updated =>
      updated.columns ++ (updated.rowKey.map RowKey.column).toList
  | _ => []

/--
A statement names one table, columns of a schema's fields and
some fragments only.
-/
structure ClosedOver
    (schema : Schema)
    (fragments : List String)
    (statement : Statement) :
    Prop where
  tables : ∀ table ∈ statement.tables, table = schema.storage
  ownColumns : ∀ column ∈ statement.ownColumns, schema.HasStorage column
  exprs :
    ∀ dialect, ∀ expr ∈ statement.exprs dialect,
      expr.StaysWithin schema fragments

end Statement

end Sql

/-- The names that the statement of a query has a use for. -/
def Query.usedNames
    (query : Query) :
    List String :=
  match query.kind with
  | .select => query.selectedNames
  | .insert => query.rows.flatMap Entries.keys
  | .update => query.filteredNames ++ query.rows.flatMap Entries.keys
  | .delete => query.filteredNames

namespace Sql

section Statements

variable
  {schema : Schema}
  {query : Query}
  (maps : ∀ row ∈ query.rows, Entries.Distinct row)

include maps

theorem insertOf_closed
    (fragments : List String)
    {inserted : Insert}
    (compiled : insertOf schema query = .ok inserted) :
    (∀ name ∈ query.rows.flatMap Entries.keys, schema.HasField name) ∧
      (Statement.insert inserted).ClosedOver schema fragments := by
  obtain ⟨isTable, first, firstMember, laid⟩ := insertOf_eq_ok compiled
  refine ⟨fun name member => ?_, ?_⟩
  · obtain ⟨row, rowMember, inRow⟩ := List.mem_flatMap.mp member
    exact laid.hasField
      ((laid.keys_perm (maps first firstMember) rowMember).mem_iff.mp inRow)
  · exact {
      tables := by simp [Statement.tables, isTable]
      ownColumns := fun column => laid.hasStorage
      exprs := fun _ _ => nofun
    }

theorem batchUpdateOf_closed
    {filter : Option Expr}
    {first : Document}
    (firstMember : first ∈ query.rows)
    {updated : Update}
    (compiled : batchUpdateOf schema filter first query.rows = .ok updated) :
    (∀ name ∈ query.rows.flatMap Entries.keys, schema.HasField name) ∧
      (∀ table ∈ (Statement.update updated).tables, table = schema.storage) ∧
        (∀ column ∈ (Statement.update updated).ownColumns,
          schema.HasStorage column) ∧
          updated.filter = filter := by
  obtain ⟨key, identifiers, isKey, isTable, isFilter, -, isRowKey, identified,
      laid⟩ :=
    batchUpdateOf_eq_ok compiled
  have keyMember : key ∈ schema.fields := List.mem_of_find?_eq_some isKey
  refine ⟨fun name member => ?_, ?_, ?_, isFilter⟩
  · obtain ⟨row, rowMember, inRow⟩ := List.mem_flatMap.mp member
    obtain ⟨identifier, -, isIdentified⟩ :=
      exists_right_of_mem identified rowMember
    have keys :=
      laid.keys_perm_of_erased (maps first firstMember) rowMember isIdentified
    rcases List.mem_cons.mp (keys.mem_iff.mp inRow) with isKeyName | assigned
    · exact ⟨key, keyMember, isKeyName.symm⟩
    · exact laid.hasField assigned
  · simp [Statement.tables, isTable, isRowKey]
  · intro column member
    rcases List.mem_append.mp member with isColumn | isKeyColumn
    · exact laid.hasStorage isColumn
    · rw [isRowKey] at isKeyColumn
      exact ⟨key, keyMember, (List.mem_singleton.mp isKeyColumn).symm⟩

theorem updateOf_closed
    (fragments : List String)
    {updated : Update}
    (compiled : updateOf schema query = .ok updated) :
    (∀ name ∈ query.filteredNames ++ query.rows.flatMap Entries.keys,
      schema.HasField name) ∧
      (Statement.update updated).ClosedOver schema fragments := by
  obtain ⟨filter, restricts, cases⟩ := updateOf_eq_ok compiled
  obtain ⟨filterKnown, filterWithin⟩ := whereClause?_within fragments restricts
  rw [List.forall_mem_append]
  rcases cases with
      ⟨first, firstMember, batch⟩ | ⟨row, columns, isSingle, named, rfl⟩
  · obtain ⟨known, tables, ownColumns, isFilter⟩ :=
      batchUpdateOf_closed maps firstMember batch
    refine ⟨⟨filterKnown, known⟩, tables, ownColumns, fun _ expr member => ?_⟩
    rw [Statement.exprs, isFilter, Option.mem_toList] at member
    exact filterWithin expr member
  · have isRows : query.rows = [row] := by
      simp [Query.rows, isSingle, Mutation.rows]
    refine ⟨⟨filterKnown, fun name member => ?_⟩, ?_⟩
    · rw [isRows, List.flatMap_singleton] at member
      obtain ⟨column, -, isNamed⟩ := exists_result_of_mem_mapM named member
      exact Schema.hasField_of_column isNamed
    · exact {
        tables := by simp [Statement.tables]
        ownColumns := fun column member => by
          obtain ⟨name, -, isNamed⟩ :=
            exists_item_of_mem_mapM named
              (by simpa [Statement.ownColumns] using member)
          exact Schema.hasStorage_of_column isNamed
        exprs :=
          fun _ expr member => filterWithin expr (Option.mem_toList.mp member)
      }

omit maps in
theorem select_closed
    {body : SelectBody}
    (built : body.BuiltFrom query.schema query) :
    (Statement.select (.fromTable query.schema.storage body)).ClosedOver
      query.schema query.fragments where
  tables := by simp [Statement.tables, Select.tables]
  ownColumns := nofun
  exprs := built.within query.schema.storage

omit maps in
theorem countingOf_closed
    {body : SelectBody}
    (built : body.BuiltFrom query.schema query) :
    (Statement.select (countingOf query.schema.storage body)).ClosedOver
      query.schema query.fragments where
  tables := by
    unfold countingOf
    split <;> simp [Statement.tables, Select.tables]
  ownColumns := nofun
  exprs dialect expr member := by
    rcases exprs_countingOf member with isCount | inSelect
    · exact isCount ▸ .countAll
    · exact built.within _ dialect expr inSelect

theorem compile_closed
    {statement : Statement}
    (compiled : compile query = .ok statement) :
    (∀ name ∈ query.usedNames, query.schema.HasField name) ∧
      statement.ClosedOver query.schema query.fragments := by
  unfold Query.usedNames
  cases isKind : query.kind with
  | select =>
      obtain ⟨body, built, rfl⟩ := (compile_select_eq_ok isKind).mp compiled
      exact ⟨built.known, select_closed built⟩
  | insert =>
      obtain ⟨inserted, isInsert, rfl⟩ :=
        (compile_insert_eq_ok isKind).mp compiled
      exact insertOf_closed maps query.fragments isInsert
  | update =>
      obtain ⟨updated, isUpdate, rfl⟩ :=
        (compile_update_eq_ok isKind).mp compiled
      exact updateOf_closed maps query.fragments isUpdate
  | delete =>
      simp only [compile, isKind] at compiled
      obtain ⟨filter, restricts, same⟩ := bind_eq_ok.mp compiled
      cases same
      obtain ⟨known, within⟩ := whereClause?_within query.fragments restricts
      exact ⟨known, {
        tables := by simp [Statement.tables]
        ownColumns := List.forall_mem_nil _
        exprs := fun _ expr member => within expr (Option.mem_toList.mp member)
      }⟩

end Statements

/--
Statements are closed over the schema.

Whatever a query is compiled to, for its rows or for their number, names its
entity's table, columns of its fields, and fragments that the caller passed. A
name without a field fails the compilation wherever the statement uses it.
-/
theorem statements_closed_over_schema
    (query : Query)
    (maps : ∀ row ∈ query.rows, Entries.Distinct row) :
    (∀ statement, compile query = .ok statement →
        statement.ClosedOver query.schema query.fragments) ∧
      (∀ statement, compileCount query = .ok statement →
        statement.ClosedOver query.schema query.fragments) ∧
      ((∃ name ∈ query.usedNames, query.schema.field? name = none) →
        ∃ cause, compile query = .error cause) ∧
      ((∃ name ∈ query.selectedNames, query.schema.field? name = none) →
        ∃ cause, compileCount query = .error cause) := by
  refine ⟨fun statement compiled => (compile_closed maps compiled).2,
    fun statement compiled => ?_, ?_, ?_⟩
  · obtain ⟨body, built, rfl⟩ := compileCount_eq_ok.mp compiled
    exact countingOf_closed built
  · rintro ⟨name, member, unknown⟩
    cases compiled : compile query with
    | error cause =>
        exact ⟨cause, rfl⟩
    | ok statement =>
        have known := (compile_closed maps compiled).1 name member
        exact absurd known (Schema.not_hasField_of_field? unknown)
  · rintro ⟨name, member, unknown⟩
    cases compiled : compileCount query with
    | error cause =>
        exact ⟨cause, rfl⟩
    | ok statement =>
        obtain ⟨body, built, -⟩ := compileCount_eq_ok.mp compiled
        exact absurd (built.known name member)
          (Schema.not_hasField_of_field? unknown)

/--
An entity with an identifier and a field that is stored under another name.
-/
def measured : Schema :=
  {
    name := "point"
    storageName := some "points"
    fields :=
      [⟨"id", none, true, none, none⟩, ⟨"size", some "s", false, none, none⟩]
  }

/-- A select of sizes that are large and met several times. -/
def repeatedSizes : Query :=
  {
    filter := [("size", .conditions [⟨"gt", .ofInt 1⟩])]
    projection := [.field "size", .raw "count(*)"]
    groups := [.field "size"]
    having := [⟨.raw "count(*)", ⟨"gt", .ofInt 2⟩⟩]
    order := [⟨.field "size", .descending⟩]
    distinct := .on [.field "size"]
    kind := .select
    schema := measured
    values := none
  }

/-- A batch whose second row has a name that is no field. -/
def strayRow : Query :=
  {
    kind := .insert
    schema := measured
    values := some (.batch [[("size", .ofInt 1)], [("s = 1; --", .ofInt 2)]])
  }

theorem statements_closed_over_schema_of_strayRow :
    (∀ row ∈ strayRow.rows, Entries.Distinct row) ∧
      (∃ cause, compile strayRow = .error cause) ∧
      ∃ statement, compileCount repeatedSizes = .ok statement ∧
        statement.ClosedOver measured ["count(*)", "count(*)"] := by
  have maps : ∀ row ∈ strayRow.rows, Entries.Distinct row := by
    simp [strayRow, Query.rows, Mutation.rows, Entries.Distinct, Entries.keys]
  refine ⟨maps, ?_, _, rfl, ?_⟩
  · exact (statements_closed_over_schema strayRow maps).2.2.1
      ⟨"s = 1; --", by decide, by decide⟩
  · exact (statements_closed_over_schema repeatedSizes
      (List.forall_mem_nil _)).2.1 _ rfl

end Sql

end PolyQuery
