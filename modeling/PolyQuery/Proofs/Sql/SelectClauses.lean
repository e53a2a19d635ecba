import PolyQuery.Proofs.Computation.Except
import PolyQuery.Sql.Compile

namespace PolyQuery

open Failing

/-!
# Clauses of a select

Each clause of a select is compiled by itself, from its own part of the query.
What counts the rows keeps the clauses that tell which rows there are.
-/

/-- The name of a field that a target is. -/
def Target.fieldName? : Target → Option String
  | .field name => some name
  | .raw _ => none

/-- The fragment of the caller's that a target is. -/
def Target.fragment? : Target → Option String
  | .field _ => none
  | .raw sql => some sql

/-- The targets that rows are told apart by. -/
def Distinctness.targets : Distinctness → List Target
  | .none => []
  | .all => []
  | .on targets => targets

/-- All targets of the clauses of a select. -/
def Clauses.targets
    (clauses : Clauses) :
    List Target :=
  clauses.projection ++ clauses.groups ++
    clauses.having.map GroupCondition.target ++
    clauses.distinct.targets ++ clauses.order.map OrderTerm.target

theorem Clauses.mem_targets
    {clauses : Clauses}
    {target : Target} :
    target ∈ clauses.targets ↔
      target ∈ clauses.projection ∨ target ∈ clauses.groups ∨
        target ∈ clauses.having.map GroupCondition.target ∨
          target ∈ clauses.distinct.targets ∨
            target ∈ clauses.order.map OrderTerm.target := by
  simp only [targets, List.mem_append, or_assoc]

/-- The fragments that a caller passes for targets of a select. -/
def Clauses.fragments
    (clauses : Clauses) :
    List String :=
  clauses.targets.filterMap Target.fragment?

/-- The names that clauses filter by. -/
def Clauses.filteredNames
    (clauses : Clauses) :
    List String :=
  Entries.keys clauses.filter ++ Entries.keys clauses.alternatives

/-- The names that a select filters by or has for targets. -/
def Clauses.selectedNames
    (clauses : Clauses) :
    List String :=
  clauses.filteredNames ++ clauses.targets.filterMap Target.fieldName?

namespace Sql

theorem Expr.allOf?_eq_none_iff
    {terms : List Expr} :
    Expr.allOf? terms = none ↔ terms = [] := by
  match terms with
  | [] =>
      simp [Expr.allOf?]
  | [_] =>
      simp [Expr.allOf?]
  | _ :: _ :: _ =>
      simp [Expr.allOf?]

theorem Expr.anyOf?_eq_none_iff
    {terms : List Expr} :
    Expr.anyOf? terms = none ↔ terms = [] := by
  match terms with
  | [] =>
      simp [Expr.anyOf?]
  | [_] =>
      simp [Expr.anyOf?]
  | _ :: _ :: _ =>
      simp [Expr.anyOf?]

/-- Every clause of a select is what it is compiled to. -/
structure SelectBody.BuiltFrom
    (schema : Schema)
    (query : Query)
    (body : SelectBody) :
    Prop where
  items : selectItems schema query.projection = .ok body.items
  filter : whereClause? schema query = .ok body.filter
  groups : query.groups.mapM (targetOf schema) = .ok body.groups
  having :
    ∃ terms,
      query.having.mapM (havingTerm schema) = .ok terms ∧
        body.having = Expr.allOf? terms
  distinct : distinctOf schema query.distinct = .ok body.distinct
  order :
    (query.order.mapM fun term =>
      (targetOf schema term.target).map fun expr => (expr, term.direction)) =
      .ok body.order
  limit : body.limit = query.rowLimit
  offset : body.offset = query.offset

theorem selectBody_eq_ok
    {schema : Schema}
    {query : Query}
    {body : SelectBody} :
    selectBody schema query = .ok body ↔ body.BuiltFrom schema query := by
  constructor
  · intro compiled
    obtain ⟨items, itemsCompiled, compiled⟩ := bind_eq_ok.mp compiled
    obtain ⟨filter, filterCompiled, compiled⟩ := bind_eq_ok.mp compiled
    obtain ⟨groups, groupsCompiled, compiled⟩ := bind_eq_ok.mp compiled
    obtain ⟨having, havingCompiled, compiled⟩ := bind_eq_ok.mp compiled
    obtain ⟨distinct, distinctCompiled, compiled⟩ := bind_eq_ok.mp compiled
    obtain ⟨order, orderCompiled, same⟩ := bind_eq_ok.mp compiled
    cases same
    exact {
      items := itemsCompiled
      filter := filterCompiled
      groups := groupsCompiled
      having := ⟨having, havingCompiled, rfl⟩
      distinct := distinctCompiled
      order := orderCompiled
      limit := rfl
      offset := rfl
    }
  · intro built
    obtain ⟨having, havingCompiled, isHaving⟩ := built.having
    rw [selectBody, built.items, built.filter, built.groups, havingCompiled,
      built.distinct, built.order]
    cases body
    cases isHaving
    cases built.limit
    cases built.offset
    rfl

section BuiltFrom

variable
  {schema : Schema}
  {query : Query}
  {body : SelectBody}
  (built : body.BuiltFrom schema query)

include built

theorem SelectBody.BuiltFrom.groups_eq_nil_iff :
    body.groups = [] ↔ query.groups = [] :=
  mapM_eq_nil_iff built.groups

theorem SelectBody.BuiltFrom.having_eq_none_iff :
    body.having = none ↔ query.having = [] := by
  obtain ⟨terms, compiled, isHaving⟩ := built.having
  rw [isHaving, Expr.allOf?_eq_none_iff, mapM_eq_nil_iff compiled]

theorem SelectBody.BuiltFrom.distinct_eq_none_iff :
    body.distinct = .none ↔ query.distinct = .none := by
  have compiled := built.distinct
  cases isDistinct : query.distinct with
  | none | all =>
      rw [isDistinct] at compiled
      simp [← Except.ok.inj compiled]
  | on targets =>
      rw [isDistinct] at compiled
      obtain ⟨exprs, -, isOn⟩ := map_eq_ok.mp compiled
      simp [← isOn]

end BuiltFrom

/-- A select without its order and its window. -/
def SelectBody.unwindowed
    (body : SelectBody) :
    SelectBody :=
  { body with
    order := []
    limit := none
    offset := none }

/-- The one item of a select that counts. -/
def countItems : List Item :=
  [⟨.countAll, some "count"⟩]

/-- The select that counts the rows of another one. -/
def countingOf
    (table : String)
    (body : SelectBody) :
    Select :=
  if !body.groups.isEmpty || body.distinct.isSet then
    .fromSelect (.fromTable table body.unwindowed) "counted"
      { items := countItems }
  else
    .fromTable table { body.unwindowed with items := countItems }

theorem countingOf_plain
    {table : String}
    {body : SelectBody}
    (noGroups : body.groups = [])
    (noDistinct : body.distinct = .none) :
    countingOf table body =
      .fromTable table { body.unwindowed with items := countItems } := by
  simp [countingOf, noGroups, noDistinct, Distinct.isSet]

theorem countingOf_wrapped
    {table : String}
    {body : SelectBody}
    (wrapped : body.groups ≠ [] ∨ body.distinct ≠ .none) :
    countingOf table body =
      .fromSelect (.fromTable table body.unwindowed) "counted"
        { items := countItems } := by
  refine if_pos ?_
  rcases wrapped with someGroups | someDistinct
  · simp [someGroups]
  · cases isDistinct : body.distinct with
    | none =>
        exact absurd isDistinct someDistinct
    | all | on =>
        simp [Distinct.isSet]

theorem compileCount_eq_ok
    {query : Query}
    {statement : Statement} :
    compileCount query = .ok statement ↔
      ∃ body, body.BuiltFrom query.schema query ∧
        statement = .select (countingOf query.schema.storage body) := by
  rw [compileCount, bind_eq_ok]
  have counted :
      ∀ body : SelectBody,
        (if !body.groups.isEmpty || body.distinct.isSet then
            (pure (.select (.fromSelect
                (.fromTable query.schema.storage body.unwindowed) "counted"
                { items := countItems })) :
              Except QueryError Statement)
          else
            pure (.select (.fromTable query.schema.storage
              { body.unwindowed with items := countItems }))) =
          .ok (.select (countingOf query.schema.storage body)) := by
    intro body
    unfold countingOf
    split <;> rfl
  constructor
  · rintro ⟨body, compiled, isStatement⟩
    have same := Except.ok.inj ((counted body).symm.trans isStatement)
    exact ⟨body, selectBody_eq_ok.mp compiled, same.symm⟩
  · rintro ⟨body, built, rfl⟩
    exact ⟨body, selectBody_eq_ok.mpr built, counted body⟩

theorem compile_select_eq_ok
    {query : Query}
    (isSelect : query.kind = .select)
    {statement : Statement} :
    compile query = .ok statement ↔
      ∃ body, body.BuiltFrom query.schema query ∧
        statement = .select (.fromTable query.schema.storage body) := by
  rw [compile, isSelect, bind_eq_ok]
  constructor
  · rintro ⟨body, compiled, same⟩
    exact ⟨body, selectBody_eq_ok.mp compiled, (Except.ok.inj same).symm⟩
  · rintro ⟨body, built, rfl⟩
    exact ⟨body, selectBody_eq_ok.mpr built, rfl⟩

end Sql

end PolyQuery
