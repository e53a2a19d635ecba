import PolyQuery.Proofs.Sql.Relations
import PolyQuery.Proofs.Sql.SelectClauses

namespace PolyQuery

open Failing

/-!
# Counted rows

The number that a count answers is that of the rows which the select of the same
query answers without its window. A select with groups, or with rows told apart,
is counted row by row as the source of another one. Any other select has its
items replaced by the count, which makes one group of all of its rows. That is
what a condition on groups does as well, so under such a condition the count is
that of the rows in the one group, and there is none if the condition fails.
-/

namespace Sql

section Firsts

variable
  {α κ : Type}
  [DecidableEq κ]
  (key : α → κ)

/-- There is one first item for each key that is not left out. -/
theorem length_firstsFrom
    (seen : List κ)
    (items : List α) :
    (firstsFrom key seen items).length =
      ((items.map key).toFinset \ seen.toFinset).card := by
  induction items generalizing seen with
  | nil =>
      simp [firstsFrom]
  | cons item rest inductionHypothesis =>
      rw [firstsFrom]
      split
      next again =>
        rw [inductionHypothesis, List.map_cons, List.toFinset_cons,
          Finset.insert_sdiff_of_mem _ (List.mem_toFinset.mpr again)]
      next isNew =>
        have notSeen : key item ∉ seen.toFinset := by simpa using isNew
        rw [List.length_cons, inductionHypothesis, List.map_cons,
          List.toFinset_cons, List.toFinset_cons,
          Finset.insert_sdiff_of_notMem _ notSeen, Finset.sdiff_insert,
          ← Finset.erase_insert_eq_erase,
          Finset.card_erase_add_one (Finset.mem_insert_self _ _)]

theorem length_firstsFrom_perm
    {items others : List α}
    (perm : items.Perm others) :
    (firstsFrom key [] items).length = (firstsFrom key [] others).length := by
  rw [length_firstsFrom, length_firstsFrom,
    List.toFinset_eq_of_perm _ _ (perm.map key)]

end Firsts

namespace SelectBody

variable
  {database : Database}
  {body : SelectBody}

/-- How many groups are told apart does not depend on their order. -/
theorem length_toldApart_perm
    {groups others : List (List Row)}
    (perm : groups.Perm others) :
    (body.toldApart database groups).length =
      (body.toldApart database others).length := by
  unfold toldApart
  cases body.distinct with
  | none =>
      exact perm.length_eq
  | all | on =>
      exact length_firstsFrom_perm _ perm

/-- Without a window there is a row for every group that is told apart. -/
theorem length_answers
    (noLimit : body.limit = none)
    (noOffset : body.offset = none)
    (rows : List Row) :
    (body.answers database rows).length =
      (body.toldApart database (body.kept database rows)).length := by
  simp only [answers, stretch, noLimit, noOffset, Option.getD_none,
    List.drop_zero, List.length_map]
  exact length_toldApart_perm (List.mergeSort_perm _ _)

/--
The order of a select does not change how many rows it has,
unless it aggregates.
-/
theorem length_answers_unwindowed
    (plainOrder : ∀ term ∈ body.order, term.1.aggregates database = false)
    (rows : List Row) :
    (body.unwindowed.answers database rows).length =
      (answers database { body with limit := none, offset := none }
        rows).length := by
  have sameAggregates :
      body.unwindowed.aggregates database =
        aggregates database { body with limit := none, offset := none } := by
    have noneAggregates :
        body.order.any (fun term => term.1.aggregates database) = false := by
      simpa using plainOrder
    simp [aggregates, unwindowed, noneAggregates]
  have sameKept :
      body.unwindowed.kept database rows =
        kept database { body with limit := none, offset := none } rows := by
    unfold kept grouped
    rw [sameAggregates]
    rfl
  rw [length_answers rfl rfl, length_answers rfl rfl, sameKept]
  rfl

/--
A select of the number of rows in the place of its items, without a window.
-/
def counting
    (body : SelectBody) :
    SelectBody :=
  { body.unwindowed with items := countItems }

/--
A select that counts has one group, of all rows, if the condition
on groups holds of it.
-/
theorem answers_counting
    (noGroups : body.groups = [])
    (noDistinct : body.distinct = .none)
    (rows : List Row) :
    body.counting.answers database rows =
      if database.holds (body.filtered database rows) body.having then
        [[.integer (body.filtered database rows).length]]
      else
        [] := by
  have counts : body.counting.aggregates database = true := by
    simp [counting, aggregates, countItems, Expr.aggregates, Expr.leaves]
  have oneGroup :
      body.counting.kept database rows =
        [body.filtered database rows].filter fun group =>
          database.holds group body.having := by
    have notGrouped : body.counting.groups.isEmpty = true := by
      simp [counting, unwindowed, noGroups]
    rw [kept, grouped, if_pos notGrouped, if_pos counts]
    rfl
  have isDistinct : body.counting.distinct = .none := noDistinct
  rw [answers, oneGroup, toldApart, isDistinct]
  cases holds : database.holds (body.filtered database rows) body.having with
  | false =>
      simp [holds, counting, stretch, unwindowed]
  | true =>
      simp [holds, counting, stretch, unwindowed, resultRow, countItems,
        Expr.valueIn]

/-- The rows of a subquery are counted one by one. -/
theorem answers_count_of_all
    (rows : List Row) :
    answers database { items := countItems } rows =
      [[.integer rows.length]] := by
  have allRows : ({} : SelectBody).filtered database rows = rows := by
    simp [filtered, Database.holds]
  have counted :
      answers database { items := countItems } rows =
        [[.integer (({} : SelectBody).filtered database rows).length]] :=
    @answers_counting database {} rfl rfl rows
  rw [counted, allRows]

section Ungrouped

variable
  (noGroups : body.groups = [])
  (noDistinct : body.distinct = .none)

include noGroups noDistinct

theorem length_answers_ungrouped
    (rows : List Row) :
    (body.unwindowed.answers database rows).length =
      ((if body.unwindowed.aggregates database then
          [body.filtered database rows]
        else
          (body.filtered database rows).map fun row => [row]).filter
        fun group => database.holds group body.having).length := by
  have isDistinct : body.unwindowed.distinct = .none := noDistinct
  have notGrouped : body.unwindowed.groups.isEmpty = true := by
    simp [unwindowed, noGroups]
  rw [length_answers rfl rfl, toldApart, isDistinct, kept, grouped,
    if_pos notGrouped]
  rfl

/-- Rows that nothing puts together are those that the filter holds of. -/
theorem length_answers_apart
    (noHaving : body.having = none)
    (plainItems : ∀ item ∈ body.items, item.expr.aggregates database = false)
    (rows : List Row) :
    (body.unwindowed.answers database rows).length =
      (body.filtered database rows).length := by
  have noAggregate : body.unwindowed.aggregates database = false := by
    simpa [aggregates, unwindowed, noHaving] using plainItems
  rw [length_answers_ungrouped noGroups noDistinct, noAggregate, noHaving]
  simp [Database.holds]

/--
Under a condition on groups, rows without groups make one row, if
the condition holds.
-/
theorem length_answers_together
    (someHaving : body.having.isSome = true)
    (rows : List Row) :
    (body.unwindowed.answers database rows).length =
      if database.holds (body.filtered database rows) body.having then
        1
      else
        0 := by
  have aggregated : body.unwindowed.aggregates database = true := by
    simp [aggregates, unwindowed, someHaving]
  rw [length_answers_ungrouped noGroups noDistinct, aggregated, if_pos rfl]
  cases holds : database.holds (body.filtered database rows) body.having <;>
    simp [holds]

end Ungrouped

end SelectBody

section Compiled

variable
  {query : Query}
  {schema : Schema}
  {body : SelectBody}
  {database : Database}

/-- The expression of a target that is no fragment is a column. -/
theorem aggregates_targetOf
    {target : Target}
    {expr : Expr}
    (noFragment : target.fragment? = none)
    (compiled : targetOf schema target = .ok expr) :
    expr.aggregates database = false := by
  cases target with
  | field name =>
      obtain ⟨column, -, rfl⟩ := map_eq_ok.mp compiled
      rfl
  | raw sql =>
      cases noFragment

variable (built : body.BuiltFrom schema query)

include built

theorem SelectBody.BuiltFrom.plain_items
    (projected : ∀ target ∈ query.projection, target.fragment? = none) :
    ∀ item ∈ body.items, item.expr.aggregates database = false := by
  intro item member
  have compiled := built.items
  unfold selectItems at compiled
  split at compiled
  next =>
    rw [← Except.ok.inj compiled] at member
    obtain ⟨field, -, rfl⟩ := List.mem_map.mp member
    rfl
  next =>
    obtain ⟨target, targetMember, isItem⟩ :=
      exists_item_of_mem_mapM compiled member
    obtain ⟨expr, isExpr, rfl⟩ := map_eq_ok.mp isItem
    exact aggregates_targetOf (projected target targetMember) isExpr

theorem SelectBody.BuiltFrom.plain_order
    (ordered : ∀ term ∈ query.order, term.target.fragment? = none) :
    ∀ term ∈ body.order, term.1.aggregates database = false := by
  intro pair member
  obtain ⟨term, termMember, isPair⟩ :=
    exists_item_of_mem_mapM built.order member
  obtain ⟨expr, isExpr, rfl⟩ := map_eq_ok.mp isPair
  exact aggregates_targetOf (ordered term termMember) isExpr

end Compiled

/--
Counts count the rows of the data.

For every select that projects and orders by fields, and every database: the one
number of the count is that of the rows that the select answers without its
window, unless it has a condition on groups without groups and without telling
rows apart. Then the select has at most one row, and the count for that row is
how many rows of the table the filter holds of.
-/
theorem count_counts_rows
    (database : Database)
    (query : Query)
    (isSelect : query.kind = .select)
    (projected : ∀ target ∈ query.projection, target.fragment? = none)
    (ordered : ∀ term ∈ query.order, term.target.fragment? = none)
    (data : Select)
    (compiled : compile query = .ok (.select data)) :
    ∃ counting, compileCount query = .ok (.select counting) ∧
      (query.groups ≠ [] ∨ query.having = [] ∨ query.distinct ≠ .none →
        counting.answers database =
          [[.integer (data.withoutWindow.answers database).length]]) ∧
      (query.groups = [] → query.having ≠ [] → query.distinct = .none →
        ∃ restriction, whereClause? query.schema query = .ok restriction ∧
          (data.withoutWindow.answers database).length ≤ 1 ∧
            counting.answers database =
              (data.withoutWindow.answers database).map fun _ =>
                [.integer
                  ((database.rows query.schema.storage).filter fun row =>
                    database.holds [row] restriction).length]) := by
  obtain ⟨body, built, isData⟩ := (compile_select_eq_ok isSelect).mp compiled
  cases isData
  have sameLength :
      (body.unwindowed.answers database
          (database.rows query.schema.storage)).length =
        ((Select.fromTable query.schema.storage body).withoutWindow.answers
          database).length :=
    SelectBody.length_answers_unwindowed (built.plain_order ordered) _
  refine ⟨countingOf query.schema.storage body,
    compileCount_eq_ok.mpr ⟨body, built, rfl⟩, ?_, ?_⟩
  · intro countable
    by_cases wrapped : body.groups ≠ [] ∨ body.distinct ≠ .none
    · rw [countingOf_wrapped wrapped, ← sameLength]
      exact (SelectBody.answers_count_of_all _).trans
        (by rw [List.length_map]; rfl)
    · rw [not_or, not_not, not_not] at wrapped
      obtain ⟨noGroups, noDistinct⟩ := wrapped
      have noHaving : body.having = none := by
        refine built.having_eq_none_iff.mpr ?_
        rcases countable with someGroups | noHaving | someDistinct
        · exact absurd (built.groups_eq_nil_iff.mp noGroups) someGroups
        · exact noHaving
        · exact absurd (built.distinct_eq_none_iff.mp noDistinct) someDistinct
      rw [countingOf_plain noGroups noDistinct, ← sameLength,
        SelectBody.length_answers_apart noGroups noDistinct noHaving
          (built.plain_items projected) _]
      refine (SelectBody.answers_counting noGroups noDistinct _).trans ?_
      rw [noHaving]
      rfl
  · intro noGroups someHaving noDistinct
    replace noGroups := built.groups_eq_nil_iff.mpr noGroups
    replace noDistinct := built.distinct_eq_none_iff.mpr noDistinct
    have isSome : body.having.isSome = true :=
      Option.isSome_iff_ne_none.mpr (mt built.having_eq_none_iff.mp someHaving)
    have together :
        (body.unwindowed.answers database
            (database.rows query.schema.storage)).length =
          if database.holds
              (body.filtered database (database.rows query.schema.storage))
              body.having then 1 else 0 :=
      SelectBody.length_answers_together noGroups noDistinct isSome _
    rw [sameLength] at together
    refine ⟨body.filter, built.filter, ?_, ?_⟩
    · rw [together]
      split <;> decide
    · rw [countingOf_plain noGroups noDistinct]
      refine (SelectBody.answers_counting noGroups noDistinct _).trans ?_
      cases holds :
          database.holds
            (body.filtered database (database.rows query.schema.storage))
            body.having with
      | true =>
          rw [holds, if_pos rfl] at together
          obtain ⟨row, isRow⟩ := List.length_eq_one_iff.mp together
          rw [isRow]
          rfl
      | false =>
          rw [holds] at together
          rw [List.length_eq_zero_iff.mp together]
          rfl

/--
A table of two points of one size, over which the rows of a
group can be counted.
-/
def twoPoints : Database where
  rows _ := [fun _ => .integer 1, fun _ => .integer 1]
  compare left right :=
    match left, right with
    | .integer first, .integer second => some (Ord.compare first second)
    | _, _ => none
  patternMatches _ _ _ := none
  canonical := id
  order _ _ := .eq
  fragment _ group := .integer group.length
  isAggregate sql := sql = "count(*)"

/--
The sizes of points that are met more than once, or of all points if there are.
-/
def repeatedPoints
    (groups : List Target) :
    Query :=
  {
    projection := [.field "size"]
    groups := groups
    having := [⟨.raw "count(*)", ⟨"gt", .ofInt 1⟩⟩]
    order := [⟨.field "size", .descending⟩]
    limit := some 1
    kind := .select
    schema := {
      name := "point"
      storageName := none
      fields :=
        [⟨"id", none, true, none, none⟩, ⟨"size", none, false, none, none⟩]
    }
    values := none
  }

theorem count_counts_rows_of_repeatedPoints :
    ∃ data counting,
      compile (repeatedPoints [.field "size"]) = .ok (.select data) ∧
        compileCount (repeatedPoints [.field "size"]) = .ok (.select counting) ∧
          counting.answers twoPoints =
            [[.integer (data.withoutWindow.answers twoPoints).length]] := by
  obtain ⟨counting, isCounting, counts, -⟩ :=
    count_counts_rows twoPoints (repeatedPoints [.field "size"]) rfl (by decide)
      (by decide) _ rfl
  exact ⟨_, counting, rfl, isCounting, counts (.inl (by decide))⟩

/--
A select that puts all rows together has one row, but its count
is that of the rows.
-/
theorem rows_together_counted_apart :
    ∃ data counting,
      compile (repeatedPoints []) = .ok (.select data) ∧
        compileCount (repeatedPoints []) = .ok (.select counting) ∧
          counting.answers twoPoints ≠
            [[.integer (data.withoutWindow.answers twoPoints).length]] := by
  obtain ⟨body, isBody, noGroups, noDistinct, someHaving, holds, passing,
      plainOrder⟩ :
      ∃ body,
        selectBody (repeatedPoints []).schema (repeatedPoints []) = .ok body ∧
          body.groups = [] ∧
            body.distinct = .none ∧
              body.having.isSome = true ∧
                twoPoints.holds
                  (body.filtered twoPoints (twoPoints.rows "point"))
                  body.having =
                    true ∧
                  (body.filtered twoPoints (twoPoints.rows "point")).length =
                      2 ∧
                    ∀ term ∈ body.order, term.1.aggregates twoPoints = false :=
    ⟨_, rfl, rfl, rfl, rfl, by decide, rfl, by decide⟩
  have built := selectBody_eq_ok.mp isBody
  have oneRow :
      ((Select.fromTable "point" body).withoutWindow.answers twoPoints).length =
        1 := by
    refine (SelectBody.length_answers_unwindowed plainOrder _).symm.trans ?_
    rw [SelectBody.length_answers_together noGroups noDistinct someHaving,
      if_pos holds]
  have twoCounted :
      (countingOf "point" body).answers twoPoints = [[.integer 2]] := by
    rw [countingOf_plain noGroups noDistinct]
    refine (SelectBody.answers_counting noGroups noDistinct _).trans ?_
    rw [if_pos holds, passing]
    rfl
  refine ⟨.fromTable "point" body, countingOf "point" body,
    (compile_select_eq_ok rfl).mpr ⟨body, built, rfl⟩,
    compileCount_eq_ok.mpr ⟨body, built, rfl⟩, ?_⟩
  rw [oneRow, twoCounted]
  decide

end Sql

end PolyQuery
