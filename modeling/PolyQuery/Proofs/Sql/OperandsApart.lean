import PolyQuery.Proofs.Computation.Alike
import PolyQuery.Proofs.Sql.ReplacedStatements

namespace PolyQuery

open Failing

/-!
# Operands stay out of the text

Two queries that are equal up to an exchange of scalars in their operands and
values are compiled alike: both fail with one cause, or both become statements
that are equal up to the exchange. So no operand reaches the text of a
statement, in any dialect, be it by its value or by the way it is named.
-/

/-- The same condition of a replaced operand. -/
structure Condition.Replaced
    (exchanged : Json → Json → Prop)
    (left right : Condition) :
    Prop where
  sameTag : left.tag = right.tag
  operand : left.operand.Replaced exchanged right.operand

/-- The same demands on a field with replaced operands. -/
inductive FieldFilter.Replaced
    (exchanged : Json → Json → Prop) :
    FieldFilter →
    FieldFilter →
    Prop where
  | equals
      {left right : Json}
      (value : left.Replaced exchanged right) :
      Replaced exchanged (.equals left) (.equals right)
  | conditions
      {left right : List Condition}
      (list : List.Forall₂ (Condition.Replaced exchanged) left right) :
      Replaced exchanged (.conditions left) (.conditions right)

/-- The same condition on groups of a replaced operand. -/
structure GroupCondition.Replaced
    (exchanged : Json → Json → Prop)
    (left right : GroupCondition) :
    Prop where
  sameTarget : left.target = right.target
  condition : left.condition.Replaced exchanged right.condition

/-- Rows of the same fields with replaced values. -/
inductive Mutation.Replaced
    (exchanged : Json → Json → Prop) :
    Mutation →
    Mutation →
    Prop where
  | single
      {left right : Document}
      (row : left.Replaced exchanged right) :
      Replaced exchanged (.single left) (.single right)
  | batch
      {left right : List Document}
      (rows : List.Forall₂ (Document.Replaced exchanged) left right) :
      Replaced exchanged (.batch left) (.batch right)

/--
Queries that are equal up to an exchange of scalars in their
operands and values.
-/
structure Query.Replaced
    (exchanged : Json → Json → Prop)
    (left right : Query) :
    Prop where
  filter :
    Entries.Alike Eq (FieldFilter.Replaced exchanged) left.filter right.filter
  alternatives :
    Entries.Alike Eq (List.Forall₂ (Condition.Replaced exchanged))
      left.alternatives right.alternatives
  having :
    List.Forall₂ (GroupCondition.Replaced exchanged) left.having right.having
  values : Option.Rel (Mutation.Replaced exchanged) left.values right.values
  same :
    right =
      { left with
        filter := right.filter
        alternatives := right.alternatives
        having := right.having
        values := right.values }

namespace FieldFilter.Replaced

variable
  {exchanged : Json → Json → Prop}
  {left right : FieldFilter}

theorem toConditions
    (asked : left.Replaced exchanged right) :
    List.Forall₂ (Condition.Replaced exchanged) left.toConditions
      right.toConditions := by
  cases asked with
  | equals value =>
      exact .cons ⟨rfl, value⟩ .nil
  | conditions list =>
      exact list

end FieldFilter.Replaced

namespace Condition.Replaced

variable
  {exchanged : Json → Json → Prop}
  {left right : Condition}

theorem operator_eq
    (replaced : left.Replaced exchanged right) :
    left.operator = right.operator := by
  rw [operator, operator, replaced.sameTag]

theorem alternativeOperands
    (operator : Operator)
    {operand operandToo : Json}
    (replaced : operand.Replaced exchanged operandToo) :
    List.Forall₂ (Json.Replaced exchanged)
      (alternativeOperands operator operand)
      (alternativeOperands operator operandToo) := by
  cases replaced with
  | list items =>
      have nestedAlike : ∀ {lefts rights : List Json},
          List.Forall₂ (Json.Replaced exchanged) lefts rights →
            lefts.all Json.isArray = rights.all Json.isArray := by
        intro lefts rights related
        induction related with
        | nil =>
            rfl
        | cons headReplaced _ inductionHypothesis =>
            rw [List.all_cons, List.all_cons, headReplaced.isArray_eq,
              inductionHypothesis]
      unfold Condition.alternativeOperands
      dsimp only
      rw [Entries.isEmpty_eq_of_forall₂ items, nestedAlike items]
      split
      · exact items
      · split
        · exact items
        · exact .cons (.list items) .nil
  | figure leftFigure rightFigure given =>
      have single :=
        List.Forall₂.cons (Json.Replaced.figure leftFigure rightFigure given)
          .nil
      cases operand <;> cases leftFigure <;> cases operandToo <;>
        cases rightFigure <;> exact single
  | null =>
      exact .cons .null .nil
  | text given =>
      exact .cons (.text given) .nil
  | object names members =>
      exact .cons (.object names members) .nil

theorem disjuncts
    (replaced : left.Replaced exchanged right) :
    Alike Eq
      (List.Forall₂ fun disjunct other =>
        disjunct.1 = other.1 ∧ disjunct.2.Replaced exchanged other.2)
      left.disjuncts right.disjuncts := by
  rw [Condition.disjuncts, Condition.disjuncts, replaced.operator_eq]
  refine Alike.after (fun _ => rfl) fun operator _ => ?_
  refine .ok (List.rel_map (fun _ _ operand => ⟨rfl, operand⟩) ?_)
  exact alternativeOperands operator replaced.operand

end Condition.Replaced

namespace Sql

section Unchanged

variable
  (exchanged : Json → Json → Prop)
  (schema : Schema)

theorem column_alike
    (field : String) :
    Alike Eq (Expr.Replaced exchanged) (columnOf schema field)
      (columnOf schema field) := by
  apply Alike.refl (fun _ => rfl)
  intro expr isColumn
  obtain ⟨column, -, rfl⟩ := map_eq_ok.mp isColumn
  exact .column _ _

theorem target_alike
    (target : Target) :
    Alike Eq (Expr.Replaced exchanged) (targetOf schema target)
      (targetOf schema target) := by
  cases target with
  | field name =>
      exact column_alike exchanged schema name
  | raw expression =>
      exact .ok (.raw expression)

theorem selectItems_alike
    (projection : List Target) :
    Alike Eq (List.Forall₂ (Item.Replaced exchanged))
      (selectItems schema projection) (selectItems schema projection) := by
  unfold selectItems
  split
  · apply Alike.ok
    rw [List.forall₂_map_left_iff, List.forall₂_map_right_iff,
      List.forall₂_same]
    intro field _
    exact ⟨.column _ _, rfl⟩
  · refine Alike.mapM_of_mem fun target _ => ?_
    exact (target_alike exchanged schema target).map fun _ _ expr => ⟨expr, rfl⟩

theorem targets_alike
    (targets : List Target) :
    Alike Eq (List.Forall₂ (Expr.Replaced exchanged))
      (targets.mapM (targetOf schema)) (targets.mapM (targetOf schema)) :=
  Alike.mapM_of_mem fun target _ => target_alike exchanged schema target

theorem distinct_alike
    (distinct : Distinctness) :
    Alike Eq (Distinct.Replaced exchanged) (distinctOf schema distinct)
      (distinctOf schema distinct) := by
  cases distinct with
  | none =>
      exact .ok .none
  | all =>
      exact .ok .all
  | on targets =>
      exact (targets_alike exchanged schema targets).map
        fun _ _ exprs => .on exprs

theorem order_alike
    (order : List OrderTerm) :
    Alike Eq
      (List.Forall₂ fun (term other : Expr × Direction) =>
        term.1.Replaced exchanged other.1 ∧ term.2 = other.2)
      (order.mapM fun term =>
        (targetOf schema term.target).map fun expr => (expr, term.direction))
      (order.mapM fun term =>
        (targetOf schema term.target).map fun expr =>
          (expr, term.direction)) := by
  refine Alike.mapM_of_mem fun term _ => ?_
  exact (target_alike exchanged schema term.target).map
    fun _ _ expr => ⟨expr, rfl⟩

end Unchanged

variable {exchanged : Json → Json → Prop}

/-- A predicate looks at its operand only as far as an exchange leaves it. -/
theorem predicate_alike
    (field : String)
    {subject subjectToo : Expr}
    (subjects : subject.Replaced exchanged subjectToo)
    (base : String)
    (operator : Operator)
    {left right : Json}
    (value : left.Replaced exchanged right) :
    Alike Eq (Expr.Replaced exchanged)
      (predicate field subject base operator left)
      (predicate field subjectToo base operator right) := by
  have operands := Expr.Replaced.operand base value
  have lists := value.array?_replaced
  have sameText := value.isSome_string?_eq
  unfold predicate
  dsimp only
  rw [value.isNull_eq]
  generalize left.array? = items at lists ⊢
  generalize right.array? = itemsToo at lists ⊢
  generalize left.string? = text at sameText ⊢
  generalize right.string? = textToo at sameText ⊢
  cases operator with
  | equal | notEqual =>
      dsimp only
      split
      · exact .ok (.isNull subjects _)
      · exact .ok (.comparison subjects _ operands)
  | greater | atLeast | less | atMost =>
      exact .ok (.comparison subjects _ operands)
  | oneOf | noneOf =>
      cases lists with
      | none =>
          exact .error rfl
      | some itemsReplaced =>
          cases itemsReplaced with
          | nil =>
              exact .ok (.constant _)
          | cons first rest =>
              refine .ok (.inList subjects _ ?_)
              exact List.rel_map (fun _ _ item => .operand base item)
                (.cons first rest)
  | like | likeIgnoringCase =>
      cases text with
      | none =>
          cases textToo with
          | none =>
              exact .error rfl
          | some _ =>
              cases sameText
      | some _ =>
          cases textToo with
          | none =>
              cases sameText
          | some _ =>
              exact .ok (.like subjects _ operands)
  | between =>
      cases lists with
      | none =>
          exact .error rfl
      | some bounds =>
          -- Only a list of exactly two bounds makes a range.
          rcases bounds with _ | ⟨low, _ | ⟨high, _ | _⟩⟩
          · exact .error rfl
          · exact .error rfl
          · exact .ok
              (.between subjects (.operand base low) (.operand base high))
          · exact .error rfl

section Clauses

variable (schema : Schema)

theorem fieldTerms_alike
    (field : String)
    {left right : FieldFilter}
    (asked : left.Replaced exchanged right) :
    Alike Eq (List.Forall₂ (Expr.Replaced exchanged))
      (fieldTerms schema field left) (fieldTerms schema field right) := by
  refine Alike.after (fun _ => rfl) fun column _ => ?_
  refine Alike.mapM asked.toConditions fun condition conditionToo replaced => ?_
  rw [replaced.operator_eq]
  refine Alike.after (fun _ => rfl) fun operator _ => ?_
  exact predicate_alike field (.column _ column) column operator
    replaced.operand

theorem groupTerm_alike
    (field : String)
    {left right : List Condition}
    (conditions : List.Forall₂ (Condition.Replaced exchanged) left right) :
    Alike Eq (Option.Rel (Expr.Replaced exchanged))
      (groupTerm? schema field left) (groupTerm? schema field right) := by
  refine Alike.after (fun _ => rfl) fun column _ => ?_
  have alternatives :
      Alike Eq (List.Forall₂ (List.Forall₂ (Expr.Replaced exchanged)))
        (left.mapM fun condition => do
          let disjuncts ← condition.disjuncts
          disjuncts.mapM fun disjunct =>
            predicate field (.column (some schema.storage) column) column
              disjunct.1 disjunct.2)
        (right.mapM fun condition => do
          let disjuncts ← condition.disjuncts
          disjuncts.mapM fun disjunct =>
            predicate field (.column (some schema.storage) column) column
              disjunct.1 disjunct.2) := by
    refine Alike.mapM conditions fun condition conditionToo replaced => ?_
    refine replaced.disjuncts.bind
      fun disjuncts disjunctsToo disjunctsReplaced => ?_
    refine Alike.mapM disjunctsReplaced fun disjunct disjunctToo both => ?_
    rw [both.1]
    exact predicate_alike field (.column _ column) column _ both.2
  refine alternatives.bind fun terms termsToo termsReplaced => ?_
  exact .ok (Expr.Replaced.anyOf? (List.rel_flatten termsReplaced))

variable
  {left right : Query}
  (replaced : left.Replaced exchanged right)

include replaced

theorem whereClause_alike :
    Alike Eq (Option.Rel (Expr.Replaced exchanged)) (whereClause? schema left)
      (whereClause? schema right) := by
  have terms :
      Alike Eq (List.Forall₂ (List.Forall₂ (Expr.Replaced exchanged)))
        (left.filter.mapM fun entry => fieldTerms schema entry.1 entry.2)
        (right.filter.mapM fun entry => fieldTerms schema entry.1 entry.2) := by
    refine Alike.mapM replaced.filter fun entry entryToo both => ?_
    rw [both.1]
    exact fieldTerms_alike schema entryToo.1 both.2
  have groups :
      Alike Eq (List.Forall₂ (Option.Rel (Expr.Replaced exchanged)))
        (left.alternatives.mapM fun entry => groupTerm? schema entry.1 entry.2)
        (right.alternatives.mapM fun entry =>
          groupTerm? schema entry.1 entry.2) := by
    refine Alike.mapM replaced.alternatives fun entry entryToo both => ?_
    rw [both.1]
    exact groupTerm_alike schema entryToo.1 both.2
  refine terms.bind fun _ _ termsReplaced =>
    groups.bind fun _ _ groupsReplaced => ?_
  refine .ok
    (Expr.Replaced.allOf? (List.rel_append (List.rel_flatten termsReplaced) ?_))
  exact List.rel_filterMap (fun _ _ group => group) groupsReplaced

omit replaced in
theorem havingTerm_alike
    {left right : GroupCondition}
    (replaced : left.Replaced exchanged right) :
    Alike Eq (Expr.Replaced exchanged) (havingTerm schema left)
      (havingTerm schema right) := by
  rw [havingTerm, havingTerm, replaced.condition.operator_eq,
    replaced.sameTarget]
  refine Alike.after (fun _ => rfl) fun operator _ => ?_
  have subjects :
      Alike Eq (Expr.Replaced exchanged) (targetOf schema right.target)
        (targetOf schema right.target) :=
    target_alike exchanged schema right.target
  refine subjects.bind fun subject subjectToo subjectReplaced => ?_
  refine Alike.after (fun _ => rfl) fun base _ => ?_
  exact predicate_alike _ subjectReplaced base operator
    replaced.condition.operand

theorem selectBody_alike :
    Alike Eq (SelectBody.Replaced exchanged) (selectBody schema left)
      (selectBody schema right) := by
  have sameProjection : right.projection = left.projection :=
    congrArg (fun query => query.projection) replaced.same
  have sameGroups : right.groups = left.groups :=
    congrArg (fun query => query.groups) replaced.same
  have sameDistinct : right.distinct = left.distinct :=
    congrArg (fun query => query.distinct) replaced.same
  have sameOrder : right.order = left.order :=
    congrArg (fun query => query.order) replaced.same
  have sameLimit : right.rowLimit = left.rowLimit :=
    (congrArg Query.rowLimit replaced.same).trans rfl
  have sameOffset : right.offset = left.offset :=
    congrArg (fun query => query.offset) replaced.same
  rw [selectBody, selectBody, sameProjection, sameGroups, sameDistinct,
    sameOrder, sameLimit, sameOffset]
  refine (selectItems_alike exchanged schema left.projection).bind
    fun _ _ items => ?_
  refine (whereClause_alike schema replaced).bind fun _ _ filter => ?_
  refine (targets_alike exchanged schema left.groups).bind fun _ _ groups => ?_
  refine (Alike.mapM replaced.having fun _ _ => havingTerm_alike schema).bind
    fun _ _ having => ?_
  refine (distinct_alike exchanged schema left.distinct).bind
    fun _ _ distinct => ?_
  refine (order_alike exchanged schema left.order).bind fun _ _ order => ?_
  exact .ok {
    items := items
    distinct := distinct
    filter := filter
    groups := groups
    having := Expr.Replaced.allOf? having
    order := order
    sameLimit := rfl
    sameOffset := rfl
  }

end Clauses

section Writes

variable
  (schema : Schema)
  {left right : Query}

theorem valuesInOrder_alike
    (action : String)
    (names : List String)
    {row rowToo : Document}
    (rows : row.Replaced exchanged rowToo) :
    Alike Eq (List.Forall₂ (Json.Replaced exchanged))
      (valuesInOrder schema action names row)
      (valuesInOrder schema action names rowToo) := by
  unfold valuesInOrder
  rw [rows.length_eq]
  split
  · exact .error rfl
  · refine Alike.mapM_of_mem fun name _ => ?_
    have values := rows.get? Entries.oneToOne_eq (Eq.refl name)
    generalize Entries.get? row name = value at values ⊢
    generalize Entries.get? rowToo name = valueToo at values ⊢
    cases values with
    | none =>
        exact .error rfl
    | some value =>
        exact .ok value

theorem rows_replaced
    (replaced : left.Replaced exchanged right) :
    List.Forall₂ (Document.Replaced exchanged) left.rows right.rows := by
  have values := replaced.values
  unfold Query.rows
  generalize left.values = written at values ⊢
  generalize right.values = writtenToo at values ⊢
  cases values with
  | none =>
      exact .nil
  | some mutation =>
      cases mutation with
      | single row =>
          exact .cons row .nil
      | batch rows =>
          exact rows

theorem insert_alike
    (replaced : left.Replaced exchanged right) :
    Alike Eq (Insert.Replaced exchanged) (insertOf schema left)
      (insertOf schema right) := by
  have rows := rows_replaced replaced
  unfold insertOf
  generalize left.rows = written at rows ⊢
  generalize right.rows = writtenToo at rows ⊢
  cases rows with
  | nil =>
      exact .error rfl
  | cons first rest =>
      dsimp only
      rw [first.keys_eq]
      refine Alike.after (fun _ => rfl) fun columns _ => ?_
      refine
        (Alike.mapM (.cons first rest) fun _ _ =>
          valuesInOrder_alike schema "insert" _).bind fun _ _ values => ?_
      exact .ok ⟨rfl, rfl, values⟩

theorem keyedValues_alike
    (key : Field)
    (names : List String)
    {row rowToo : Document}
    (rows : row.Replaced exchanged rowToo) :
    Alike Eq
      (fun keyed other =>
        keyed.1.Replaced exchanged other.1 ∧
          List.Forall₂ (Json.Replaced exchanged) keyed.2 other.2)
      (keyedValues schema key names row)
        (keyedValues schema key names rowToo) := by
  have sameKey : key.name = key.name := rfl
  have identifiers := rows.get? Entries.oneToOne_eq sameKey
  have others := rows.erase Entries.oneToOne_eq sameKey
  unfold keyedValues
  generalize Entries.get? row key.name = identifier at identifiers ⊢
  generalize Entries.get? rowToo key.name = identifierToo at identifiers ⊢
  cases identifiers with
  | none =>
      exact .error rfl
  | some identifier =>
      refine (valuesInOrder_alike schema "update" names others).bind
        fun _ _ values => ?_
      exact .ok ⟨identifier, values⟩

theorem batchUpdate_alike
    {filter filterToo : Option Expr}
    (filters : Option.Rel (Expr.Replaced exchanged) filter filterToo)
    {first firstToo : Document}
    (firsts : first.Replaced exchanged firstToo)
    {rows rowsToo : List Document}
    (replaced : List.Forall₂ (Document.Replaced exchanged) rows rowsToo) :
    Alike Eq (Update.Replaced exchanged)
      (batchUpdateOf schema filter first rows)
      (batchUpdateOf schema filterToo firstToo rowsToo) := by
  unfold batchUpdateOf
  cases schema.primaryKey? with
  | none =>
      exact .error rfl
  | some key =>
      dsimp only
      rw [firsts.keys_eq]
      split
      · exact .error rfl
      · refine Alike.after (fun _ => rfl) fun columns _ => ?_
        refine
          (Alike.mapM replaced fun _ _ => keyedValues_alike schema key _).bind
          fun _ _ keyed => ?_
        exact .ok {
          sameTable := rfl
          sameColumns := rfl
          rows := List.rel_map (fun _ _ both => both.2) keyed
          filter := filters
          rowKey :=
            .some ⟨rfl, rfl, List.rel_map (fun _ _ both => both.1) keyed⟩
        }

theorem update_alike
    (replaced : left.Replaced exchanged right) :
    Alike Eq (Update.Replaced exchanged) (updateOf schema left)
      (updateOf schema right) := by
  have values := replaced.values
  unfold updateOf
  refine (whereClause_alike schema replaced).bind fun _ _ filter => ?_
  generalize left.values = written at values ⊢
  generalize right.values = writtenToo at values ⊢
  cases values with
  | none =>
      exact .error rfl
  | some mutation =>
      cases mutation with
      | single row =>
          dsimp only
          rw [row.keys_eq]
          refine Alike.after (fun _ => rfl) fun columns _ => ?_
          split
          · exact .error rfl
          · exact .ok ⟨rfl, rfl, .cons row.values_alike .nil, filter, .none⟩
      | batch rows =>
          cases rows with
          | nil =>
              exact .error rfl
          | cons first rest =>
              exact batchUpdate_alike schema filter first (.cons first rest)

end Writes

section Statements

variable
  {left right : Query}
  (replaced : left.Replaced exchanged right)

include replaced

theorem compile_alike :
    Alike Eq (Statement.Replaced exchanged) (compile left) (compile right) := by
  have sameKind : right.kind = left.kind :=
    congrArg (fun query => query.kind) replaced.same
  have sameSchema : right.schema = left.schema :=
    congrArg (fun query => query.schema) replaced.same
  rw [compile, compile, sameKind, sameSchema]
  cases left.kind with
  | select =>
      refine (selectBody_alike left.schema replaced).bind fun _ _ body => ?_
      exact .ok (.select (.fromTable _ body))
  | insert =>
      refine (insert_alike left.schema replaced).bind fun _ _ inserted => ?_
      exact .ok (.insert inserted)
  | update =>
      refine (update_alike left.schema replaced).bind fun _ _ updated => ?_
      exact .ok (.update updated)
  | delete =>
      refine (whereClause_alike left.schema replaced).bind fun _ _ filter => ?_
      exact .ok (.delete ⟨rfl, filter⟩)

theorem compileCount_alike :
    Alike Eq (Statement.Replaced exchanged) (compileCount left)
      (compileCount right) := by
  have sameSchema : right.schema = left.schema :=
    congrArg (fun query => query.schema) replaced.same
  rw [compileCount, compileCount, sameSchema]
  refine (selectBody_alike left.schema replaced).bind
    fun body bodyToo bodies => ?_
  have count : List.Forall₂ (Item.Replaced exchanged)
      [⟨.countAll, some "count"⟩] [⟨.countAll, some "count"⟩] :=
    .cons ⟨.countAll, rfl⟩ .nil
  have sameSet : body.distinct.isSet = bodyToo.distinct.isSet := by
    have distinct := bodies.distinct
    generalize body.distinct = told at distinct ⊢
    generalize bodyToo.distinct = toldToo at distinct ⊢
    cases distinct <;> rfl
  have unwindowed :
      SelectBody.Replaced exchanged
        { body with order := [], limit := none, offset := none }
        { bodyToo with order := [], limit := none, offset := none } :=
    { bodies with order := .nil, sameLimit := rfl, sameOffset := rfl }
  dsimp only
  rw [sameSet, Entries.isEmpty_eq_of_forall₂ bodies.groups]
  split
  · refine .ok (.select (.fromSelect (.fromTable _ unwindowed) _ ?_))
    exact {
      items := count
      distinct := .none
      filter := .none
      groups := .nil
      having := .none
      order := .nil
      sameLimit := rfl
      sameOffset := rfl
    }
  · exact .ok (.select (.fromTable _ { unwindowed with items := count }))

end Statements

end Sql

namespace Query

/--
The text of a statement does not depend on operands and values.

For two queries that are equal up to an exchange of scalars, and any dialect:
the statement, and the one that counts, exist for both or fail with one cause
for both. Their texts are equal, and the payloads have the same names in order
with values that differ by the exchange only.
-/
theorem operands_stay_out_of_text
    {exchanged : Json → Json → Prop}
    {left right : Query}
    (replaced : left.Replaced exchanged right)
    (dialect : Dialect) :
    Alike Eq (Sql.Rendered.Replaced exchanged) (left.toSql dialect)
        (right.toSql dialect) ∧
      Alike Eq (Sql.Rendered.Replaced exchanged) (left.countSql dialect)
        (right.countSql dialect) :=
  ⟨(Sql.compile_alike replaced).map fun _ _ statement =>
    statement.render dialect,
    (Sql.compileCount_alike replaced).map fun _ _ statement =>
      statement.render dialect⟩

/--
A batch update with a text and a figure in its filter, its
alternatives and its row.
-/
def labelling
    (label : String)
    (figure : Json) :
    Query :=
  {
    filter :=
      [("a",
        .conditions [⟨"in", .array [.null, .string label]⟩, ⟨"ne", .null⟩])]
    alternatives :=
      [("b", [⟨"like", .string label⟩, ⟨"gt", .array [figure, figure]⟩])]
    having := [⟨.raw "count(*)", ⟨"eq", figure⟩⟩]
    kind := .update
    schema := {
      name := "t"
      storageName := none
      fields := [⟨"id", none, true, none, none⟩, ⟨"a", none, false, none, none⟩,
        ⟨"b", some "b c", false, none, none⟩]
    }
    values :=
      some (.batch [[("id", figure), ("b", .array [.string label, .null])]])
  }

/--
A text becomes one that would end a literal, and a number becomes a truth value.
-/
inductive HostileExchange : Json → Json → Prop where
  | label : HostileExchange (.string "x") (.string "' OR 1 = 1 --")
  | figure : HostileExchange (.ofInt 7) (.bool true)

theorem operands_stay_out_of_text_of_labelling :
    Replaced HostileExchange (labelling "x" (.ofInt 7))
        (labelling "' OR 1 = 1 --" (.bool true)) ∧
      ((labelling "x" (.ofInt 7)).toSql .postgres).isOk = true ∧
      ((labelling "x" (.ofInt 7)).countSql .postgres).isOk = true ∧
      Alike Eq (Sql.Rendered.Replaced HostileExchange)
        ((labelling "x" (.ofInt 7)).toSql .postgres)
        ((labelling "' OR 1 = 1 --" (.bool true)).toSql .postgres) ∧
      Alike Eq (Sql.Rendered.Replaced HostileExchange)
        ((labelling "x" (.ofInt 7)).countSql .postgres)
        ((labelling "' OR 1 = 1 --" (.bool true)).countSql .postgres) := by
  have label :
      Json.Replaced HostileExchange (.string "x") (.string "' OR 1 = 1 --") :=
    .text .label
  have figure : Json.Replaced HostileExchange (.ofInt 7) (.bool true) :=
    .figure rfl rfl .figure
  have replaced :
      Replaced HostileExchange (labelling "x" (.ofInt 7))
        (labelling "' OR 1 = 1 --" (.bool true)) := {
    filter :=
      .cons
        ⟨rfl, .conditions
          (.cons ⟨rfl, .list (.cons .null (.cons label .nil))⟩
            (.cons ⟨rfl, .null⟩ .nil))⟩
        .nil
    alternatives :=
      .cons
        ⟨rfl,
          .cons ⟨rfl, label⟩
            (.cons ⟨rfl, .list (.cons figure (.cons figure .nil))⟩ .nil)⟩
        .nil
    having := .cons ⟨rfl, rfl, figure⟩ .nil
    values :=
      .some (.batch
        (.cons
          (.cons ⟨rfl, figure⟩
            (.cons ⟨rfl, .list (.cons label (.cons .null .nil))⟩ .nil))
          .nil))
    same := rfl
  }
  refine ⟨replaced, by decide +kernel, by decide +kernel, ?_⟩
  exact operands_stay_out_of_text replaced .postgres

end Query

end PolyQuery
