import PolyQuery.Sql.Expr

namespace PolyQuery

/-!
# Queries as relational statements

Field names become columns of the entity's table, conditions become predicates
and rows of values become one list of columns with one list of values each. A
name that the schema does not know is an error wherever it stands.
-/

namespace Sql

/-- The column of a field. -/
def columnOf
    (schema : Schema)
    (field : String) :
    Except QueryError Expr :=
  (schema.column field).map fun column => .column (some schema.storage) column

/-- The expression of a target. -/
def targetOf
    (schema : Schema) :
    Target →
    Except QueryError Expr
  | .field name => columnOf schema name
  | .raw expression => .ok (.raw expression)

/-- What operands compared with a target are named after. -/
def baseOf
    (schema : Schema) :
    Target →
    Except QueryError String
  | .field name => schema.column name
  | .raw _ => .ok "having"

/--
One predicate on a subject.

Equality with null asks whether the value is missing. Nothing is in an empty
list, so asking for it is a constant.
-/
def predicate
    (field : String)
    (subject : Expr)
    (base : String)
    (operator : Operator)
    (value : Json) :
    Except QueryError Expr :=
  let operand := Expr.operand base
  let compare :=
    fun sign => Except.ok (Expr.comparison subject sign (operand value))
  let invalid := fun reason =>
    Except.error (QueryError.invalidOperand field operator.tag reason)
  let membership := fun negated =>
    match value.array? with
    | none => invalid "expected a list"
    | some [] => .ok (.constant negated)
    | some items => .ok (.inList subject (items.map operand) negated)
  let pattern := fun ignoringCase =>
    match value.string? with
    | none => invalid "expected a string pattern"
    | some _ => .ok (.like subject (operand value) ignoringCase)
  match operator with
  | .equal =>
      if value.isNull then .ok (.isNull subject false) else compare .equal
  | .notEqual =>
      if value.isNull then .ok (.isNull subject true) else compare .notEqual
  | .greater => compare .greater
  | .atLeast => compare .atLeast
  | .less => compare .less
  | .atMost => compare .atMost
  | .oneOf => membership false
  | .noneOf => membership true
  | .like => pattern false
  | .likeIgnoringCase => pattern true
  | .between =>
      match value.array? with
      | some [low, high] => .ok (.between subject (operand low) (operand high))
      | _ => invalid "expected [low, high]"

/-- The predicates of one constrained field. -/
def fieldTerms
    (schema : Schema)
    (field : String)
    (asked : FieldFilter) :
    Except QueryError (List Expr) := do
  let column ← schema.column field
  asked.toConditions.mapM fun condition => do
    let operator ← condition.operator
    predicate field (.column (some schema.storage) column) column operator
      condition.operand

/-- The alternatives of one field, if it has any. -/
def groupTerm?
    (schema : Schema)
    (field : String)
    (conditions : List Condition) :
    Except QueryError (Option Expr) := do
  let column ← schema.column field
  let alternatives ← conditions.mapM fun condition => do
    let disjuncts ← condition.disjuncts
    disjuncts.mapM fun disjunct =>
      predicate field (.column (some schema.storage) column) column disjunct.1
        disjunct.2
  return Expr.anyOf? alternatives.flatten

/-- Every constraint and every group of alternatives together. -/
def whereClause?
    (schema : Schema)
    (query : Query) :
    Except QueryError (Option Expr) := do
  let terms ← query.filter.mapM fun entry => fieldTerms schema entry.1 entry.2
  let groups ←
    query.alternatives.mapM fun entry => groupTerm? schema entry.1 entry.2
  return Expr.allOf? (terms.flatten ++ groups.filterMap id)

/-- The predicate of one condition on groups. -/
def havingTerm
    (schema : Schema)
    (term : GroupCondition) :
    Except QueryError Expr := do
  let operator ← term.condition.operator
  let subject ← targetOf schema term.target
  let base ← baseOf schema term.target
  predicate term.target.label subject base operator term.condition.operand

/-- The columns of a result: those projected, or every field. -/
def selectItems
    (schema : Schema)
    (projection : List Target) :
    Except QueryError (List Item) :=
  if projection.isEmpty then
    .ok (schema.fields.map fun field =>
      ⟨.column (some schema.storage) field.storage, none⟩)
  else
    projection.mapM fun target => (targetOf schema target).map
      fun expr => ⟨expr, none⟩

/-- Which rows of the result count as repeated. -/
def distinctOf
    (schema : Schema) :
    Distinctness →
    Except QueryError Distinct
  | .none => .ok .none
  | .all => .ok .all
  | .on targets => (targets.mapM (targetOf schema)).map .on

/-- The clauses of a select. -/
def selectBody
    (schema : Schema)
    (query : Query) :
    Except QueryError SelectBody := do
  let items ← selectItems schema query.projection
  let filter ← whereClause? schema query
  let groups ← query.groups.mapM (targetOf schema)
  let having ← query.having.mapM (havingTerm schema)
  let distinct ← distinctOf schema query.distinct
  let order ← query.order.mapM fun term =>
    (targetOf schema term.target).map fun expr => (expr, term.direction)
  return {
    items := items
    distinct := distinct
    filter := filter
    groups := groups
    having := Expr.allOf? having
    order := order
    limit := query.rowLimit
    offset := query.offset
  }

/-- Why the rows of a batch cannot share one list of columns. -/
def unequalRows : String :=
  "batch rows must share one set of fields"

/--
The values of a row in the order of some fields, which must be exactly its own.
-/
def valuesInOrder
    (schema : Schema)
    (action : String)
    (names : List String)
    (row : Document) :
    Except QueryError (List Json) :=
  if row.length ≠ names.length then
    .error (.invalidOperand schema.name action unequalRows)
  else
    names.mapM fun name =>
      match row.get? name with
      | some value => .ok value
      | none => .error (.invalidOperand name action unequalRows)

/-- The insert of the rows of a query. -/
def insertOf
    (schema : Schema)
    (query : Query) :
    Except QueryError Insert := do
  match query.rows with
  | [] => .error (.invalidOperand schema.name "insert" "no rows to insert")
  | first :: rest =>
      let names := first.keys
      let columns ← names.mapM schema.column
      let rows ← (first :: rest).mapM (valuesInOrder schema "insert" names)
      return {
        table := schema.storage
        columns := columns
        rows := rows
      }

/--
The identifier of a row of a batch update, with the values that the row assigns.
-/
def keyedValues
    (schema : Schema)
    (key : Field)
    (names : List String)
    (row : Document) :
    Except QueryError (Json × List Json) := do
  match row.get? key.name with
  | none =>
      .error
        (.invalidOperand key.name "update"
          "every batch row needs its identifier")
  | some identifier =>
      let values ← valuesInOrder schema "update" names (row.erase key.name)
      return (identifier, values)

/-- The update of each row of a batch, found by its identifier. -/
def batchUpdateOf
    (schema : Schema)
    (filter : Option Expr)
    (first : Document)
    (rows : List Document) :
    Except QueryError Update := do
  match schema.primaryKey? with
  | none =>
      .error
        (.invalidOperand schema.name "update"
          "batch update needs an identifier field")
  | some key =>
      let names := first.keys.filter fun name => name ≠ key.name
      if names.isEmpty then
        .error (.invalidOperand schema.name "update" "no values to assign")
      else
        let columns ← names.mapM schema.column
        let keyed ← rows.mapM (keyedValues schema key names)
        return {
          table := schema.storage
          columns := columns
          rows := keyed.map Prod.snd
          filter := filter
          rowKey := some {
            table := schema.storage
            column := key.storage
            values := keyed.map Prod.fst
          }
        }

/-- The update by the values of a query. -/
def updateOf
    (schema : Schema)
    (query : Query) :
    Except QueryError Update := do
  let filter ← whereClause? schema query
  let nothing :=
    QueryError.invalidOperand schema.name "update" "no values to assign"
  match query.values with
  | none => .error nothing
  | some (.batch []) => .error nothing
  | some (.batch (first :: rest)) =>
      batchUpdateOf schema filter first (first :: rest)
  | some (.single row) =>
      let columns ← row.keys.mapM schema.column
      if columns.isEmpty then
        .error nothing
      else
        return {
          table := schema.storage
          columns := columns
          rows := [row.values]
          filter := filter
          rowKey := none
        }

/-- The statement of a query. -/
def compile
    (query : Query) :
    Except QueryError Statement := do
  let schema := query.schema
  match query.kind with
  | .select =>
      let body ← selectBody schema query
      return .select (.fromTable schema.storage body)
  | .insert =>
      let insert ← insertOf schema query
      return .insert insert
  | .update =>
      let update ← updateOf schema query
      return .update update
  | .delete =>
      let filter ← whereClause? schema query
      return .delete {
        table := schema.storage
        filter := filter
      }

/-- Whether equal rows are counted once. -/
def Distinct.isSet : Distinct → Bool
  | .none => false
  | _ => true

/--
The statement that counts the rows a query pages through.

Order and window do not change the count. Groups, and rows told apart, are
counted as the rows of a subquery.
-/
def compileCount
    (query : Query) :
    Except QueryError Statement := do
  let schema := query.schema
  let selected ← selectBody schema query
  let counted :=
    { selected with
      order := []
      limit := none
      offset := none }
  let count : List Item := [⟨.countAll, some "count"⟩]
  if !counted.groups.isEmpty || counted.distinct.isSet then
    return .select
      (.fromSelect (.fromTable schema.storage counted) "counted"
        { items := count })
  else
    return .select (.fromTable schema.storage { counted with items := count })

end Sql

end PolyQuery
