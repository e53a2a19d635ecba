import PolyQuery.Filter.Basic
import PolyQuery.Query.Mutation

namespace PolyQuery

/-!
# Queries

The clauses that a caller gathers and the query that they are frozen into: a
kind of statement over an entity, with the values of a write resolved.
-/

/-- A field of the entity, or an expression handed to the backend as it is. -/
inductive Target where
  | field (name : String)
  | raw (expression : String)
  deriving DecidableEq

/-- The text that names a target. -/
def Target.label : Target → String
  | .field name => name
  | .raw expression => expression

/-- The direction of an order. -/
inductive Direction where
  | ascending
  | descending
  deriving DecidableEq

/-- One term of an order. -/
structure OrderTerm where
  target : Target
  direction : Direction
  deriving DecidableEq

/-- A condition on groups. -/
structure GroupCondition where
  target : Target
  condition : Condition
  deriving DecidableEq

/-- Which rows of a result count as repeated. -/
inductive Distinctness where
  | none
  | all
  | on (targets : List Target)
  deriving DecidableEq

/-- What a caller asked for, apart from the entity and the values. -/
structure Clauses where
  filter : Filter := []
  alternatives : AlternativeFilter := []
  projection : List Target := []
  order : List OrderTerm := []
  groups : List Target := []
  having : List GroupCondition := []
  distinct : Distinctness := .none
  limit : Option Nat := none
  offset : Option Nat := none
  /-- Whether a mutation may go without a filter. -/
  allowFullTable : Bool := false
  /-- Whether one row only is touched. -/
  single : Bool := false
  /-- Whether an update that matches nothing inserts. -/
  upsert : Bool := false
  deriving DecidableEq

/-- The kind of a statement. -/
inductive StatementKind where
  | select
  | insert
  | update
  | delete
  deriving DecidableEq

namespace StatementKind

/-- The name of a kind. -/
def name : StatementKind → String
  | .select => "select"
  | .insert => "insert"
  | .update => "update"
  | .delete => "delete"

end StatementKind

/-- A frozen query. -/
structure Query extends Clauses where
  kind : StatementKind
  schema : Schema
  values : Option Mutation
  deriving DecidableEq

namespace Query

/-- The rows that a write carries. -/
def rows
    (query : Query) :
    List Document :=
  match query.values with
  | some values => values.rows
  | none => []

/--
The number of rows that a select may answer, a single one at most if so asked.
-/
def rowLimit
    (query : Query) :
    Option Nat :=
  if query.single then
    some ((query.limit.getD 1).min 1)
  else
    query.limit

end Query

end PolyQuery
