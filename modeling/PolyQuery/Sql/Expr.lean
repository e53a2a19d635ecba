import PolyQuery.Json.Basic
import PolyQuery.Query.Basic

namespace PolyQuery

/-!
# Relational statements

Statements of SQL without a dialect: identifiers are storage names and operands
are still JSON values.
-/

namespace Sql

/-- A comparison sign. -/
inductive Comparison where
  | equal
  | notEqual
  | greater
  | atLeast
  | less
  | atMost
  deriving DecidableEq

/-- The sign of a comparison. -/
def Comparison.sign : Comparison → String
  | .equal => "="
  | .notEqual => "<>"
  | .greater => ">"
  | .atLeast => ">="
  | .less => "<"
  | .atMost => "<="

/-- An expression. -/
inductive Expr where
  | column (table : Option String) (name : String)
  /-- A bound value; `base` is what its parameter is named after. -/
  | operand (base : String) (value : Json)
  /-- A fragment of the caller's, kept as it is. -/
  | raw (sql : String)
  | countAll
  | comparison (left : Expr) (sign : Comparison) (right : Expr)
  | isNull (subject : Expr) (negated : Bool)
  | inList (subject : Expr) (items : List Expr) (negated : Bool)
  | between (subject : Expr) (low : Expr) (high : Expr)
  | like (subject : Expr) (pattern : Expr) (ignoringCase : Bool)
  | conjunction (terms : List Expr)
  | disjunction (terms : List Expr)
  /-- A predicate that always holds, or never. -/
  | constant (value : Bool)
  deriving Inhabited

namespace Expr

/-- All terms together: nothing for none, and a single term by itself. -/
def allOf? : List Expr → Option Expr
  | [] => none
  | [term] => some term
  | terms => some (.conjunction terms)

/-- Any of the terms: nothing for none, and a single term by itself. -/
def anyOf? : List Expr → Option Expr
  | [] => none
  | [term] => some term
  | terms => some (.disjunction terms)

def isConjunction : Expr → Bool
  | .conjunction _ => true
  | _ => false

def isDisjunction : Expr → Bool
  | .disjunction _ => true
  | _ => false

end Expr

/-- A column of a result, perhaps renamed. -/
structure Item where
  expr : Expr
  resultName : Option String

/-- Which rows of a result count as repeated. -/
inductive Distinct where
  | none
  | all
  | on (exprs : List Expr)

/-- The clauses of a select other than its source. -/
structure SelectBody where
  items : List Item := []
  distinct : Distinct := .none
  filter : Option Expr := none
  groups : List Expr := []
  having : Option Expr := none
  order : List (Expr × Direction) := []
  limit : Option Nat := none
  offset : Option Nat := none

/-- A select from a table, or from the rows of another select. -/
inductive Select where
  | fromTable (table : String) (body : SelectBody)
  | fromSelect (source : Select) (name : String) (body : SelectBody)

/-- New rows: one list of columns, and one list of values for each row. -/
structure Insert where
  table : String
  columns : List String
  rows : List (List Json)

/--
The column that a row of a batch update is found by, with
its value for each row.
-/
structure RowKey where
  table : String
  column : String
  values : List Json

/-- Assignments to the rows that match. -/
structure Update where
  table : String
  columns : List String
  rows : List (List Json)
  filter : Option Expr
  rowKey : Option RowKey

/-- Removal of the rows that match. -/
structure Delete where
  table : String
  filter : Option Expr

/-- A statement. -/
inductive Statement where
  | select (statement : Select)
  | insert (statement : Insert)
  | update (statement : Update)
  | delete (statement : Delete)

end Sql

end PolyQuery
