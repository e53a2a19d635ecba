namespace PolyQuery

/-!
# Query errors

The causes for which building, compiling or running a query fails, the message
of each, and which of them the caller of the library is answerable for.
-/

/-- A cause of failure. -/
inductive QueryError where
  /-- A name that the entity has no field for. -/
  | unknownField (entity : String) (field : String)
  /-- A value that the operator cannot take. -/
  | invalidOperand (field : String) (operator : String) (reason : String)
  /-- A tag that names no operator. -/
  | invalidFilterOperator (operator : String)
  /-- A value that is no identifier. -/
  | invalidIdentifier (text : String)
  /-- A mutation of every row without a filter and without opting in. -/
  | missingFilter (action : String) (entity : String)
  /-- A builder that was given no entity. -/
  | missingModel
  /-- A clause that the backend has no form for. -/
  | unsupportedClause (clause : String)
  /-- A second document with one identifier. -/
  | duplicateKey (key : String)
  deriving DecidableEq, Repr

namespace QueryError

/-- The message of an error. -/
def message : QueryError → String
  | .unknownField entity field =>
      "Unknown field '" ++ field ++ "' on entity '" ++ entity ++ "'"
  | .invalidOperand field operator reason =>
      "Invalid operand for '" ++ field ++ "' " ++ operator ++ ": " ++ reason
  | .invalidFilterOperator operator => "Invalid filter operator: " ++ operator
  | .invalidIdentifier text => "Invalid identifier: " ++ text
  | .missingFilter action entity =>
      "Refusing to " ++ action ++ " every row of '" ++ entity ++
        "' without a filter"
  | .missingModel => "No model set on query builder"
  | .unsupportedClause clause =>
      "Clause not supported by this backend: " ++ clause
  | .duplicateKey key => "Duplicate key: " ++ key

/-- Whether the caller made the mistake, so that trying again cannot help. -/
def isCallerError : QueryError → Bool
  | .duplicateKey _ => false
  | _ => true

end QueryError

/--
A failing computation that keeps what it changed in its state before it failed.
-/
abbrev Stateful
    (σ : Type)
    (α : Type) :=
  ExceptT QueryError (StateM σ) α

namespace Stateful

variable {σ α : Type}

/-- Run a computation from a state: the result and the state afterwards. -/
def runFrom
    (action : Stateful σ α)
    (state : σ) :
    Except QueryError α × σ :=
  action.run.run state

/-- A computation that does not touch the state. -/
def ofExcept
    (result : Except QueryError α) :
    Stateful σ α :=
  ExceptT.mk (pure result)

end Stateful

end PolyQuery
