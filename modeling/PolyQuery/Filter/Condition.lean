import PolyQuery.Filter.Operator
import PolyQuery.Json.Basic

namespace PolyQuery

/-!
# Conditions

A condition is an operator tag and an operand as the caller wrote them; the tag
is looked up only when a backend lowers the condition. Inside an alternative
group a list operand stands for one alternative per element.
-/

/-- An operator tag and its operand. -/
structure Condition where
  tag : String
  operand : Json
  deriving DecidableEq

namespace Condition

/-- The operator that the tag names. -/
def operator
    (condition : Condition) :
    Except QueryError Operator :=
  Operator.ofTag condition.tag

/-- The operands that stand for one alternative each. -/
def alternativeOperands
    (operator : Operator) :
    Json →
    List Json
  | .array items =>
      if !operator.takesList then
        items
      else if !items.isEmpty && items.all Json.isArray then
        items
      else
        [.array items]
  | operand => [operand]

/--
The alternatives of a condition in an alternative group.

An operator on single values takes every element of a list by itself; an
operator on lists keeps its list whole unless it is a list of lists.
-/
def disjuncts
    (condition : Condition) :
    Except QueryError (List (Operator × Json)) := do
  let operator ← condition.operator
  return (alternativeOperands operator condition.operand).map fun operand =>
    (operator, operand)

end Condition

end PolyQuery
