import PolyQuery.QueryError

namespace PolyQuery

/-!
# Comparison operators

The operators that both backends understand and the tags that name them. A tag
may carry one leading `$`, the sign of the document dialect.
-/

/-- A comparison of a field with an operand. -/
inductive Operator where
  | equal
  | notEqual
  | greater
  | atLeast
  | less
  | atMost
  | oneOf
  | noneOf
  | like
  | likeIgnoringCase
  | between
  deriving DecidableEq, Repr

namespace Operator

/-- The tag of an operator. -/
def tag : Operator → String
  | .equal => "eq"
  | .notEqual => "ne"
  | .greater => "gt"
  | .atLeast => "gte"
  | .less => "lt"
  | .atMost => "lte"
  | .oneOf => "in"
  | .noneOf => "nin"
  | .like => "like"
  | .likeIgnoringCase => "ilike"
  | .between => "between"

/-- Every operator. -/
def all : List Operator :=
  [.equal, .notEqual, .greater, .atLeast, .less, .atMost, .oneOf, .noneOf,
    .like, .likeIgnoringCase, .between]

/-- The operator that a bare tag names. -/
def ofBareTag?
    (tag : String) :
    Option Operator :=
  all.find? fun operator => operator.tag = tag

/-- Whether a key begins with the dollar sign of the document dialect. -/
def isMarked
    (key : String) :
    Bool :=
  key.toList.head? = some '$'

/-- A tag without its leading dollar sign. -/
def bareTag
    (tag : String) :
    String :=
  match tag.toList with
  | '$' :: rest => String.ofList rest
  | _ => tag

/-- The operator that a tag names. -/
def ofTag
    (tag : String) :
    Except QueryError Operator :=
  match ofBareTag? (bareTag tag) with
  | some operator => .ok operator
  | none => .error (.invalidFilterOperator tag)

/-- Whether the operand is a whole list. -/
def takesList : Operator → Bool
  | .oneOf => true
  | .noneOf => true
  | .between => true
  | _ => false

end Operator

end PolyQuery
