import Mathlib.Data.Finset.Card
import Mathlib.Data.Finset.Dedup
import PolyQuery.Proofs.Sql.Placeholders
import PolyQuery.Sql.Value

namespace PolyQuery.Sql

/-!
# What a select answers

The reading of selects in standard SQL, as a list of rows. The rows of the
source are filtered and put into groups: those with equal grouping values, all
rows together if there is no grouping but an aggregate or a condition on groups,
and each row by itself otherwise. The groups that the condition on groups holds
of are sorted, become rows of the result, are told apart, and are counted off.

What an engine decides is left open: how values compare and match, which of them
count as one value, how they are sorted, and what the fragments of a caller are
in a group.
-/

deriving instance DecidableEq for Value

/-- A row: the value in each column. -/
abbrev Row :=
  String → Value

/-- Tables, and what the engine over them decides. -/
structure Database where
  rows : String → List Row
  /-- The order of two values that are not null, if they compare. -/
  compare : Value → Value → Option Ordering
  /-- Whether a pattern matches a value, perhaps ignoring letter case. -/
  patternMatches : Bool → Value → Value → Option Bool
  /-- The value that stands for all those that count as one. -/
  canonical : Value → Value
  /-- The order that values are sorted in. -/
  order : Value → Value → Ordering
  /-- The value of a fragment in a group of rows. -/
  fragment : String → List Row → Value
  /-- Whether a fragment is about a group as a whole. -/
  isAggregate : String → Bool

/-- The conjunction of truth values, of which one may be unknown. -/
def bothTrue : Option Bool → Option Bool → Option Bool
  | some false, _ => some false
  | _, some false => some false
  | some true, some true => some true
  | _, _ => none

/-- The disjunction of truth values, of which one may be unknown. -/
def eitherTrue : Option Bool → Option Bool → Option Bool
  | some true, _ => some true
  | _, some true => some true
  | some false, some false => some false
  | _, _ => none

namespace Value

def isNull : Value → Bool
  | .null => true
  | _ => false

/-- The value of a truth value, null if it is unknown. -/
def ofTruth : Option Bool → Value
  | some truth => .bool truth
  | none => .null

/-- The truth value that a value is. -/
def truth : Value → Option Bool
  | .bool truth => some truth
  | _ => none

end Value

/-- Whether an order satisfies a comparison. -/
def Comparison.admits
    (sign : Comparison)
    (order : Ordering) :
    Bool :=
  match sign with
  | .equal => order = .eq
  | .notEqual => order ≠ .eq
  | .greater => order = .gt
  | .atLeast => order ≠ .lt
  | .less => order = .lt
  | .atMost => order ≠ .gt

namespace Database

variable (database : Database)

/-- The truth of a comparison, unknown if there is no value on one side. -/
def compared
    (sign : Comparison)
    (left right : Value) :
    Option Bool :=
  if left.isNull || right.isNull then
    none
  else
    (database.compare left right).map sign.admits

/-- The truth of a match, unknown if there is no value on one side. -/
def matched
    (ignoringCase : Bool)
    (subject pattern : Value) :
    Option Bool :=
  if subject.isNull || pattern.isNull then
    none
  else
    database.patternMatches ignoringCase subject pattern

end Database

namespace Expr

mutual

/--
The value of an expression in a group of rows; a column has
that of the first row.
-/
def valueIn
    (database : Database)
    (group : List Row) :
    Expr →
    Value
  | .column _ name => (group.head?.map fun row => row name).getD .null
  | .operand _ value => .ofJson value
  | .raw sql => database.fragment sql group
  | .countAll => .integer group.length
  | .comparison left sign right =>
      .ofTruth (database.compared sign (valueIn database group left)
        (valueIn database group right))
  | .isNull subject negated =>
      .bool ((valueIn database group subject).isNull != negated)
  | .inList subject items negated =>
      let truths := (valuesIn database group items).map
        (database.compared .equal (valueIn database group subject))
      let found := truths.foldr eitherTrue (some false)
      .ofTruth (if negated then found.map not else found)
  | .between subject low high =>
      let value := valueIn database group subject
      .ofTruth
        (bothTrue
          (database.compared .atLeast value (valueIn database group low))
          (database.compared .atMost value (valueIn database group high)))
  | .like subject pattern ignoringCase =>
      .ofTruth (database.matched ignoringCase (valueIn database group subject)
        (valueIn database group pattern))
  | .conjunction terms =>
      .ofTruth
        (((valuesIn database group terms).map Value.truth).foldr bothTrue
          (some true))
  | .disjunction terms =>
      .ofTruth
        (((valuesIn database group terms).map Value.truth).foldr eitherTrue
          (some false))
  | .constant value => .bool value

/-- The values of expressions in a group of rows. -/
def valuesIn
    (database : Database)
    (group : List Row) :
    List Expr →
    List Value
  | [] => []
  | expr :: rest => valueIn database group expr :: valuesIn database group rest

end

/-- Whether an expression is about a group as a whole. -/
def aggregates
    (database : Database)
    (expr : Expr) :
    Bool :=
  expr.leaves.any fun leaf =>
    match leaf with
    | .countAll => true
    | .raw sql => database.isAggregate sql
    | _ => false

end Expr

/--
The first of the items that share a key, leaving out those with some keys.
-/
def firstsFrom
    {α κ : Type}
    [DecidableEq κ]
    (key : α → κ)
    (seen : List κ) :
    List α →
    List α
  | [] => []
  | item :: rest =>
      if key item ∈ seen then
        firstsFrom key seen rest
      else
        item :: firstsFrom key (key item :: seen) rest

namespace Database

variable (database : Database)

/-- Whether a condition holds in a group; none holds in every group. -/
def holds
    (group : List Row)
    (condition : Option Expr) :
    Bool :=
  condition.all fun expr => (expr.valueIn database group).truth = some true

/-- The values of expressions in a group, those that count as one made one. -/
def keyIn
    (exprs : List Expr)
    (group : List Row) :
    List Value :=
  exprs.map fun expr => database.canonical (expr.valueIn database group)

/--
The order of groups by some terms, the first that tells them apart deciding.
-/
def orderBy :
    List (Expr × Direction) →
    List Row →
    List Row →
    Ordering
  | [], _, _ => .eq
  | (expr, direction) :: rest, left, right =>
      let order :=
        database.order (expr.valueIn database left)
          (expr.valueIn database right)
      let directed :=
        match direction with
        | .ascending => order
        | .descending => order.swap
      directed.then (orderBy rest left right)

end Database

namespace SelectBody

variable
  (database : Database)
  (body : SelectBody)

/-- Whether rows are put together that no grouping asks for. -/
def aggregates : Bool :=
  body.having.isSome ||
    body.items.any (fun item => item.expr.aggregates database) ||
    body.order.any fun term => term.1.aggregates database

/-- The rows of the source that the filter holds of. -/
def filtered
    (rows : List Row) :
    List Row :=
  rows.filter fun row => database.holds [row] body.filter

/-- Filtered rows in their groups. -/
def grouped
    (rows : List Row) :
    List (List Row) :=
  if body.groups.isEmpty then
    if body.aggregates database then [rows] else rows.map fun row => [row]
  else
    let key := fun row => database.keyIn body.groups [row]
    (rows.map key).eraseDups.map fun shared => rows.filter fun row =>
      key row = shared

/-- The groups that the condition on groups holds of. -/
def kept
    (rows : List Row) :
    List (List Row) :=
  (body.grouped database (body.filtered database rows)).filter fun group =>
    database.holds group body.having

/-- Groups without those that repeat another one. -/
def toldApart
    (groups : List (List Row)) :
    List (List Row) :=
  match body.distinct with
  | .none => groups
  | .all => firstsFrom (database.keyIn (body.items.map Item.expr)) [] groups
  | .on exprs => firstsFrom (database.keyIn exprs) [] groups

/-- The values of the items in a group. -/
def resultRow
    (group : List Row) :
    List Value :=
  body.items.map fun item => item.expr.valueIn database group

/-- The stretch of some rows that limit and offset leave. -/
def stretch
    (rows : List (List Value)) :
    List (List Value) :=
  match body.limit with
  | some limit => (rows.drop (body.offset.getD 0)).take limit
  | none => rows.drop (body.offset.getD 0)

/-- The rows that a select answers over the rows of its source. -/
def answers
    (rows : List Row) :
    List (List Value) :=
  let sorted := (body.kept database rows).mergeSort fun left right =>
    (database.orderBy body.order left right).isLE
  body.stretch ((body.toldApart database sorted).map (body.resultRow database))

end SelectBody

/-- The name of a column of a result, if it has one. -/
def Item.label?
    (item : Item) :
    Option String :=
  match item.resultName, item.expr with
  | some name, _ => some name
  | none, .column _ name => some name
  | none, _ => none

/-- A row of a result as a row of a source. -/
def rowOf
    (items : List Item)
    (values : List Value) :
    Row :=
  fun column =>
    ((items.zip values).find? fun both => both.1.label? = some column).elim
      .null Prod.snd

namespace Select

/-- The items of a select. -/
def items : Select → List Item
  | .fromTable _ body => body.items
  | .fromSelect _ _ body => body.items

/-- The rows that a select answers. -/
def answers
    (database : Database) :
    Select →
    List (List Value)
  | .fromTable table body => body.answers database (database.rows table)
  | .fromSelect source _ body =>
      body.answers database ((source.answers database).map (rowOf source.items))

/-- A select without its limit and its offset. -/
def withoutWindow : Select → Select
  | .fromTable table body =>
      .fromTable table { body with limit := none, offset := none }
  | .fromSelect source name body =>
      .fromSelect source name { body with limit := none, offset := none }

end Select

end PolyQuery.Sql
