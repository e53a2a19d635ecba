import PolyQuery.Document.Order
import PolyQuery.Filter.Operator
import PolyQuery.Regex.Reader

namespace PolyQuery

/-!
# Filter documents

A filter document holds of a document if every one of its entries does. An
entry asks something of the value at a path: to equal a value, or to satisfy
every operator of an operator document. `$and`, `$or` and `$nor` combine whole
filter documents.

Entries are taken in order and the first that fails decides, so that a bad
entry behind it goes unnoticed. The clauses of a combination are all looked at
before the first of them is evaluated.
-/

namespace Matching

/-- The reason given for a pattern that cannot be read. -/
def unreadablePattern : String :=
  "not a regular expression"

/-- Whether a value is an object of operators, which an identifier is not. -/
def isOperatorDocument : Json → Bool
  | .object members =>
      !members.isEmpty &&
        members.all (fun member => Operator.isMarked member.1) &&
        (ObjectId.ofJson? (.object members)).isNone
  | _ => false

/--
Equality with a value: a missing one equals null, and a list
equals each of its items.
-/
def equals
    (actual : Option Json)
    (expected : Json) :
    Bool :=
  match actual with
  | none => expected.isNull
  | some value =>
      value.same expected ||
        match value with
        | .array items => items.any fun item => item.same expected
        | _ => false

/-- Whether a value compares with another one as accepted. -/
def ordered
    (actual : Option Json)
    (expected : Json)
    (accept : Ordering → Bool) :
    Bool :=
  match actual.bind fun value => value.order? expected with
  | some order => accept order
  | none => false

/-- The list that an operator takes. -/
def listOperand
    (operator : String)
    (operand : Json) :
    Except QueryError (List Json) :=
  match operand with
  | .array items => .ok items
  | _ => .error (.invalidOperand operator operator "expected a list")

/-- The options that a text of letters sets. -/
def regexOptions
    (letters : String) :
    Regex.Options :=
  {
    ignoringCase := letters.toList.contains 'i'
    multiLine := letters.toList.contains 'm'
    dotMatchesAll := letters.toList.contains 's'
  }

/-- The options that stand beside a pattern. -/
def optionsBeside
    (operators : Document) :
    Regex.Options :=
  regexOptions (((operators.get? "$options").bind Json.string?).getD "")

/-- Whether a value is a string in which a pattern matches. -/
def regexHolds
    (operators : Document)
    (actual : Option Json)
    (operand : Json) :
    Except QueryError Bool :=
  match operand with
  | .string text =>
      match Regex.Pattern.ofText? (optionsBeside operators) text with
      | none => .error (.invalidOperand "$regex" "$regex" unreadablePattern)
      | some pattern =>
          match actual with
          | some (.string subject) => .ok (pattern.matchesIn subject)
          | _ => .ok false
  | _ => .error (.invalidOperand "$regex" "$regex" "expected a string pattern")

/-- Whether a value satisfies one operator of an operator document. -/
def operatorHolds
    (operators : Document)
    (actual : Option Json)
    (operator : String)
    (operand : Json) :
    Except QueryError Bool :=
  match operator with
  | "$eq" => .ok (equals actual operand)
  | "$ne" => .ok (!equals actual operand)
  | "$gt" => .ok (ordered actual operand fun order => order = .gt)
  | "$gte" => .ok (ordered actual operand fun order => order ≠ .lt)
  | "$lt" => .ok (ordered actual operand fun order => order = .lt)
  | "$lte" => .ok (ordered actual operand fun order => order ≠ .gt)
  | "$in" =>
      (listOperand operator operand).map fun items => items.any (equals actual)
  | "$nin" =>
      (listOperand operator operand).map fun items => !items.any (equals actual)
  | "$exists" => .ok (actual.isSome == operand.bool?.getD true)
  | "$regex" => regexHolds operators actual operand
  | "$options" => .ok true
  | unknown => .error (.invalidFilterOperator unknown)

/-- Whether every item of a list holds, up to the first that does not. -/
def allHold
    {α : Type}
    (holds : α → Except QueryError Bool) :
    List α →
    Except QueryError Bool
  | [] => .ok true
  | item :: rest =>
      match holds item with
      | .error error => .error error
      | .ok false => .ok false
      | .ok true => allHold holds rest

/-- Whether the value at a path satisfies a condition. -/
def conditionHolds
    (actual : Option Json)
    (condition : Json) :
    Except QueryError Bool :=
  if isOperatorDocument condition then
    let operators := Path.membersOf (some condition)
    allHold (fun entry => operatorHolds operators actual entry.1 entry.2)
      operators
  else
    .ok (equals actual condition)

/-- How filter documents are combined. -/
inductive Connective where
  | all
  | any
  | none
  deriving DecidableEq

/-- The connective that a key names. -/
def Connective.ofKey? : String → Option Connective
  | "$and" => some .all
  | "$or" => some .any
  | "$nor" => some .none
  | _ => Option.none

/--
Whether a clause with a value decides a combination, so that no
further one is looked at.
-/
def Connective.decides
    (connective : Connective)
    (value : Bool) :
    Bool :=
  match connective with
  | .all => !value
  | .any => value
  | .none => value

/-- The value of a combination that some clause decided, or none did. -/
def Connective.outcome
    (connective : Connective)
    (decided : Bool) :
    Bool :=
  match connective with
  | .all => !decided
  | .any => decided
  | .none => !decided

mutual

/-- Whether every entry of a filter document holds of a document. -/
def filterHolds
    (document : Document) :
    List (String × Json) →
    Except QueryError Bool
  | [] => .ok true
  | (key, condition) :: rest =>
      match entryHolds document key condition with
      | .error error => .error error
      | .ok false => .ok false
      | .ok true => filterHolds document rest

/-- Whether one entry of a filter document holds of a document. -/
def entryHolds
    (document : Document)
    (key : String) :
    Json →
    Except QueryError Bool
  | .array clauses =>
      match Connective.ofKey? key with
      | some connective =>
          if clauses.all Json.isObject then
            (anyDecides document connective clauses).map connective.outcome
          else
            .error (.invalidOperand key key "expected a list of documents")
      | none =>
          if Operator.isMarked key then
            .error (.invalidFilterOperator key)
          else
            conditionHolds (document.lookup? key) (.array clauses)
  | condition =>
      match Connective.ofKey? key with
      | some _ =>
          .error (.invalidOperand key key "expected a list of documents")
      | none =>
          if Operator.isMarked key then
            .error (.invalidFilterOperator key)
          else
            conditionHolds (document.lookup? key) condition

/-- Whether some clause decides a combination. -/
def anyDecides
    (document : Document)
    (connective : Connective) :
    List Json →
    Except QueryError Bool
  | [] => .ok false
  | clause :: rest =>
      match clauseHolds document clause with
      | .error error => .error error
      | .ok value =>
          if connective.decides value then
            .ok true
          else
            anyDecides document connective rest

/-- Whether a clause holds of a document. -/
def clauseHolds
    (document : Document) :
    Json →
    Except QueryError Bool
  | .object filter => filterHolds document filter
  | _ => .ok false

end

end Matching

/-- Whether a document satisfies a filter document. -/
def Document.matches
    (document : Document)
    (filter : Document) :
    Except QueryError Bool :=
  Matching.filterHolds document filter

end PolyQuery
