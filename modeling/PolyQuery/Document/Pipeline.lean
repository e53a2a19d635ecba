import PolyQuery.Document.Collection
import PolyQuery.Query.Page

namespace PolyQuery

/-!
# Pipelines

A pipeline sends all documents of a collection through stages in order: match,
sort, skip, limit, project and count.
-/

namespace Pipeline

/-- The document that a stage takes. -/
def documentArgument
    (operator : String) :
    Json →
    Except QueryError Document
  | .object members => .ok members
  | _ => .error (.invalidOperand operator operator "expected a document")

/-- The number that a stage takes. -/
def countArgument
    (operator : String)
    (argument : Json) :
    Except QueryError Nat :=
  match argument.unsigned? with
  | some count => .ok count
  | none =>
      .error
        (.invalidOperand operator operator "expected a non-negative integer")

/-- The documents that pass a filter, after those that are kept already. -/
def passing
    (filter : Document)
    (kept : List Document) :
    List Document →
    Except QueryError (List Document)
  | [] => .ok kept
  | document :: rest => do
      if ← document.matches filter then
        passing filter (kept ++ [document]) rest
      else
        passing filter kept rest

/-- The documents that leave a stage. -/
def stage
    (operator : String)
    (argument : Json)
    (documents : List Document) :
    Except QueryError (List Document) := do
  match operator with
  | "$match" =>
      let filter ← documentArgument operator argument
      passing filter [] documents
  | "$sort" =>
      let spec ← documentArgument operator argument
      return Document.sort (Document.orderBy (SortKey.ofDocument spec))
        documents
  | "$skip" =>
      let count ← countArgument operator argument
      return documents.drop count
  | "$limit" =>
      let count ← countArgument operator argument
      return documents.take count
  | "$project" =>
      let fields ← documentArgument operator argument
      return documents.map (Collection.project fields)
  | "$count" =>
      match argument with
      | .string name => return [[(name, .ofNat documents.length)]]
      | _ => throw (.invalidOperand "$count" operator "expected a field name")
  | _ => throw (.unsupportedClause "aggregation stage")

/-- The documents that leave a pipeline. -/
def run :
    List Json →
    List Document →
    Except QueryError (List Document)
  | [], documents => .ok documents
  | described :: rest, documents =>
      match described with
      | .object [(operator, argument)] =>
          match stage operator argument documents with
          | .ok passed => run rest passed
          | .error error => .error error
      | _ =>
          .error
            (.invalidOperand "pipeline" "stage"
              "expected one operator per stage")

/-- A pipeline cut to a page, if a page and a size other than zero are given. -/
def paginate
    (pipeline : List Json)
    (page : Option Nat)
    (pageSize : Option Nat) :
    List Json :=
  match page, pageSize with
  | some page, some size =>
      if size = 0 then
        pipeline
      else
        let skip := saturatingMul (max page 1 - 1) size
        pipeline ++
          [.object [("$skip", .ofNat skip)], .object [("$limit", .ofNat size)]]
  | _, _ => pipeline

end Pipeline

end PolyQuery
