import PolyQuery.Config
import PolyQuery.Json.Reader
import PolyQuery.Json.Record
import PolyQuery.Query.Builder

namespace PolyQuery

/-!
# Requests

A chain of builder calls as a JSON value: the clauses, the values and the kind
of query to freeze them into. Every part may be left out.
-/

/-- What a request asks for; a count is the select that the caller counts. -/
inductive RequestKind where
  | select
  | count
  | insert
  | update
  | delete
  | paginate
  deriving DecidableEq

/-- A chain of builder calls. -/
structure Request where
  kind : RequestKind := .select
  filter : Document := []
  alternatives : Document := []
  project : List String := []
  projectRaw : List String := []
  order : List OrderTerm := []
  groups : List String := []
  having : List GroupCondition := []
  distinct : Bool := false
  distinctOn : List String := []
  limit : Option Nat := none
  offset : Option Nat := none
  page : Option Int := none
  pageSize : Option Int := none
  values : Option Mutation := none
  allowFullTable : Bool := false
  single : Bool := false
  upsert : Bool := false

/-- The kind that a value names. -/
def RequestKind.ofJson?
    (value : Json) :
    Option RequestKind :=
  match value.plainChoice? with
  | some "select" => some .select
  | some "count" => some .count
  | some "insert" => some .insert
  | some "update" => some .update
  | some "delete" => some .delete
  | some "paginate" => some .paginate
  | _ => none

/-- The direction that a value names. -/
def Direction.ofJson?
    (value : Json) :
    Option Direction :=
  match value.plainChoice? with
  | some "asc" => some .ascending
  | some "desc" => some .descending
  | _ => none

/-- A name as a field, or as an expression if it is marked raw. -/
def Target.ofName
    (name : String)
    (raw : Bool) :
    Target :=
  if raw then .raw name else .field name

/-- The parts of an order term that are read. -/
def OrderTerm.layout : Json.Layout :=
  .ofNames ["field", "dir", "raw"]

/-- The order term that a value describes. -/
def OrderTerm.ofJson?
    (value : Json) :
    Option OrderTerm := do
  let fields ← value.record? layout.names
  let name ← Record.required? fields "field" Json.string?
  let direction ← Record.withDefault? fields "dir" .ascending Direction.ofJson?
  let raw ← Record.withDefault? fields "raw" false Json.bool?
  return {
    target := .ofName name raw
    direction := direction
  }

/-- The parts of a condition on groups that are read. -/
def GroupCondition.layout : Json.Layout :=
  .ofNames ["expr", "raw", "op", "value"]

/-- The condition on groups that a value describes. -/
def GroupCondition.ofJson?
    (value : Json) :
    Option GroupCondition := do
  let fields ← value.record? layout.names
  let name ← Record.required? fields "expr" Json.string?
  let raw ← Record.withDefault? fields "raw" false Json.bool?
  let tag ← Record.required? fields "op" Json.string?
  let operand ← Record.required? fields "value" fun value => some value.collapse
  return {
    target := .ofName name raw
    condition := ⟨tag, operand⟩
  }

namespace Request

/-- The parts of a request in order. -/
def layout : Json.Layout :=
  .record [
    ("kind", .whole),
    ("filter", .whole),
    ("or_filter", .whole),
    ("project", .whole),
    ("project_raw", .whole),
    ("order_by", .list OrderTerm.layout),
    ("group_by", .whole),
    ("having", .list GroupCondition.layout),
    ("distinct", .whole),
    ("distinct_on", .whole),
    ("limit", .whole),
    ("offset", .whole),
    ("page", .whole),
    ("page_size", .whole),
    ("values", .whole),
    ("allow_full_table", .whole),
    ("single", .whole),
    ("upsert", .whole)]

/-- The request that a value describes. -/
def ofJson?
    (value : Json) :
    Option Request := do
  let fields ← value.record? layout.names
  let mapping := fun name => Record.withDefault? fields name [] Json.mapping?
  let names :=
    fun name => Record.withDefault? fields name [] (Json.list? Json.string?)
  let flag := fun name => Record.withDefault? fields name false Json.bool?
  let kind ← Record.withDefault? fields "kind" .select RequestKind.ofJson?
  let filter ← mapping "filter"
  let alternatives ← mapping "or_filter"
  let project ← names "project"
  let projectRaw ← names "project_raw"
  let order ←
    Record.withDefault? fields "order_by" [] (Json.list? OrderTerm.ofJson?)
  let groups ← names "group_by"
  let having ←
    Record.withDefault? fields "having" [] (Json.list? GroupCondition.ofJson?)
  let distinct ← flag "distinct"
  let distinctOn ← names "distinct_on"
  let limit ← Record.optional? fields "limit" Json.unsigned?
  let offset ← Record.optional? fields "offset" Json.unsigned?
  let page ← Record.optional? fields "page" Json.signed?
  let pageSize ← Record.optional? fields "page_size" Json.signed?
  let values ← Record.optional? fields "values" Mutation.ofJson?
  let allowFullTable ← flag "allow_full_table"
  let single ← flag "single"
  let upsert ← flag "upsert"
  return {
    kind := kind
    filter := filter
    alternatives := alternatives
    project := project
    projectRaw := projectRaw
    order := order
    groups := groups
    having := having
    distinct := distinct
    distinctOn := distinctOn
    limit := limit
    offset := offset
    page := page
    pageSize := pageSize
    values := values
    allowFullTable := allowFullTable
    single := single
    upsert := upsert
  }

/-- The request that a text describes. -/
def ofText?
    (text : String) :
    Option Request :=
  (Json.ofTextWithin? layout text).bind ofJson?

/-- Apply a change if a condition holds. -/
def onlyIf
    (condition : Bool)
    (change : Builder → Builder)
    (builder : Builder) :
    Builder :=
  if condition then change builder else builder

/-- Apply a change with a value if there is one. -/
def ifGiven
    {α : Type}
    (value : Option α)
    (change : Builder → α → Builder)
    (builder : Builder) :
    Builder :=
  match value with
  | some given => change builder given
  | none => builder

/-- Replay every clause onto a builder. -/
def applyTo
    (request : Request)
    (builder : Builder) :
    Builder :=
  let filtered :=
    (builder.constrainAll (Filter.ofMembers request.filter)).alternativeAll
      (AlternativeFilter.ofMembers request.alternatives)
  let projected :=
    request.projectRaw.foldl Builder.projectRaw
      (filtered.project request.project)
  let ordered :=
    request.order.foldl
      (fun builder term => builder.orderBy term.target term.direction) projected
  let grouped :=
    request.groups.foldl (fun builder name => builder.groupBy (.field name))
      ordered
  let conditioned :=
    request.having.foldl
      (fun builder term =>
        builder.groupCondition term.target term.condition.tag
          term.condition.operand)
      grouped
  let distinguished :=
    onlyIf (!request.distinctOn.isEmpty)
      (fun builder => builder.distinctOn request.distinctOn)
      (onlyIf request.distinct Builder.distinctRows conditioned)
  let cut :=
    ifGiven request.offset Builder.drop
      (ifGiven request.limit Builder.take distinguished)
  let written := ifGiven request.values Builder.write cut
  onlyIf request.upsert Builder.insertingIfAbsent
    (onlyIf request.single Builder.touchingOne
      (onlyIf request.allowFullTable Builder.allowingFullTable written))

/-- A page size as the signed integer with the same 64 bits. -/
def signedPageSize
    (size : Nat) :
    Int :=
  Int.bmod size (unsignedMax + 1)

/-- The position of the page that a request asks for. -/
def pageRequest
    (request : Request)
    (pagination : Pagination) :
    PageRequest :=
  PageRequest.ofNumbers
    (request.page.getD 1)
    (request.pageSize.getD (signedPageSize pagination.defaultPageSize))
    pagination

/-- Freeze the request into a query over an entity. -/
def compile
    (request : Request)
    (schema : Schema)
    (config : Config) :
    Stateful Supply Query :=
  let builder :=
    onlyIf config.allowFullTableMutation Builder.allowingFullTable
      (request.applyTo (({} : Builder).model schema))
  match request.kind with
  | .select => Stateful.ofExcept builder.select
  | .count => Stateful.ofExcept builder.select
  | .insert => builder.insert
  | .update => builder.update
  | .delete => Stateful.ofExcept builder.delete
  | .paginate =>
      Stateful.ofExcept
        (builder.paginate (request.pageRequest config.pagination)
          config.pagination.orderByIdentifier)

end Request

end PolyQuery
