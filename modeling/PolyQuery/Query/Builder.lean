import PolyQuery.Query.Basic
import PolyQuery.Query.Page
import PolyQuery.Supply

namespace PolyQuery

/-!
# Query builder

A builder gathers clauses. Filters, projections, orders, groups and conditions
on groups add to what is there; limits, offsets and values replace it. A
terminal operation freezes what was gathered into a query and leaves the
builder as it was, so one builder serves any number of queries.

An update of one set of values, and a delete, need a filter unless the caller
opted in to touching every row. The rows of a batch update carry their own
identifiers and need none.
-/

/-- Gathered clauses, with the entity and the values once they are given. -/
structure Builder extends Clauses where
  schema : Option Schema := none
  values : Option Mutation := none

namespace Builder

/-- Set the entity. -/
def model
    (builder : Builder)
    (schema : Schema) :
    Builder :=
  { builder with schema := some schema }

/-- Ask something of a field. -/
def constrain
    (builder : Builder)
    (field : String)
    (asked : FieldFilter) :
    Builder :=
  { builder with filter := builder.filter.constrain field asked }

/-- Ask a field to equal a value. -/
def constrainEqual
    (builder : Builder)
    (field : String)
    (value : Json) :
    Builder :=
  builder.constrain field (.equals value)

/-- Ask a condition of a field. -/
def constrainBy
    (builder : Builder)
    (field : String)
    (tag : String)
    (operand : Json) :
    Builder :=
  builder.constrain field (.conditions [⟨tag, operand⟩])

/-- Ask all that a filter asks. -/
def constrainAll
    (builder : Builder)
    (filter : Filter) :
    Builder :=
  { builder with filter := Filter.constrainAll builder.filter filter }

/-- Add a condition to the alternatives of a field. -/
def alternative
    (builder : Builder)
    (field : String)
    (tag : String)
    (operand : Json) :
    Builder :=
  { builder with
    alternatives := builder.alternatives.extend field [⟨tag, operand⟩] }

/-- Add all alternatives of a filter. -/
def alternativeAll
    (builder : Builder)
    (alternatives : AlternativeFilter) :
    Builder :=
  { builder with
    alternatives :=
      AlternativeFilter.extendAll builder.alternatives alternatives }

/-- Add an order term. -/
def orderBy
    (builder : Builder)
    (target : Target)
    (direction : Direction) :
    Builder :=
  { builder with order := builder.order ++ [⟨target, direction⟩] }

/-- Add a group. -/
def groupBy
    (builder : Builder)
    (target : Target) :
    Builder :=
  { builder with groups := builder.groups ++ [target] }

/-- Add a condition on groups. -/
def groupCondition
    (builder : Builder)
    (target : Target)
    (tag : String)
    (operand : Json) :
    Builder :=
  { builder with having := builder.having ++ [⟨target, ⟨tag, operand⟩⟩] }

/-- Ask for rows that differ somewhere, unless rows are told apart already. -/
def distinctRows
    (builder : Builder) :
    Builder :=
  match builder.distinct with
  | .none => { builder with distinct := .all }
  | _ => builder

/--
Ask for rows that differ in some fields, in addition to those asked for before.
-/
def distinctOn
    (builder : Builder)
    (fields : List String) :
    Builder :=
  let earlier :=
    match builder.distinct with
    | .on targets => targets
    | _ => []
  { builder with distinct := .on (earlier ++ fields.map Target.field) }

/-- Add fields to the projection. -/
def project
    (builder : Builder)
    (fields : List String) :
    Builder :=
  { builder with projection := builder.projection ++ fields.map Target.field }

/-- Add an expression to the projection. -/
def projectRaw
    (builder : Builder)
    (expression : String) :
    Builder :=
  { builder with projection := builder.projection ++ [.raw expression] }

/-- Set the values of a write. -/
def write
    (builder : Builder)
    (values : Mutation) :
    Builder :=
  { builder with values := some values }

/-- Set the number of rows to answer. -/
def take
    (builder : Builder)
    (limit : Nat) :
    Builder :=
  { builder with limit := some limit }

/-- Set the number of rows to leave out first. -/
def drop
    (builder : Builder)
    (offset : Nat) :
    Builder :=
  { builder with offset := some offset }

/-- Opt in to mutations without a filter. -/
def allowingFullTable
    (builder : Builder) :
    Builder :=
  { builder with allowFullTable := true }

/-- Touch one row only. -/
def touchingOne
    (builder : Builder) :
    Builder :=
  { builder with single := true }

/-- Insert when an update matches nothing. -/
def insertingIfAbsent
    (builder : Builder) :
    Builder :=
  { builder with upsert := true }

/-- Whether an order was given. -/
def hasOrder
    (builder : Builder) :
    Bool :=
  !builder.order.isEmpty

/--
The builder restricted to a page.

Without an order of its own, and if so configured, it is ordered by the
identifier, so that pages stay stable.
-/
def windowed
    (builder : Builder)
    (request : PageRequest)
    (orderByIdentifier : Bool) :
    Builder :=
  let window :=
    { builder with
      limit := request.limit
      offset := request.offset }
  if orderByIdentifier && !window.hasOrder then
    match window.schema.bind Schema.primaryKey? with
    | some key => window.orderBy (.field key.name) .ascending
    | none => window
  else
    window

/-- The entity, which must have been given. -/
def requireSchema
    (builder : Builder) :
    Except QueryError Schema :=
  match builder.schema with
  | some schema => .ok schema
  | none => .error .missingModel

/-- Refuse to touch every row unless the caller opted in. -/
def guardFullTable
    (builder : Builder)
    (action : String)
    (schema : Schema) :
    Except QueryError Unit :=
  if builder.filter.isEmpty && !builder.allowFullTable then
    .error (.missingFilter action schema.name)
  else
    .ok ()

/-- The gathered clauses as a query of a kind. -/
def freeze
    (builder : Builder)
    (kind : StatementKind)
    (schema : Schema)
    (values : Option Mutation) :
    Query :=
  { builder.toClauses with
    kind := kind
    schema := schema
    values := values }

/-- The select of what was gathered. -/
def select
    (builder : Builder) :
    Except QueryError Query := do
  let schema ← builder.requireSchema
  return builder.freeze .select schema none

/-- The values of a write, an empty row if none were given. -/
def givenValues
    (builder : Builder) :
    Mutation :=
  builder.values.getD (.single [])

/-- The insert of the given values, completed from a supply. -/
def insert
    (builder : Builder) :
    Stateful Supply Query := do
  let schema ← Stateful.ofExcept builder.requireSchema
  let resolved ←
    (builder.givenValues.resolve Supply.evaluate schema .insert :
      StateM Supply Mutation)
  return builder.freeze .insert schema (some resolved)

/-- The update by the given values, completed from a supply. -/
def update
    (builder : Builder) :
    Stateful Supply Query := do
  let schema ← Stateful.ofExcept builder.requireSchema
  let values := builder.givenValues
  if !values.isBatch then
    Stateful.ofExcept (builder.guardFullTable "update" schema)
  let resolved ←
    (values.resolve Supply.evaluate schema .update : StateM Supply Mutation)
  return builder.freeze .update schema (some resolved)

/-- The delete of what matches. -/
def delete
    (builder : Builder) :
    Except QueryError Query := do
  let schema ← builder.requireSchema
  builder.guardFullTable "delete" schema
  return builder.freeze .delete schema none

/-- The select of a page. -/
def paginate
    (builder : Builder)
    (request : PageRequest)
    (orderByIdentifier : Bool) :
    Except QueryError Query :=
  (builder.windowed request orderByIdentifier).select

end Builder

end PolyQuery
