import PolyQuery.Json.Record
import PolyQuery.Schema.Basic

namespace PolyQuery

/-!
# Written values

The values of an insert or update: one row, or a batch of rows. Resolving them
against a schema adds what the providers of left-out fields answer. A resolved
row has the fields in schema order, then the names that the schema does not
know in the caller's order; a provider is asked once for each row that leaves
its field out and never otherwise.
-/

/-- One row, or a batch of rows. -/
inductive Mutation where
  | single (row : Document)
  | batch (rows : List Document)
  deriving DecidableEq

/-- Which providers fill the fields that are left out. -/
inductive WritePurpose where
  | insert
  | update
  deriving DecidableEq

/-- The provider that fills a field. -/
def Field.provider?
    (field : Field) :
    WritePurpose →
    Option Provider
  | .insert => field.onInsert
  | .update => field.onUpdate

namespace Mutation

/-- Whether there is a list of rows, be it of one row. -/
def isBatch : Mutation → Bool
  | .single _ => false
  | .batch _ => true

/-- The rows in order. -/
def rows : Mutation → List Document
  | .single row => [row]
  | .batch rows => rows

/-- The written form. -/
def toJson : Mutation → Json
  | .single row => .object row
  | .batch rows => .array (rows.map Json.object)

/-- An object is one row, a list of objects a batch. -/
def ofJson? : Json → Option Mutation
  | .object members => (Json.object members).mapping?.map single
  | .array items => (items.mapM Json.mapping?).map batch
  | _ => none

section Resolution

variable {m : Type → Type} [Monad m]

/-- The values of the fields of a schema, in its order. -/
def resolveFields
    (evaluate : Provider → m Json)
    (purpose : WritePurpose)
    (row : Document) :
    List Field →
    Document →
    m Document
  | [], resolved => pure resolved
  | field :: rest, resolved =>
      match row.get? field.name with
      | some value =>
          resolveFields evaluate purpose row rest
            (resolved.insert field.name value)
      | none =>
          match field.provider? purpose with
          | none => resolveFields evaluate purpose row rest resolved
          | some provider => do
              let value ← evaluate provider
              resolveFields evaluate purpose row rest
                (resolved.insert field.name value)

/-- A row with left-out fields filled and unknown names last. -/
def resolveRow
    (evaluate : Provider → m Json)
    (schema : Schema)
    (purpose : WritePurpose)
    (row : Document) :
    m Document := do
  let known ← resolveFields evaluate purpose row schema.fields []
  let unknown := row.filter fun entry => (schema.field? entry.1).isNone
  return known.insertAll unknown

/-- Every row resolved in order. -/
def resolveRows
    (evaluate : Provider → m Json)
    (schema : Schema)
    (purpose : WritePurpose) :
    List Document →
    m (List Document)
  | [] => pure []
  | row :: rest => do
      let resolved ← resolveRow evaluate schema purpose row
      let others ← resolveRows evaluate schema purpose rest
      return resolved :: others

/-- The rows resolved, a single row staying single and a batch a batch. -/
def resolve
    (evaluate : Provider → m Json)
    (schema : Schema)
    (purpose : WritePurpose) :
    Mutation →
    m Mutation
  | .single row => do
      let resolved ← resolveRow evaluate schema purpose row
      return .single resolved
  | .batch rows => do
      let resolved ← resolveRows evaluate schema purpose rows
      return .batch resolved

end Resolution

end Mutation

end PolyQuery
