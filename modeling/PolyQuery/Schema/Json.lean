import PolyQuery.Json.Reader
import PolyQuery.Json.Record
import PolyQuery.Schema.Basic

namespace PolyQuery

/-!
# Schema files

A schema as a JSON value. Writing leaves out absent optional fields and always
writes `primary` and `fields`; reading takes absent ones as false, empty or
none. A sequence lives only in a running program and has no written form.
-/

namespace Provider

/-- The written form of a provider. -/
def toJson? : Provider → Option Json
  | .literal value => some (.object [("literal", value)])
  | .now => some (.string "now")
  | .objectId => some (.string "object_id")
  | .uuid => some (.string "uuid")
  | .sequence _ => none

/-- The provider that a value describes. -/
def ofJson?
    (value : Json) :
    Option Provider :=
  match value.choice? with
  | some ("literal", some carried) => some (.literal carried.collapse)
  | _ =>
      match value.plainChoice? with
      | some "now" => some .now
      | some "object_id" => some .objectId
      | some "uuid" => some .uuid
      | _ => none

end Provider

namespace Field

/-- The written form of an optional provider. -/
def providerMember?
    (name : String) :
    Option Provider →
    Option (List (String × Json))
  | none => some []
  | some provider => provider.toJson?.map fun written => [(name, written)]

/-- The written form of a field. -/
def toJson?
    (field : Field) :
    Option Json := do
  let onInsert ← providerMember? "default" field.onInsert
  let onUpdate ← providerMember? "on_update" field.onUpdate
  return .object
    ([("name", .string field.name)] ++
      Record.member "column" (field.column.map Json.string) ++
      [("primary", .bool field.primary)] ++ onInsert ++ onUpdate)

/-- The parts of a field that are read. -/
def layout : Json.Layout :=
  .ofNames ["name", "column", "primary", "default", "on_update"]

/-- The field that a value describes. -/
def ofJson?
    (value : Json) :
    Option Field := do
  let fields ← value.record? layout.names
  let name ← Record.required? fields "name" Json.string?
  let column ← Record.optional? fields "column" Json.string?
  let primary ← Record.withDefault? fields "primary" false Json.bool?
  let onInsert ← Record.optional? fields "default" Provider.ofJson?
  let onUpdate ← Record.optional? fields "on_update" Provider.ofJson?
  return {
    name := name
    column := column
    primary := primary
    onInsert := onInsert
    onUpdate := onUpdate
  }

end Field

namespace Schema

/-- The written form of a schema. -/
def toJson?
    (schema : Schema) :
    Option Json := do
  let fields ← schema.fields.mapM Field.toJson?
  return .object
    ([("name", .string schema.name)] ++
      Record.member "storage_name" (schema.storageName.map Json.string) ++
      [("fields", .array fields)])

/-- The parts of a schema that are read. -/
def layout : Json.Layout :=
  .record
    [("name", .whole), ("storage_name", .whole), ("fields", .list Field.layout)]

/-- The schema that a value describes. -/
def ofJson?
    (value : Json) :
    Option Schema := do
  let fields ← value.record? layout.names
  let name ← Record.required? fields "name" Json.string?
  let storageName ← Record.optional? fields "storage_name" Json.string?
  let described ←
    Record.withDefault? fields "fields" [] (Json.list? Field.ofJson?)
  return {
    name := name
    storageName := storageName
    fields := described
  }

/-- The schema that a text describes. -/
def ofText?
    (text : String) :
    Option Schema :=
  (Json.ofTextWithin? layout text).bind ofJson?

end Schema

end PolyQuery
