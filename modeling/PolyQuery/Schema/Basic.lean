import PolyQuery.Json.Basic
import PolyQuery.QueryError

namespace PolyQuery

/-!
# Entities

A schema names the fields of an entity, the name under which each is stored,
the identifier field, and the sources of values that a write leaves out.
-/

/-- A source of values for a field that a write leaves out. -/
inductive Provider where
  /-- Always the same value. -/
  | literal (value : Json)
  /-- The time of the write. -/
  | now
  /-- A fresh document identifier. -/
  | objectId
  /-- A fresh random identifier. -/
  | uuid
  /-- The next number of a named sequence. -/
  | sequence (name : String)
  deriving DecidableEq

/-- One field of an entity. -/
structure Field where
  name : String
  /-- The name in the store, if it differs. -/
  column : Option String
  /-- Whether the field identifies the rows. -/
  primary : Bool
  /-- Fills the field on insert. -/
  onInsert : Option Provider
  /-- Fills the field on update. -/
  onUpdate : Option Provider
  deriving DecidableEq

/-- The name of a field in the store. -/
def Field.storage
    (field : Field) :
    String :=
  field.column.getD field.name

/-- An entity and its fields. -/
structure Schema where
  name : String
  /-- The table or collection, if it is named otherwise. -/
  storageName : Option String
  fields : List Field
  deriving DecidableEq

namespace Schema

/-- The table or collection of an entity. -/
def storage
    (schema : Schema) :
    String :=
  schema.storageName.getD schema.name

/-- The first field with a name. -/
def field?
    (schema : Schema)
    (name : String) :
    Option Field :=
  schema.fields.find? fun field => field.name = name

/-- The field with a name, which the entity must have. -/
def resolve
    (schema : Schema)
    (name : String) :
    Except QueryError Field :=
  match schema.field? name with
  | some field => .ok field
  | none => .error (.unknownField schema.name name)

/-- The storage name of a field that the entity must have. -/
def column
    (schema : Schema)
    (name : String) :
    Except QueryError String :=
  (schema.resolve name).map Field.storage

/-- The first field with a storage name. -/
def fieldForStorage?
    (schema : Schema)
    (storage : String) :
    Option Field :=
  schema.fields.find? fun field => field.storage = storage

/-- The first identifier field. -/
def primaryKey?
    (schema : Schema) :
    Option Field :=
  schema.fields.find? Field.primary

/-- The same entity in another table or collection. -/
def storedAs
    (schema : Schema)
    (storage : String) :
    Schema :=
  { schema with storageName := some storage }

end Schema

end PolyQuery
