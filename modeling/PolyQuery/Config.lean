import PolyQuery.Json.Reader
import PolyQuery.Json.Record
import PolyQuery.Sql.Dialect

namespace PolyQuery

/-!
# Configuration

The settings of a project. Every part may be left out of a file and then takes
its default; writing gives every part.
-/

/-- How pages are cut. -/
structure Pagination where
  defaultPageSize : Nat := 20
  maxPageSize : Option Nat := none
  /-- Whether unordered pages are ordered by the identifier. -/
  orderByIdentifier : Bool := true
  deriving DecidableEq

/-- The settings of a project. -/
structure Config where
  version : String := "0.1.0"
  dialect : Dialect := .sqlite
  pagination : Pagination := {}
  /-- Whether mutations may go without a filter and without opting in. -/
  allowFullTableMutation : Bool := false
  deriving DecidableEq

namespace Pagination

/-- The parts of the page settings that are read. -/
def layout : Json.Layout :=
  .ofNames ["default_page_size", "max_page_size", "order_by_identifier"]

/-- The page settings that a value describes. -/
def ofJson?
    (value : Json) :
    Option Pagination := do
  let fields ← value.record? layout.names
  let defaultPageSize ←
    Record.withDefault? fields "default_page_size" 20 Json.unsigned?
  let maxPageSize ← Record.optional? fields "max_page_size" Json.unsigned?
  let orderByIdentifier ←
    Record.withDefault? fields "order_by_identifier" true Json.bool?
  return {
    defaultPageSize := defaultPageSize
    maxPageSize := maxPageSize
    orderByIdentifier := orderByIdentifier
  }

end Pagination

namespace Config

/-- The name of a project's settings file. -/
def fileName : String :=
  "airquery.config.json"

/-- The parts of the relational settings that are read. -/
def relationalLayout : Json.Layout :=
  .ofNames ["dialect"]

/-- The dialect that the relational settings name. -/
def dialectOfJson?
    (value : Json) :
    Option Dialect := do
  let fields ← value.record? relationalLayout.names
  Record.withDefault? fields "dialect" .sqlite fun name =>
    name.plainChoice?.bind Dialect.ofName?

/-- The parts of the safety settings that are read. -/
def safetyLayout : Json.Layout :=
  .ofNames ["allow_full_table_mutation"]

/-- Whether the safety settings lift the guard against unfiltered mutations. -/
def allowanceOfJson?
    (value : Json) :
    Option Bool := do
  let fields ← value.record? safetyLayout.names
  Record.withDefault? fields "allow_full_table_mutation" false Json.bool?

/-- The parts of the settings that are read. -/
def layout : Json.Layout :=
  .record [
    ("version", .whole),
    ("sql", relationalLayout),
    ("pagination", Pagination.layout),
    ("safety", safetyLayout)]

/-- The settings that a value describes. -/
def ofJson?
    (value : Json) :
    Option Config := do
  let fields ← value.record? layout.names
  let version ← Record.withDefault? fields "version" "0.1.0" Json.string?
  let dialect ← Record.withDefault? fields "sql" .sqlite dialectOfJson?
  let pagination ← Record.withDefault? fields "pagination" {} Pagination.ofJson?
  let allowed ← Record.withDefault? fields "safety" false allowanceOfJson?
  return {
    version := version
    dialect := dialect
    pagination := pagination
    allowFullTableMutation := allowed
  }

/-- The settings that a text describes. -/
def ofText?
    (text : String) :
    Option Config :=
  (Json.ofTextWithin? layout text).bind ofJson?

/-- The written form of the settings. -/
def toJson
    (config : Config) :
    Json :=
  let pagination := config.pagination
  .object [
    ("version", .string config.version),
    ("sql", .object [("dialect", .string config.dialect.name)]),
    ("pagination", .object [
      ("default_page_size", .ofNat pagination.defaultPageSize),
      ("max_page_size", (pagination.maxPageSize.map Json.ofNat).getD .null),
      ("order_by_identifier", .bool pagination.orderByIdentifier)]),
    ("safety", .object [
      ("allow_full_table_mutation", .bool config.allowFullTableMutation)])]

end Config

end PolyQuery
