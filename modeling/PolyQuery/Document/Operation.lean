import PolyQuery.Json.Record

namespace PolyQuery

/-!
# Document operations

What the document store is asked to do, and the JSON form of it: an object
whose member `op` names the operation.
-/

/-- One update of a batch. -/
structure FilteredUpdate where
  filter : Document
  update : Document
  deriving DecidableEq

/-- What a find asks for besides its filter. -/
structure Window where
  projection : Option Document := none
  sort : Option Document := none
  skip : Option Nat := none
  limit : Option Nat := none
  deriving DecidableEq

/-- An operation on a collection. -/
inductive DocumentOperation where
  | find (collection : String) (filter : Document) (window : Window)
  | count (collection : String) (filter : Document)
  | insert (collection : String) (documents : List Document)
  | update (collection : String) (filter : Document) (changes : Document)
      (many : Bool) (upsert : Bool)
  | bulkUpdate (collection : String) (updates : List FilteredUpdate)
    (upsert : Bool)
  | delete (collection : String) (filter : Document) (many : Bool)
  deriving DecidableEq

namespace FilteredUpdate

/-- The written form. -/
def toJson
    (filtered : FilteredUpdate) :
    Json :=
  .object
    [("filter", .object filtered.filter), ("update", .object filtered.update)]

/-- The update that a value describes. -/
def ofJson?
    (value : Json) :
    Option FilteredUpdate := do
  let fields ← value.record? ["filter", "update"]
  let filter ← Record.required? fields "filter" Json.mapping?
  let update ← Record.required? fields "update" Json.mapping?
  return {
    filter := filter
    update := update
  }

end FilteredUpdate

namespace DocumentOperation

/-- The collection that an operation is for. -/
def collection : DocumentOperation → String
  | .find collection _ _ => collection
  | .count collection _ => collection
  | .insert collection _ => collection
  | .update collection _ _ _ _ => collection
  | .bulkUpdate collection _ _ => collection
  | .delete collection _ _ => collection

/-- An operation by name on a collection. -/
def written
    (name : String)
    (collection : String)
    (members : List (String × Json)) :
    Json :=
  .object
    ([("op", .string name), ("collection", .string collection)] ++ members)

/-- The written form. -/
def toJson : DocumentOperation → Json
  | .find collection filter window =>
      written "find" collection
        ([("filter", .object filter)] ++
          Record.member "projection" (window.projection.map Json.object) ++
          Record.member "sort" (window.sort.map Json.object) ++
          Record.member "skip" (window.skip.map Json.ofNat) ++
          Record.member "limit" (window.limit.map Json.ofNat))
  | .count collection filter =>
      written "count" collection [("filter", .object filter)]
  | .insert collection documents =>
      written "insert" collection
        [("documents", .array (documents.map Json.object))]
  | .update collection filter changes many upsert =>
      written "update" collection
        [("filter", .object filter), ("update", .object changes),
          ("many", .bool many), ("upsert", .bool upsert)]
  | .bulkUpdate collection updates upsert =>
      written "bulk_update" collection
        [("updates", .array (updates.map FilteredUpdate.toJson)),
          ("upsert", .bool upsert)]
  | .delete collection filter many =>
      written "delete" collection
        [("filter", .object filter), ("many", .bool many)]

/--
The name of an operation and its fields: a member `op`, or the
first item of a list.
-/
def tagged? : Json → Option (String × Json)
  | .object members =>
      if Json.isRepeated members "op" then
        none
      else
        match Entries.get? members "op" with
        | some (.string name) =>
            some (name, .object (members.filter fun member => member.1 ≠ "op"))
        | _ => none
  | .array (.string name :: rest) => some (name, .array rest)
  | _ => none

/-- The operation that a value describes. -/
def ofJson?
    (value : Json) :
    Option DocumentOperation := do
  let (name, content) ← tagged? value
  let text := fun fields name => Record.required? fields name Json.string?
  let mapping := fun fields name => Record.required? fields name Json.mapping?
  let flag := fun fields name => Record.required? fields name Json.bool?
  match name with
  | "find" =>
      let fields ←
        content.record?
          ["collection", "filter", "projection", "sort", "skip", "limit"]
      let collection ← text fields "collection"
      let filter ← mapping fields "filter"
      let projection ← Record.optional? fields "projection" Json.mapping?
      let sort ← Record.optional? fields "sort" Json.mapping?
      let skip ← Record.optional? fields "skip" Json.unsigned?
      let limit ← Record.optional? fields "limit" Json.unsigned?
      return .find collection filter {
        projection := projection
        sort := sort
        skip := skip
        limit := limit
      }
  | "count" =>
      let fields ← content.record? ["collection", "filter"]
      let collection ← text fields "collection"
      let filter ← mapping fields "filter"
      return .count collection filter
  | "insert" =>
      let fields ← content.record? ["collection", "documents"]
      let collection ← text fields "collection"
      let documents ←
        Record.required? fields "documents" (Json.list? Json.mapping?)
      return .insert collection documents
  | "update" =>
      let fields ←
        content.record? ["collection", "filter", "update", "many", "upsert"]
      let collection ← text fields "collection"
      let filter ← mapping fields "filter"
      let update ← mapping fields "update"
      let many ← flag fields "many"
      let upsert ← flag fields "upsert"
      return .update collection filter update many upsert
  | "bulk_update" =>
      let fields ← content.record? ["collection", "updates", "upsert"]
      let collection ← text fields "collection"
      let updates ←
        Record.required? fields "updates" (Json.list? FilteredUpdate.ofJson?)
      let upsert ← flag fields "upsert"
      return .bulkUpdate collection updates upsert
  | "delete" =>
      let fields ← content.record? ["collection", "filter", "many"]
      let collection ← text fields "collection"
      let filter ← mapping fields "filter"
      let many ← flag fields "many"
      return .delete collection filter many
  | _ => none

end DocumentOperation

end PolyQuery
