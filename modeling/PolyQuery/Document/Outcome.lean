import PolyQuery.Json.Basic

namespace PolyQuery

/-!
# Outcomes of mutations
-/

/-- What a mutation did. -/
structure Outcome where
  affected : Nat := 0
  matched : Nat := 0
  modified : Nat := 0
  upsertedId : Option String := none
  insertedIds : List Json := []

/-- The written form: identifiers are left out if there are none. -/
def Outcome.toJson
    (outcome : Outcome) :
    Json :=
  .object
    ([("affected_rows", .ofNat outcome.affected),
      ("matched_count", .ofNat outcome.matched),
      ("modified_count", .ofNat outcome.modified)] ++
      (match outcome.upsertedId with
        | some identifier => [("upserted_id", .string identifier)]
        | none => []) ++
      (if outcome.insertedIds.isEmpty then
        []
      else
        [("inserted_ids", .array outcome.insertedIds)]))

end PolyQuery
