import PolyQuery.Schema.Basic

namespace PolyQuery

/-!
# Schema registry

The schemas of every registered entity and the variants derived from them for
other tables or collections. A variant is derived once for each pair of an
entity and a storage name and then kept.
-/

/-- Registered entities and their derived variants. -/
structure Registry where
  entities : Entries Schema
  shards : List ((String × String) × Schema)

namespace Registry

/-- No entity registered. -/
def empty : Registry :=
  {
    entities := []
    shards := []
  }

/-- Register an entity, replacing one of the same name. -/
def register
    (registry : Registry)
    (schema : Schema) :
    Registry :=
  { registry with entities := registry.entities.insert schema.name schema }

/-- The registered schema of an entity. -/
def get?
    (registry : Registry)
    (entity : String) :
    Option Schema :=
  registry.entities.get? entity

/-- The kept variant of an entity for a storage name. -/
def shard?
    (registry : Registry)
    (entity : String)
    (storage : String) :
    Option Schema :=
  registry.shards.lookup (entity, storage)

/--
The variant of an entity for a storage name, derived at the first request.
-/
def sharded
    (registry : Registry)
    (entity : String)
    (storage : String) :
    Option Schema × Registry :=
  match registry.shard? entity storage with
  | some kept => (some kept, registry)
  | none =>
      match registry.get? entity with
      | none => (none, registry)
      | some schema =>
          let derived := schema.storedAs storage
          (some derived,
            { registry with
              shards := ((entity, storage), derived) :: registry.shards })

/-- The names of the registered entities in order of their characters. -/
def entityNames
    (registry : Registry) :
    List String :=
  registry.entities.keys.mergeSort fun left right => left ≤ right

end Registry

end PolyQuery
