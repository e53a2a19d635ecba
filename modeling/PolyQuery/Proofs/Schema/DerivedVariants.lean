import PolyQuery.Schema.Registry

namespace PolyQuery

/-!
# Derived variants of registered schemas

What a registry answers after any calls on it. A variant is derived from the
schema that its entity has at the first request for it, and kept: registering
the entity again replaces its schema but not the variants that there are. So a
request is answered by a variant of the present schema exactly if the first one
was answered by the same variant.
-/

namespace Registry

/-- A call on a registry. -/
inductive Call where
  | register (schema : Schema)
  | get (entity : String)
  | sharded (entity : String) (storage : String)
  deriving DecidableEq

/--
Make a call: the schema that it answers, if any, and the registry afterwards.
-/
def Call.run
    (registry : Registry) :
    Call →
    Option Schema × Registry
  | .register schema => (some schema, registry.register schema)
  | .get entity => (registry.get? entity, registry)
  | .sharded entity storage => registry.sharded entity storage

/-- The registry after some calls, the latest first. -/
def after :
    List Call →
    Registry
  | [] => empty
  | call :: earlier => (call.run (after earlier)).2

/--
The schema that an entity has after some calls: the one that
was registered last.
-/
def registered?
    (entity : String) :
    List Call →
    Option Schema
  | [] => none
  | .register schema :: earlier =>
      if schema.name = entity then
        some schema
      else
        registered? entity earlier
  | _ :: earlier => registered? entity earlier

/--
The schema that an entity had at the first request for a variant,
if it was registered.
-/
def derivedFrom?
    (entity : String)
    (storage : String) :
    List Call →
    Option Schema
  | [] => none
  | call :: earlier =>
      (derivedFrom? entity storage earlier).or
        (if call = .sharded entity storage then
            registered? entity earlier
          else
            none)

/-- An entity stays registered. -/
theorem isSome_registered?_cons
    {entity : String}
    {earlier : List Call}
    (isRegistered : (registered? entity earlier).isSome)
    (call : Call) :
    (registered? entity (call :: earlier)).isSome := by
  cases call with
  | register schema =>
      rw [registered?]
      split
      · rfl
      · exact isRegistered
  | get | sharded =>
      exact isRegistered

/-- Variants are derived of registered entities only. -/
theorem isSome_registered?_of_derivedFrom?
    {entity storage : String}
    {calls : List Call}
    {schema : Schema}
    (derived : derivedFrom? entity storage calls = some schema) :
    (registered? entity calls).isSome := by
  induction calls with
  | nil =>
      cases derived
  | cons call earlier inductionHypothesis =>
      apply isSome_registered?_cons
      rcases Option.or_eq_some_iff.mp derived with wasDerived | ⟨-, isDerived⟩
      · exact inductionHypothesis wasDerived
      · split at isDerived
        · exact Option.isSome_of_eq_some isDerived
        · cases isDerived

/-- What the two maps of a registry hold after some calls. -/
structure Records
    (registry : Registry)
    (calls : List Call) :
    Prop where
  entities : ∀ entity, registry.get? entity = registered? entity calls
  shards :
    ∀ entity storage,
      registry.shard? entity storage =
        (derivedFrom? entity storage calls).map fun schema =>
          schema.storedAs storage

theorem records_empty :
    Records empty [] where
  entities := fun _ => rfl
  shards := fun _ _ => rfl

section Steps

variable
  {registry : Registry}
  {calls : List Call}
  (records : Records registry calls)

include records

/-- A registration replaces the schema of its entity and no variant. -/
theorem Records.register
    (schema : Schema) :
    Records (registry.register schema) (.register schema :: calls) where
  entities := by
    intro entity
    rw [Registry.register, get?, Entries.get?_insert, registered?]
    split
    · rfl
    · exact records.entities entity
  shards := by
    intro entity storage
    rw [derivedFrom?, if_neg Call.noConfusion, Option.or_none]
    exact records.shards entity storage

theorem Records.get
    (entity : String) :
    Records registry (.get entity :: calls) where
  entities := records.entities
  shards := by
    intro other storage
    rw [derivedFrom?, if_neg Call.noConfusion, Option.or_none]
    exact records.shards other storage

/--
A request is answered by the variant that is kept, or by one
of the present schema.
-/
theorem Records.answer
    (entity storage : String) :
    (registry.sharded entity storage).1 =
      ((derivedFrom? entity storage calls).or (registered? entity calls)).map
        fun schema => schema.storedAs storage := by
  rw [sharded, records.shards, records.entities]
  cases derivedFrom? entity storage calls with
  | some schema =>
      rfl
  | none =>
      cases registered? entity calls <;> rfl

/-- A request keeps the variant that it answers, and changes nothing else. -/
theorem Records.sharded
    (entity storage : String) :
    Records (registry.sharded entity storage).2
      (.sharded entity storage :: calls) := by
  have kept := records.shards entity storage
  have present := records.entities entity
  rw [Registry.sharded, kept, present]
  cases isDerived : derivedFrom? entity storage calls with
  | some schema =>
      refine ⟨records.entities, fun other otherStorage => ?_⟩
      rw [Option.map_some, derivedFrom?, records.shards]
      split
      next isRequested =>
        cases isRequested
        rw [isDerived]
        rfl
      next =>
        rw [Option.or_none]
  | none =>
      cases isRegistered : registered? entity calls with
      | none =>
          refine ⟨records.entities, fun other otherStorage => ?_⟩
          rw [Option.map_none, derivedFrom?, records.shards]
          split
          next isRequested =>
            cases isRequested
            rw [isRegistered, Option.or_none]
          next =>
            rw [Option.or_none]
      | some schema =>
          refine ⟨records.entities, fun other otherStorage => ?_⟩
          rw [Option.map_none, derivedFrom?, shard?, List.lookup_cons]
          by_cases isRequested : (other, otherStorage) = (entity, storage)
          · cases isRequested
            rw [if_pos rfl, isDerived, isRegistered]
            simp
          · have notRequested :
                Call.sharded entity storage ≠ .sharded other otherStorage :=
              fun same => isRequested (by cases same; rfl)
            rw [if_neg notRequested, Option.or_none,
              beq_eq_false_iff_ne.mpr isRequested]
            exact records.shards other otherStorage

theorem Records.run
    (call : Call) :
    Records (call.run registry).2 (call :: calls) := by
  cases call with
  | register schema =>
      exact records.register schema
  | get entity =>
      exact records.get entity
  | sharded entity storage =>
      exact records.sharded entity storage

end Steps

theorem records_after
    (calls : List Call) :
    Records (after calls) calls := by
  induction calls with
  | nil =>
      exact records_empty
  | cons call earlier inductionHypothesis =>
      exact inductionHypothesis.run call

/--
A request for a variant of an entity is answered by the first schema it was made
of.

After any calls there is no answer exactly if the entity is not registered.
Otherwise the answer is the variant of the schema that the entity had at the
first request for this variant, or has now if this is the first one. It is the
variant of the present schema exactly if that other one has the same variant.
-/
theorem variants_keep_first_schema
    (calls : List Call)
    (entity storage : String) :
    (((after calls).sharded entity storage).1 = none ↔
      registered? entity calls = none) ∧
      ((after calls).sharded entity storage).1 =
        ((derivedFrom? entity storage calls).or (registered? entity calls)).map
          (fun schema => schema.storedAs storage) ∧
      (((after calls).sharded entity storage).1 =
          (registered? entity calls).map
            (fun schema => schema.storedAs storage) ↔
        ∀ first, derivedFrom? entity storage calls = some first →
          (registered? entity calls).map
              (fun schema => schema.storedAs storage) =
            some (first.storedAs storage)) := by
  rw [(records_after calls).answer entity storage]
  cases isDerived : derivedFrom? entity storage calls with
  | none =>
      simp
  | some first =>
      obtain ⟨present, isPresent⟩ :=
        Option.isSome_iff_exists.mp
          (isSome_registered?_of_derivedFrom? isDerived)
      simp [isPresent, eq_comm]

/-- An entity with an identifier and perhaps a further field. -/
def noteSchema
    (further : List Field) :
    Schema :=
  {
    name := "note"
    storageName := none
    fields := ⟨"id", none, true, none, none⟩ :: further
  }

/--
A variant is requested, then its entity is registered with a further field.
-/
theorem replaced_schema_leaves_variant :
    registered? "note"
        [.register (noteSchema [⟨"text", none, false, none, none⟩]),
          .sharded "note" "note_1", .register (noteSchema [])] =
      some (noteSchema [⟨"text", none, false, none, none⟩]) ∧
    ((after
        [.register (noteSchema [⟨"text", none, false, none, none⟩]),
          .sharded "note" "note_1", .register (noteSchema [])]).sharded "note"
          "note_1").1 ≠
      some
        ((noteSchema [⟨"text", none, false, none, none⟩]).storedAs
          "note_1") := by
  decide

end Registry

end PolyQuery
