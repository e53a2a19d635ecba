import PolyQuery.Document.Compile
import PolyQuery.Proofs.Computation.Except
import PolyQuery.Proofs.Entries

namespace PolyQuery

open Failing

/-!
# Rows in the store

Where the names of a schema are unambiguous, the storage key of a field leads
back to its name, so a stored row read back is the row itself but for its
identifier. A field that is named like the identifier's key, but is not the
identifier, is ambiguous: its name stands for the identifier.
-/

/-- An item is alone with its value if no two items have equal ones. -/
theorem filter_eq_singleton
    {α β : Type}
    [DecidableEq β]
    {items : List α}
    {value : α → β}
    (distinct : (items.map value).Nodup)
    {item : α}
    (member : item ∈ items) :
    items.filter (fun other => value other = value item) = [item] := by
  induction items with
  | nil =>
      cases member
  | cons first rest inductionHypothesis =>
      obtain ⟨firstAbsent, restDistinct⟩ := List.nodup_cons.mp distinct
      rcases List.mem_cons.mp member with isFirst | inRest
      · subst isFirst
        have noneElse :
            rest.filter (fun other => value other = value item) = [] := by
          rw [List.filter_eq_nil_iff]
          intro other otherMember same
          exact firstAbsent
            (of_decide_eq_true same ▸ List.mem_map_of_mem otherMember)
        rw [List.filter_cons_of_pos (by simp), noneElse]
      · have different : value first ≠ value item := fun same =>
          firstAbsent (same ▸ List.mem_map_of_mem inRest)
        rw [List.filter_cons_of_neg (by simpa using different)]
        exact inductionHypothesis restDistinct inRest

namespace Schema

/--
One field is the identifier, no two fields share a name or a storage name, and
no other field is stored under the identifier's key.
-/
structure Unambiguous
    (schema : Schema)
    (key : Field) :
    Prop where
  identifiers : schema.fields.filter Field.primary = [key]
  names : (schema.fields.map Field.name).Nodup
  storages : (schema.fields.map Field.storage).Nodup
  ordinary :
    ∀ field ∈ schema.fields, field.primary = false → field.storage ≠ idKey

/--
Where no two fields share a name, a field is the one that its name stands for.
-/
theorem field?_of_distinct
    {schema : Schema}
    (distinctNames : (schema.fields.map Field.name).Nodup)
    {field : Field}
    (member : field ∈ schema.fields) :
    schema.field? field.name = some field := by
  rw [field?, ← List.head?_filter, filter_eq_singleton distinctNames member]
  rfl

theorem fieldForStorage?_of_distinct
    {schema : Schema}
    (distinctStorages : (schema.fields.map Field.storage).Nodup)
    {field : Field}
    (member : field ∈ schema.fields) :
    schema.fieldForStorage? field.storage = some field := by
  rw [fieldForStorage?, ← List.head?_filter,
    filter_eq_singleton distinctStorages member]
  rfl

/-- No field but the identifier is named like the identifier's key. -/
def ReservesIdKey
    (schema : Schema) :
    Prop :=
  ∀ field ∈ schema.fields, field.name = idKey → field.primary = true

/-- Every name of a row is that of a field. -/
def Knows
    (schema : Schema)
    (row : Document) :
    Prop :=
  ∀ name ∈ row.keys, ∃ field ∈ schema.fields, field.name = name

section Names

variable
  {schema : Schema}
  {key field : Field}
  (unambiguous : schema.Unambiguous key)

include unambiguous

theorem Unambiguous.mem_filter_key :
    key ∈ schema.fields.filter Field.primary := by
  rw [unambiguous.identifiers]
  exact List.mem_singleton_self key

theorem Unambiguous.key_mem :
    key ∈ schema.fields :=
  (List.mem_filter.mp unambiguous.mem_filter_key).1

theorem Unambiguous.primary_key :
    key.primary = true :=
  (List.mem_filter.mp unambiguous.mem_filter_key).2

theorem Unambiguous.eq_key
    (member : field ∈ schema.fields)
    (isPrimary : field.primary = true) :
    field = key := by
  have filtered := List.mem_filter.mpr ⟨member, isPrimary⟩
  rw [unambiguous.identifiers] at filtered
  exact List.mem_singleton.mp filtered

theorem Unambiguous.primaryKey?_eq :
    schema.primaryKey? = some key := by
  rw [primaryKey?, ← List.head?_filter, unambiguous.identifiers]
  rfl

theorem Unambiguous.field?_eq
    (member : field ∈ schema.fields) :
    schema.field? field.name = some field :=
  field?_of_distinct unambiguous.names member

theorem Unambiguous.fieldForStorage?_eq
    (member : field ∈ schema.fields) :
    schema.fieldForStorage? field.storage = some field :=
  fieldForStorage?_of_distinct unambiguous.storages member

end Names

end Schema

namespace DocumentCompiler

section Naming

variable
  {schema : Schema}
  {key field : Field}
  (unambiguous : schema.Unambiguous key)
  (reserved : schema.ReservesIdKey)

include unambiguous

theorem fieldKey_key :
    fieldKey schema key.name = idKey := by
  unfold fieldKey
  split
  · rfl
  · rw [unambiguous.field?_eq unambiguous.key_mem]
    simp [unambiguous.primary_key]

theorem fieldName_idKey :
    fieldName schema idKey = key.name := by
  simp [fieldName, unambiguous.primaryKey?_eq]

include reserved

theorem fieldKey_ordinary
    (member : field ∈ schema.fields)
    (isOrdinary : field.primary = false) :
    fieldKey schema field.name = field.storage := by
  have notIdKey : field.name ≠ idKey := by
    intro isIdKey
    rw [reserved field member isIdKey] at isOrdinary
    cases isOrdinary
  simp [fieldKey, notIdKey, unambiguous.field?_eq member, isOrdinary]

/-- The storage key of a field leads back to its name. -/
theorem fieldName_fieldKey
    (member : field ∈ schema.fields) :
    fieldName schema (fieldKey schema field.name) = field.name := by
  cases isPrimary : field.primary with
  | true =>
      rw [unambiguous.eq_key member isPrimary, fieldKey_key unambiguous,
        fieldName_idKey unambiguous]
  | false =>
      have notIdKey := unambiguous.ordinary field member isPrimary
      rw [fieldKey_ordinary unambiguous reserved member isPrimary]
      simp [fieldName, notIdKey, unambiguous.fieldForStorage?_eq member]

end Naming

/-- An entry of a row and the entry that it is stored as. -/
def StoredAs
    (codec : IdentifierCodec)
    (schema : Schema)
    (entry : String × Json)
    (stored : String × Json) :
    Prop :=
  stored.1 = fieldKey schema entry.1 ∧
    storedValue codec (fieldKey schema entry.1) entry.2 = .ok stored.2

/--
A row is stored entry by entry, the entries merged where their keys are equal.
-/
theorem toStore_eq_ok
    {codec : IdentifierCodec}
    {schema : Schema}
    {row stored : Document}
    (succeeded : toStore codec schema row = .ok stored) :
    ∃ pairs : Document,
      stored = Entries.ofList pairs ∧
        List.Forall₂ (StoredAs codec schema) row pairs := by
  obtain ⟨pairs, traversed, same⟩ := bind_eq_ok.mp succeeded
  cases same
  refine ⟨pairs, rfl, (mapM_eq_ok.mp traversed).imp ?_⟩
  intro entry pair computed
  obtain ⟨value, valueStored, isPair⟩ := bind_eq_ok.mp computed
  cases isPair
  exact ⟨rfl, valueStored⟩

section Rows

variable
  {codec : IdentifierCodec}
  {schema : Schema}
  {key : Field}
  (unambiguous : schema.Unambiguous key)
  (reserved : schema.ReservesIdKey)
  {row pairs : Document}
  (known : schema.Knows row)
  (stored : List.Forall₂ (StoredAs codec schema) row pairs)

include unambiguous reserved known stored

/-- The keys of what a row is stored as lead back to its names. -/
theorem map_fieldName_keys :
    pairs.keys.map (fieldName schema) = row.keys := by
  induction stored with
  | nil =>
      rfl
  | cons headStored _ inductionHypothesis =>
      have headKnown := known _ List.mem_cons_self
      have restKnown : schema.Knows _ := fun name member =>
        known name (List.mem_cons_of_mem _ member)
      obtain ⟨field, member, isName⟩ := headKnown
      rw [Entries.keys_cons, Entries.keys_cons, List.map_cons,
        inductionHypothesis restKnown, headStored.1, ← isName,
        fieldName_fieldKey unambiguous reserved member]

/-- What a row with distinct names is stored as has distinct keys. -/
theorem distinct_of_stored
    (distinct : row.Distinct) :
    pairs.Distinct := by
  have distinctNames : (pairs.keys.map (fieldName schema)).Nodup := by
    rw [map_fieldName_keys unambiguous reserved known stored]
    exact distinct
  exact distinctNames.of_map _

/-- Apart from its identifier, what a row is stored as reads back as the row. -/
theorem map_ordinary_entries :
    (pairs.filter fun entry => entry.1 ≠ idKey).map
        (fun entry =>
          (fieldName schema entry.1,
            if entry.1 = idKey then codec.decode entry.2 else entry.2)) =
      row.filter fun entry => entry.1 ≠ key.name := by
  induction stored with
  | nil =>
      rfl
  | @cons entry pair rest others headStored _ inductionHypothesis =>
      obtain ⟨field, member, isName⟩ := known _ List.mem_cons_self
      have restKnown : schema.Knows rest := fun name member =>
        known name (List.mem_cons_of_mem _ member)
      have restRead := inductionHypothesis restKnown
      obtain ⟨isKey, valueStored⟩ := headStored
      have readBack : fieldName schema pair.1 = entry.1 := by
        rw [isKey, ← isName]
        exact fieldName_fieldKey unambiguous reserved member
      by_cases isIdentifier : pair.1 = idKey
      · have isKeyName : entry.1 = key.name := by
          rw [← readBack, isIdentifier, fieldName_idKey unambiguous]
        rw [List.filter_cons_of_neg (by simp [isIdentifier]),
          List.filter_cons_of_neg (by simp [isKeyName])]
        exact restRead
      · have notKeyName : entry.1 ≠ key.name := by
          intro isKeyName
          rw [isKeyName, fieldKey_key unambiguous] at isKey
          exact isIdentifier isKey
        have sameValue : pair.2 = entry.2 := by
          rw [← isKey] at valueStored
          simpa [storedValue, isIdentifier, eq_comm] using valueStored
        rw [List.filter_cons_of_pos (by simpa using isIdentifier),
          List.filter_cons_of_pos (by simpa using notKeyName), List.map_cons,
          restRead, if_neg isIdentifier, readBack, sameValue]

/--
A stored row reads back as the row with the identifier that it is stored under.
-/
theorem fromStore_withIdFirst
    (distinct : row.Distinct)
    (identifier : Json) :
    fromStore codec schema (Collection.withIdFirst identifier pairs) =
      (key.name, codec.decode identifier) :: row.filter fun entry =>
        entry.1 ≠ key.name := by
  have ordinaryDistinct :
      Entries.Distinct
        ((key.name, codec.decode identifier) ::
          row.filter fun entry => entry.1 ≠ key.name) := by
    refine List.nodup_cons.mpr ⟨?_, ?_⟩
    · intro member
      obtain ⟨entry, entryMember, isKeyName⟩ := List.mem_map.mp member
      have notKeyName := (List.mem_filter.mp entryMember).2
      simp [isKeyName] at notKeyName
    · exact distinct.sublist (List.filter_sublist.map _)
  unfold fromStore Collection.withIdFirst
  rw [List.map_cons, map_ordinary_entries unambiguous reserved known stored,
    fieldName_idKey unambiguous, if_pos rfl]
  exact Entries.ofList_of_distinct ordinaryDistinct

end Rows

end DocumentCompiler

end PolyQuery
