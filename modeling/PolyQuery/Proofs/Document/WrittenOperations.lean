import PolyQuery.Document.Operation
import PolyQuery.Proofs.Schema.WrittenSchemas

namespace PolyQuery

open Json Record

/-!
# Written operations

An operation is written as a record that has its name and its collection first.
The name is taken out before the other parts are read, which it does not share a
name with. What a find leaves out of its window is absent when it is read back.
-/

namespace FilteredUpdate

/-- The parts of an update of a batch. -/
def parts
    (filtered : FilteredUpdate) :
    List (String × Option Json) :=
  [("filter", some (.object filtered.filter)),
    ("update", some (.object filtered.update))]

theorem ofJson?_toJson
    {filtered : FilteredUpdate}
    (filterSingle : (Json.object filtered.filter).Collapsed)
    (updateSingle : (Json.object filtered.update).Collapsed) :
    ofJson? filtered.toJson = some filtered := by
  have distinct : (filtered.parts.map Prod.fst).Nodup :=
    (by decide : ["filter", "update"].Nodup)
  have isRecord : filtered.toJson = .object (present filtered.parts) := rfl
  have filter :
      required? (present filtered.parts) "filter" mapping? =
        some filtered.filter :=
    mapping?_present distinct filterSingle (by simp [parts])
  have update :
      required? (present filtered.parts) "update" mapping? =
        some filtered.update :=
    mapping?_present distinct updateSingle (by simp [parts])
  simp only [ofJson?, isRecord, record?_object (distinct_present distinct),
    filter, update, Option.bind_eq_bind, Option.bind_some, Option.pure_def]

end FilteredUpdate

namespace DocumentOperation

/-- The documents that an operation is made of. -/
def documents : DocumentOperation → List Document
  | .find _ filter window =>
      filter :: (window.projection.toList ++ window.sort.toList)
  | .count _ filter => [filter]
  | .insert _ documents => documents
  | .update _ filter changes _ _ => [filter, changes]
  | .bulkUpdate _ updates _ =>
      updates.flatMap fun filtered => [filtered.filter, filtered.update]
  | .delete _ filter _ => [filter]

/-- The numbers of documents that an operation skips or takes at most. -/
def counts : DocumentOperation → List Nat
  | .find _ _ window => window.skip.toList ++ window.limit.toList
  | _ => []

/--
In no document of an operation a name repeats, and its counts have 64 bits.
-/
structure Representable
    (operation : DocumentOperation) :
    Prop where
  single : ∀ document ∈ operation.documents, (Json.object document).Collapsed
  within : ∀ count ∈ operation.counts, count ≤ unsignedMax

/-- The name that an operation is written under. -/
def tag : DocumentOperation → String
  | .find _ _ _ => "find"
  | .count _ _ => "count"
  | .insert _ _ => "insert"
  | .update _ _ _ _ _ => "update"
  | .bulkUpdate _ _ _ => "bulk_update"
  | .delete _ _ _ => "delete"

/-- The parts of an operation besides its name. -/
def parts : DocumentOperation → List (String × Option Json)
  | .find collection filter window =>
      [("collection", some (.string collection)),
        ("filter", some (.object filter)),
        ("projection", window.projection.map .object),
        ("sort", window.sort.map .object), ("skip", window.skip.map .ofNat),
        ("limit", window.limit.map .ofNat)]
  | .count collection filter =>
      [("collection", some (.string collection)),
        ("filter", some (.object filter))]
  | .insert collection documents =>
      [("collection", some (.string collection)),
        ("documents", some (.array (documents.map .object)))]
  | .update collection filter changes many upsert =>
      [("collection", some (.string collection)),
        ("filter", some (.object filter)), ("update", some (.object changes)),
        ("many", some (.bool many)), ("upsert", some (.bool upsert))]
  | .bulkUpdate collection updates upsert =>
      [("collection", some (.string collection)),
        ("updates", some (.array (updates.map FilteredUpdate.toJson))),
        ("upsert", some (.bool upsert))]
  | .delete collection filter many =>
      [("collection", some (.string collection)),
        ("filter", some (.object filter)), ("many", some (.bool many))]

/-- An operation is written as its name and its parts. -/
theorem toJson_eq
    (operation : DocumentOperation) :
    operation.toJson =
      .object
        (present
          (("op", some (.string operation.tag)) :: operation.parts)) := by
  cases operation with
  | find collection filter window =>
      simp only [toJson, written, parts, tag, present_cons, present_nil,
        List.append_nil, List.append_assoc]
      rfl
  | _ =>
      rfl

theorem distinct_parts
    (operation : DocumentOperation) :
    ("op" :: operation.parts.map Prod.fst).Nodup := by
  cases operation <;> simp [parts]

/-- The name of a written operation is told from its parts. -/
theorem tagged?_toJson
    (operation : DocumentOperation) :
    tagged? operation.toJson =
      some (operation.tag, .object (present operation.parts)) := by
  obtain ⟨notPart, distinct⟩ := List.nodup_cons.mp (distinct_parts operation)
  have allDistinct :
      ((("op", some (Json.string operation.tag)) :: operation.parts).map
        Prod.fst).Nodup :=
    distinct_parts operation
  have notRepeated :=
    isRepeated_eq_false (distinct_present allDistinct) "op"
  have name :=
    get?_present allDistinct List.mem_cons_self
  have others :
      (present
        (("op", some (Json.string operation.tag)) :: operation.parts)).filter
          (fun member => member.1 ≠ "op") =
        present operation.parts := by
    -- No other part has the name that is taken out.
    have kept :
        ∀ member ∈ present operation.parts,
          decide (member.1 ≠ "op") = true := by
      intro member isMember
      apply decide_eq_true
      rintro isName
      exact notPart
        ((keys_present_sublist _).subset
          (isName ▸ Entries.mem_keys_of_mem isMember))
    simp only [present_cons, member, Option.map_some, Option.toList_some,
      List.cons_append, List.nil_append, List.filter_cons, ne_eq,
      not_true_eq_false, decide_false, Bool.false_eq_true, if_false]
    exact List.filter_eq_self.mpr kept
  simp only [tagged?, toJson_eq, notRepeated, name, others, Bool.false_eq_true,
    if_false]

theorem unsigned_readsAs
    {count : Nat}
    (within : count ≤ unsignedMax) :
    ReadsAs Json.unsigned? (.ofNat count) count := by
  have inRange : (0 : Int) ≤ count ∧ (count : Int) ≤ unsignedMax :=
    ⟨Int.natCast_nonneg count, Int.ofNat_le.mpr within⟩
  refine ⟨rfl, ?_⟩
  simp only [Json.unsigned?, Json.ofNat, Number.unsigned?, if_pos inRange,
    Int.toNat_natCast]

theorem object_readsAs
    {document : Document}
    (single : (Json.object document).Collapsed) :
    ReadsAs mapping? (.object document) document :=
  ⟨rfl, mapping?_object single⟩

section Parts

variable {operation : DocumentOperation}

theorem nodup_parts :
    (operation.parts.map Prod.fst).Nodup :=
  (List.nodup_cons.mp (distinct_parts operation)).2

theorem record?_parts
    (names : List String) :
    record? names (.object (present operation.parts)) =
      some (present operation.parts) :=
  record?_object (distinct_present nodup_parts) names

theorem collection?_parts :
    required? (present operation.parts) "collection" Json.string? =
      some operation.collection := by
  apply text?_present nodup_parts
  cases operation <;> simp [parts, collection]

theorem flag?_parts
    (operation : DocumentOperation)
    (name : String)
    (flag : Bool)
    (isPart : (name, some (.bool flag)) ∈ operation.parts) :
    required? (present operation.parts) name Json.bool? = some flag :=
  flag?_present nodup_parts isPart

variable (representable : operation.Representable)

include representable

theorem document?_parts
    (name : String)
    (document : Document)
    (isPart : (name, some (.object document)) ∈ operation.parts)
    (isOwn : document ∈ operation.documents) :
    required? (present operation.parts) name mapping? = some document :=
  mapping?_present nodup_parts (representable.single document isOwn) isPart

theorem givenDocument?_parts
    (name : String)
    (document : Option Document)
    (isPart : (name, document.map .object) ∈ operation.parts)
    (areOwn : ∀ given, document = some given → given ∈ operation.documents) :
    optional? (present operation.parts) name mapping? = some document :=
  optional?_present_map nodup_parts isPart fun given isGiven =>
    object_readsAs (representable.single given (areOwn given isGiven))

theorem givenCount?_parts
    (name : String)
    (count : Option Nat)
    (isPart : (name, count.map .ofNat) ∈ operation.parts)
    (areOwn : ∀ given, count = some given → given ∈ operation.counts) :
    optional? (present operation.parts) name Json.unsigned? = some count :=
  optional?_present_map nodup_parts isPart fun given isGiven =>
    unsigned_readsAs (representable.within given (areOwn given isGiven))

end Parts

section Kinds

variable
  {collection : String}
  {filter : Document}

theorem ofJson?_find
    {window : Window}
    (representable : (find collection filter window).Representable) :
    ofJson? (find collection filter window).toJson =
      some (.find collection filter window) := by
  have isFilter :=
    document?_parts representable "filter" filter (by simp [parts])
      (by simp [documents])
  have isProjection :=
    givenDocument?_parts representable "projection" window.projection
      (by simp [parts]) (by simp +contextual [documents])
  have isSort :=
    givenDocument?_parts representable "sort" window.sort (by simp [parts])
      (by simp +contextual [documents])
  have isSkip :=
    givenCount?_parts representable "skip" window.skip (by simp [parts])
      (by simp +contextual [counts])
  have isLimit :=
    givenCount?_parts representable "limit" window.limit (by simp [parts])
      (by simp +contextual [counts])
  simp only [ofJson?, tagged?_toJson, tag, record?_parts, collection?_parts,
    isFilter, isProjection, isSort, isSkip, isLimit, Option.bind_eq_bind,
    Option.bind_some, Option.pure_def, DocumentOperation.collection]

theorem ofJson?_count
    (representable : (count collection filter).Representable) :
    ofJson? (count collection filter).toJson =
      some (.count collection filter) := by
  have isFilter :=
    document?_parts representable "filter" filter (by simp [parts])
      (by simp [documents])
  simp only [ofJson?, tagged?_toJson, tag, record?_parts, collection?_parts,
    isFilter, Option.bind_eq_bind, Option.bind_some, Option.pure_def,
    DocumentOperation.collection]

theorem ofJson?_insert
    {documents : List Document}
    (representable : (insert collection documents).Representable) :
    ofJson? (insert collection documents).toJson =
      some (.insert collection documents) := by
  have areDocuments :
      required? (present (insert collection documents).parts) "documents"
          (list? mapping?) =
        some documents :=
    required?_present nodup_parts _ (by simp [parts])
      (list?_map fun document isOwn =>
        mapping?_object (representable.single document isOwn))
  simp only [ofJson?, tagged?_toJson, tag, record?_parts, collection?_parts,
    areDocuments, Option.bind_eq_bind, Option.bind_some, Option.pure_def,
    DocumentOperation.collection]

theorem ofJson?_update
    {changes : Document}
    {many upsert : Bool}
    (representable :
      (update collection filter changes many upsert).Representable) :
    ofJson? (update collection filter changes many upsert).toJson =
      some (.update collection filter changes many upsert) := by
  have isFilter :=
    document?_parts representable "filter" filter (by simp [parts])
      (by simp [documents])
  have isUpdate :=
    document?_parts representable "update" changes (by simp [parts])
      (by simp [documents])
  have isMany :=
    flag?_parts (update collection filter changes many upsert) "many" many
      (by simp [parts])
  have isUpsert :=
    flag?_parts (update collection filter changes many upsert) "upsert" upsert
      (by simp [parts])
  simp only [ofJson?, tagged?_toJson, tag, record?_parts, collection?_parts,
    isFilter, isUpdate, isMany, isUpsert, Option.bind_eq_bind, Option.bind_some,
    Option.pure_def, DocumentOperation.collection]

theorem ofJson?_bulkUpdate
    {updates : List FilteredUpdate}
    {upsert : Bool}
    (representable : (bulkUpdate collection updates upsert).Representable) :
    ofJson? (bulkUpdate collection updates upsert).toJson =
      some (.bulkUpdate collection updates upsert) := by
  have readBack :
      ∀ filtered ∈ updates,
        FilteredUpdate.ofJson? filtered.toJson = some filtered := by
    intro filtered isOwn
    have single :
        ∀ document ∈ [filtered.filter, filtered.update],
          (Json.object document).Collapsed :=
      fun document isPart =>
        representable.single document
          (List.mem_flatMap.mpr ⟨filtered, isOwn, isPart⟩)
    exact FilteredUpdate.ofJson?_toJson (single _ (by simp))
      (single _ (by simp))
  have areUpdates :
      required? (present (bulkUpdate collection updates upsert).parts) "updates"
          (list? FilteredUpdate.ofJson?) = some updates :=
    required?_present nodup_parts _ (by simp [parts]) (list?_map readBack)
  have isUpsert :=
    flag?_parts (bulkUpdate collection updates upsert) "upsert" upsert
      (by simp [parts])
  simp only [ofJson?, tagged?_toJson, tag, record?_parts, collection?_parts,
    areUpdates, isUpsert, Option.bind_eq_bind, Option.bind_some,
    Option.pure_def, DocumentOperation.collection]

theorem ofJson?_delete
    {many : Bool}
    (representable : (delete collection filter many).Representable) :
    ofJson? (delete collection filter many).toJson =
      some (.delete collection filter many) := by
  have isFilter :=
    document?_parts representable "filter" filter (by simp [parts])
      (by simp [documents])
  have isMany :=
    flag?_parts (delete collection filter many) "many" many (by simp [parts])
  simp only [ofJson?, tagged?_toJson, tag, record?_parts, collection?_parts,
    isFilter, isMany, Option.bind_eq_bind, Option.bind_some, Option.pure_def,
    DocumentOperation.collection]

end Kinds

/-- A written operation is read back. -/
theorem ofJson?_toJson
    {operation : DocumentOperation}
    (representable : operation.Representable) :
    ofJson? operation.toJson = some operation := by
  cases operation with
  | find => exact ofJson?_find representable
  | count => exact ofJson?_count representable
  | insert => exact ofJson?_insert representable
  | update => exact ofJson?_update representable
  | bulkUpdate => exact ofJson?_bulkUpdate representable
  | delete => exact ofJson?_delete representable

end DocumentOperation

/--
Schemas and operations are read back from their written forms.

A schema has a written form unless one of its providers is a sequence, an
operation always has one. Reading it gives the very schema or operation again,
whatever parts are left out of the form, provided that no object in a literal or
a document repeats a name and that the counts of a window have 64 bits.
-/
theorem written_forms_read_back :
    (∀ schema : Schema,
      schema.Lasting →
        ∃ written,
          schema.toJson? = some written ∧
            Schema.ofJson? written = some schema) ∧
      ∀ operation : DocumentOperation,
        operation.Representable →
          DocumentOperation.ofJson? operation.toJson = some operation := by
  constructor
  · intro schema lasting
    exact Schema.exists_toJson?_eq_some lasting
  · intro operation representable
    exact DocumentOperation.ofJson?_toJson representable

/-- A literal with a member that is named as literals are written. -/
def confusingLiteral : Json :=
  .object [("literal", .null), ("at", .array [.ofInt 1, .object []])]

/-- An entity with a field for each provider that has a written form. -/
def providedEntity : Schema :=
  {
    name := "person"
    storageName := some "people"
    fields := [
      ⟨"id", some "_id", true, some .objectId, none⟩,
      ⟨"note", none, false, some (.literal .null), some .now⟩,
      ⟨"home", none, false, some (.literal confusingLiteral), some .uuid⟩]
  }

/-- A find with a part of its window left out. -/
def partialFind : DocumentOperation :=
  .find "people" [("age", .object [("$gt", .ofInt 36)])]
    { projection := some [], sort := some [("age", .ofInt 1)], limit := some 0 }

theorem written_forms_read_back_of_literals :
    (providedEntity.Lasting ∧
      ∃ written,
        providedEntity.toJson? = some written ∧
          Schema.ofJson? written = some providedEntity) ∧
      partialFind.Representable ∧
        DocumentOperation.ofJson? partialFind.toJson = some partialFind := by
  obtain ⟨ofSchemas, ofOperations⟩ := written_forms_read_back
  have nullSingle : Json.null.Collapsed := rfl
  have literalSingle : confusingLiteral.Collapsed := by decide
  have lasting : providedEntity.Lasting := by
    simp [Schema.Lasting, Field.Lasting, Provider.Lasting, providedEntity,
      nullSingle, literalSingle]
  have representable : partialFind.Representable := by
    constructor
    · simp only [DocumentOperation.documents, partialFind]
      decide
    · simp only [DocumentOperation.counts, partialFind]
      decide
  exact ⟨⟨lasting, ofSchemas providedEntity lasting⟩, representable,
    ofOperations partialFind representable⟩

end PolyQuery
