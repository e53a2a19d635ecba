import PolyQuery.Proofs.Document.AffectedDocuments
import PolyQuery.Proofs.Document.InsertedRows
import PolyQuery.Proofs.Document.PlainKeys
import PolyQuery.Proofs.Query.FullTable

namespace PolyQuery

open Failing

/-!
# Batch updates

Every row of a batch update names a document by its identifier, restricted by
the filter of the whole query. Rows are taken one after the other: each of them
changes the first document that it names, and no other one. What a row inserts
for want of such a document starts from the equalities of its filter. The
identifier is one of these only if the query has no filter of its own; joined to
another filter it stands under `$and`, where it is not looked for, and the new
document gets a generated identifier instead.
-/

namespace DocumentCompiler

/--
The filter of a row: its identifier, joined to the filter of the whole query.
-/
def rowFilter
    (base : Document)
    (identifier : Json) :
    Document :=
  if base.isEmpty then
    [(idKey, identifier)]
  else
    [("$and", .array [.object base, .object [(idKey, identifier)]])]

/-- The document that an upsert for a row starts from. -/
def rowSeed
    (base : Document)
    (identifier : Json) :
    Document :=
  if base.isEmpty then
    [(idKey, identifier)]
  else
    []

theorem rowUpdate_eq_ok
    {schema : Schema}
    {key : Field}
    {base row : Document}
    {filtered : FilteredUpdate}
    (compiled : rowUpdate ObjectId.codec schema key base row = .ok filtered) :
    ∃ identifier encoded,
      row.get? key.name = some identifier ∧
        ObjectId.encode identifier = .ok encoded ∧
          updateDocument ObjectId.codec schema (row.erase key.name) =
              .ok filtered.update ∧
            filtered.filter = rowFilter base encoded := by
  unfold rowUpdate at compiled
  split at compiled
  next =>
    cases compiled
  next identifier given =>
    obtain ⟨encoded, isEncoded, continued⟩ := bind_eq_ok.mp compiled
    obtain ⟨changes, changesCompiled, same⟩ := bind_eq_ok.mp continued
    cases same
    exact ⟨identifier, encoded, given, isEncoded, changesCompiled, rfl⟩

section Rows

variable
  {base : Document}
  {identifier : Json}

theorem matches_identity
    (plain : Matching.isOperatorDocument identifier = false)
    (document : Document) :
    Matching.filterHolds document [(idKey, identifier)] =
      .ok (Matching.equals (document.get? idKey) identifier) := by
  have unmarked : Operator.isMarked idKey = false := by decide
  have undotted : IsPlainKey idKey := by decide
  have entry :
      Matching.entryHolds document idKey identifier =
        .ok (Matching.equals (document.get? idKey) identifier) := by
    rw [Matching.entryHolds_path unmarked,
      Matching.conditionHolds_of_plain plain,
      Document.lookup?_of_plain undotted]
  rw [Matching.filterHolds_singleton, entry]

/--
The filter of a row asks what the filter of the query asks, and
then for the identifier.
-/
theorem matches_rowFilter
    (plain : Matching.isOperatorDocument identifier = false)
    (base document : Document) :
    document.matches (rowFilter base identifier) =
      (document.matches base).map fun holds =>
        holds && Matching.equals (document.get? idKey) identifier := by
  have identity := matches_identity plain document
  cases base with
  | nil =>
      exact identity
  | cons entry rest =>
      have joined :
          document.matches (rowFilter (entry :: rest) identifier) =
            (Matching.anyDecides document .all
              [.object (entry :: rest), .object [(idKey, identifier)]]).map
              (Matching.Connective.outcome .all) :=
        Matching.filterHolds_singleton document _ _
      rw [joined]
      simp only [Document.matches, Matching.anyDecides, Matching.clauseHolds,
        identity]
      cases Matching.filterHolds document (entry :: rest) with
      | error cause =>
          rfl
      | ok holds =>
          cases holds <;>
            cases Matching.equals (document.get? idKey) identifier <;> rfl

/--
An upsert for a row starts from the identifier only if the query has
no filter of its own.
-/
theorem upsertSeed_rowFilter
    {given : Json}
    (encoded : ObjectId.encode given = .ok identifier)
    (base : Document) :
    Collection.upsertSeed (rowFilter base identifier) =
      rowSeed base identifier := by
  have isSeed : Collection.isSeed idKey identifier = true := by
    rcases ObjectId.null_or_stored_of_encode encoded with
        isNull | ⟨stored, isStored⟩
    · subst isNull
      rfl
    · subst isStored
      have readBack := ObjectId.ofJson?_toJson stored
      simp only [ObjectId.toJson] at readBack
      have unmarked : Operator.isMarked idKey = false := by decide
      simp [Collection.isSeed, unmarked, ObjectId.toJson, readBack]
  cases base with
  | nil =>
      simp [Collection.upsertSeed, rowFilter, rowSeed, isSeed]
  | cons entry rest =>
      have marked : Operator.isMarked "$and" = true := by decide
      simp [Collection.upsertSeed, rowFilter, rowSeed, Collection.isSeed,
        marked]

theorem distinct_rowSeed
    (base : Document)
    (identifier : Json) :
    Entries.Distinct (rowSeed base identifier) := by
  unfold rowSeed
  split
  · exact List.nodup_singleton idKey
  · exact List.nodup_nil

end Rows

end DocumentCompiler

namespace Collection

section Identity

variable
  {built : Document}
  {identifier : Json}

/-- A document that brings an identifier along is stored under it. -/
theorem chosenId_of_given
    (found : built.get? idKey = some identifier)
    (given : identifier ≠ .null)
    (supply : Supply) :
    chosenId built supply = (identifier, supply) := by
  unfold chosenId givenId?
  rw [found]
  cases identifier with
  | null =>
      exact absurd rfl given
  | _ =>
      rfl

/-- A document without an identifier is stored under a generated one. -/
theorem chosenId_of_absent
    (absent : built.get? idKey = none)
    (supply : Supply) :
    chosenId built supply =
      ((Supply.objectId.run supply).1.toJson,
        (Supply.objectId.run supply).2) := by
  unfold chosenId givenId?
  rw [absent]

end Identity

/--
A document is one that a row names: the filter of the query holds of it, and it
goes by the identifier. A list of identifiers goes by each of them, and null
names those that have none.
-/
def Addressed
    (base : Document)
    (identifier : Json)
    (document : Document) :
    Prop :=
  document.matches base = .ok true ∧
    Matching.equals (document.get? idKey) identifier = true

/--
What a row of a batch makes of the documents of a collection, and of
what is generated next.
-/
inductive RowApplied
    (base : Document)
    (identifier : Json)
    (changes : Document)
    (upserting : Bool)
    (before : List Document)
    (supply : Supply) :
    List Document →
    Supply →
    Prop where
  /-- The first document that the row names is changed, and no other one. -/
  | changed
      {front rest : List Document}
      {document result : Document}
      {left : Supply}
      (places : before = front ++ document :: rest)
      (first : ∀ earlier ∈ front, ¬Addressed base identifier earlier)
      (addressed : Addressed base identifier document)
      (applied :
        applyTo false changes document supply = (.ok (), result, left)) :
      RowApplied base identifier changes upserting before supply
        (front ++ result :: rest) left
  /-- Without upsert, a row that names no document changes nothing. -/
  | ignored
      (noneAddressed : ∀ document ∈ before, ¬Addressed base identifier document)
      (noUpsert : upserting = false) :
      RowApplied base identifier changes upserting before supply before supply
  /--
  With upsert, it adds one document. As long as the changes themselves do not
  lead to the identifier, this is the identifier of the row if the query has no
  filter of its own, and a generated one otherwise.
  -/
  | inserted
      {new built : Document}
      {drawn left : Supply}
      (noneAddressed : ∀ document ∈ before, ¬Addressed base identifier document)
      (asked : upserting = true)
      (applied :
        applyTo true changes (DocumentCompiler.rowSeed base identifier) supply =
          (.ok (), built, drawn))
      (stored : (new, left) =
        (withIdFirst (chosenId built drawn).1 built, (chosenId built drawn).2))
      (named :
        base = [] → identifier ≠ .null → Update.leaves idKey changes = true →
          new.get? idKey = some identifier)
      (unnamed :
        base ≠ [] → Update.leaves idKey changes = true →
          new.get? idKey = some (Supply.objectId.run drawn).1.toJson) :
      RowApplied base identifier changes upserting before supply
        (before ++ [new]) left

section Rows

variable
  {base changes : Document}
  {given identifier : Json}
  {upserting : Bool}
  {before after : List Document}
  {supply left : Supply}
  {outcome : Outcome}
  (encoded : ObjectId.encode given = .ok identifier)

include encoded

/-- The filter of a row holds of the documents that the row names. -/
theorem addressed_iff_of_judgedBy
    {document : Document}
    {holds : Bool}
    (judged :
      JudgedBy (DocumentCompiler.rowFilter base identifier) document holds) :
    holds = true ↔ Addressed base identifier document := by
  unfold JudgedBy at judged
  have plain := ObjectId.isOperatorDocument_encode encoded
  rw [DocumentCompiler.matches_rowFilter plain] at judged
  obtain ⟨baseHolds, evaluated, rfl⟩ := map_eq_ok.mp judged
  simp [Addressed, evaluated]

/--
What is inserted for a row goes by its identifier only if the query
has no other filter.
-/
theorem rowApplied_of_upsertedBy
    {new : Document}
    (noneAddressed : ∀ document ∈ before, ¬Addressed base identifier document)
    (asked : upserting = true)
    (upserted :
      UpsertedBy (DocumentCompiler.rowFilter base identifier) changes supply new
        left) :
    RowApplied base identifier changes upserting before supply (before ++ [new])
      left := by
  obtain ⟨built, drawn, applied, isNew, isLeft⟩ := upserted
  rw [DocumentCompiler.upsertSeed_rowFilter encoded] at applied
  have chosenFirst : new.get? idKey = some (chosenId built drawn).1 := by
    rw [isNew]
    exact get?_withIdFirst _ _
  have kept :
      Update.leaves idKey changes = true →
        built.get? idKey =
          (DocumentCompiler.rowSeed base identifier).get? idKey := by
    intro elsewhere
    have distinct := DocumentCompiler.distinct_rowSeed base identifier
    exact get?_applyTo elsewhere (Entries.length_under_le distinct idKey)
      applied
  refine .inserted noneAddressed asked applied (by rw [isNew, isLeft]) ?_ ?_
  · intro noBase notNull elsewhere
    have found : built.get? idKey = some identifier := by
      rw [kept elsewhere, noBase]
      rfl
    rw [chosenFirst, chosenId_of_given found notNull]
  · intro someBase elsewhere
    have absent : built.get? idKey = none := by
      rw [kept elsewhere, DocumentCompiler.rowSeed,
        if_neg (by simpa using someBase)]
      rfl
    rw [chosenFirst, chosenId_of_absent absent]

/-- An update by the filter of a row does what the row says. -/
theorem rowApplied_of_settled
    (settled :
      Settled (DocumentCompiler.rowFilter base identifier) changes false
        upserting before supply outcome after left) :
    RowApplied base identifier changes upserting before supply after left := by
  have notAddressed :
      ∀ {documents : List Document},
        (∀ document ∈ documents,
          JudgedBy (DocumentCompiler.rowFilter base identifier) document
            false) →
        ∀ document ∈ documents, ¬Addressed base identifier document := by
    intro documents spared document member addressed
    exact Bool.false_ne_true
      ((addressed_iff_of_judgedBy encoded (spared document member)).mpr
        addressed)
  cases settled with
  | @updated touched _ _ affected _ _ enough =>
      by_cases noneTouched : touched = []
      · obtain ⟨rfl, rfl, spared⟩ := affected.of_none noneTouched
        exact .ignored (notAddressed spared) (enough noneTouched)
      · obtain ⟨front, document, rest, outcome, rfl, rfl, frontSpared, chosen,
            result, rfl,
          applied⟩ := affected.of_first noneTouched
        have addressed := (addressed_iff_of_judgedBy encoded chosen).mp rfl
        exact .changed rfl (notAddressed frontSpared) addressed applied
  | inserted spared _ _ asked upserted =>
      exact rowApplied_of_upsertedBy encoded (notAddressed spared) asked
        upserted

end Rows

/--
What the rows of a batch make of the documents of a collection,
one after the other.
-/
inductive RowsApplied
    (schema : Schema)
    (key : Field)
    (base : Document)
    (upserting : Bool) :
    List Document →
    List Document →
    Supply →
    List Document →
    Supply →
    Prop where
  | nil
      {documents : List Document}
      {supply : Supply} :
      RowsApplied schema key base upserting [] documents supply documents supply
  | cons
      {row changes : Document}
      {rows before reached after : List Document}
      {given identifier : Json}
      {supply drawn left : Supply}
      (named : row.get? key.name = some given)
      (encoded : ObjectId.encode given = .ok identifier)
      (compiled :
        DocumentCompiler.updateDocument ObjectId.codec schema
            (row.erase key.name) =
          .ok changes)
      (applied :
        RowApplied base identifier changes upserting before supply reached
          drawn)
      (others :
        RowsApplied schema key base upserting rows reached drawn after left) :
      RowsApplied schema key base upserting (row :: rows) before supply after
        left

/--
The updates of a batch that succeed do what its rows say, each from what
those before it left.
-/
theorem rowsApplied_of_runUpdates
    {schema : Schema}
    {key : Field}
    {base : Document}
    {upserting : Bool}
    {rows : List Document}
    {updates : List FilteredUpdate}
    (compiled :
      List.Forall₂
        (fun row filtered =>
          DocumentCompiler.rowUpdate ObjectId.codec schema key base row =
            .ok filtered)
        rows updates)
    {total outcome : Outcome}
    {collection after : Collection}
    {supply left : Supply}
    (ran :
      (Store.runUpdates upserting updates total).runFrom (collection, supply) =
        (.ok outcome, (after, left))) :
    RowsApplied schema key base upserting rows collection.documents supply
      after.documents left := by
  induction compiled generalizing total collection supply with
  | nil =>
      cases ran
      exact .nil
  | @cons row filtered rows updates headCompiled _ inductionHypothesis =>
      obtain ⟨one, ⟨there, drawn⟩, updated, further⟩ :=
        Stateful.runFrom_bind_eq_ok ran
      obtain ⟨given, identifier, named, encoded, changesCompiled, isFilter⟩ :=
        DocumentCompiler.rowUpdate_eq_ok headCompiled
      have settled := settled_of_update updated
      rw [isFilter] at settled
      have applied := rowApplied_of_settled encoded settled
      exact .cons named encoded changesCompiled applied
        (inductionHypothesis further)

end Collection

namespace Store

/--
A batch update addresses the documents that its rows name.

Each row changes the first document that goes by its identifier and satisfies
the filter of the query, and no other one. If there is none it changes nothing,
or with upsert adds one document: under the identifier of the row if the query
asks nothing itself, and under a generated one if it does.
-/
theorem batch_update_addresses_rows
    {query : Query}
    {rows : List Document}
    {key : Field}
    (isUpdate : query.kind = .update)
    (isBatch : query.values = some (.batch rows))
    (isKey : query.schema.primaryKey? = some key)
    {state after : StoreState}
    {outcome : Outcome}
    (executed : (execute query).runFrom state = (.ok outcome, after)) :
    ∃ base,
      DocumentCompiler.filterDocument ObjectId.codec query = .ok base ∧
        (base = [] ↔ query.AsksNothing) ∧
          Collection.RowsApplied query.schema key base query.upsert rows
            (state.1.collection query.schema.storage).documents state.2
            (after.1.collection query.schema.storage).documents after.2 ∧
            ∀ other, other ≠ query.schema.storage →
              after.1.get? other = state.1.get? other := by
  have isWrite : query.kind ≠ .select := by
    rw [isUpdate]
    exact StatementKind.noConfusion
  obtain ⟨operation, answered, compiled, ran⟩ := execute_eq_ok isWrite executed
  simp only [DocumentCompiler.compile, isUpdate,
    DocumentCompiler.updateOperation, isBatch, isKey] at compiled
  obtain ⟨base, baseCompiled, continued⟩ := bind_eq_ok.mp compiled
  obtain ⟨updates, traversed, same⟩ := bind_eq_ok.mp continued
  cases same
  obtain ⟨total, updated, same⟩ := Stateful.runFrom_bind_pure_eq_ok.mp ran
  cases same
  refine ⟨base, baseCompiled,
    DocumentCompiler.filterDocument_eq_nil_iff baseCompiled, ?_,
    fun _ => get?_onCollection_of_ne updated⟩
  obtain ⟨changed, left, ranThere, rfl⟩ := exists_of_onCollection updated
  dsimp only
  rw [collection_insert]
  exact Collection.rowsApplied_of_runUpdates (mapM_eq_ok.mp traversed) ranThere

/-- An entity with one field besides its identifier. -/
def scoredSchema : Schema :=
  {
    name := "p"
    storageName := none
    fields := [identifierField, plainField "a" "a"]
  }

/--
An upserting batch update of some rows among those that a filter asks for.
-/
def scoredBatch
    (filter : Filter)
    (rows : List Document) :
    Query :=
  {
    kind := .update
    schema := scoredSchema
    values := some (.batch rows)
    filter := filter
    upsert := true
  }

/-- An identifier as the caller writes it. -/
def givenIdentifier : Json :=
  .string "5e53bb135b64856045ccb8dc"

/-- The same identifier as it is stored. -/
def storedIdentifier : Json :=
  .object [("$oid", .string "5e53bb135b64856045ccb8dc")]

/-- A row that names a document that is there, and one that names none. -/
def scoredRows : List Document :=
  [[("id", givenIdentifier), ("a", .ofInt 2)],
    [("id", .string "5e53bb135b64856045ccb8dd"), ("a", .ofInt 3)]]

/-- A store with one document under the identifier of the first row. -/
def scoredStore : Store :=
  [("p",
    { name := "p",
      documents := [[("_id", storedIdentifier), ("a", .ofInt 1)]] })]

theorem batch_update_addresses_rows_of_scored :
    ∃ outcome after,
      (scoredBatch [] scoredRows).kind = .update ∧
        (scoredBatch [] scoredRows).values = some (.batch scoredRows) ∧
        scoredSchema.primaryKey? = some identifierField ∧
        (execute (scoredBatch [] scoredRows)).runFrom
            (scoredStore, firstSupply) =
          (.ok outcome, after) ∧
        ∃ base,
          DocumentCompiler.filterDocument ObjectId.codec
            (scoredBatch [] scoredRows) =
              .ok base ∧
            (base = [] ↔ (scoredBatch [] scoredRows).AsksNothing) ∧
              Collection.RowsApplied scoredSchema identifierField base true
                scoredRows (scoredStore.collection "p").documents firstSupply
                (after.1.collection "p").documents after.2 ∧
                ∀ other, other ≠ "p" →
                  after.1.get? other = scoredStore.get? other := by
  have succeeds :
      ((execute (scoredBatch [] scoredRows)).runFrom
        (scoredStore, firstSupply)).1.isOk = true := by
    decide +kernel
  obtain ⟨outcome, after, executed⟩ := exists_executed succeeds
  exact ⟨outcome, after, rfl, rfl, rfl, executed,
    batch_update_addresses_rows rfl rfl rfl executed⟩

/--
An upserting batch with a row that none of the documents it is
restricted to goes by.
-/
def forgettingBatch : Query :=
  scoredBatch [("a", .equals (.ofInt 1))]
    [[("id", givenIdentifier), ("a", .ofInt 2)]]

/--
What is inserted for the row goes by a generated identifier,
not by that of the row.
-/
theorem batch_upsert_forgets_identifier :
    ObjectId.encode givenIdentifier = .ok storedIdentifier ∧
      ((execute forgettingBatch).runFrom ([], firstSupply)).1.isOk = true ∧
        (((execute forgettingBatch).runFrom ([], firstSupply)).2.1.collection
          "p").documents =
            [[("_id", (ObjectId.ofNat 0).toJson), ("a", .ofInt 2)]] ∧
          (ObjectId.ofNat 0).toJson ≠ storedIdentifier := by
  refine ⟨rfl, ?_, ?_, ?_⟩
  · decide +kernel
  · decide +kernel
  · decide +kernel

end Store

end PolyQuery
