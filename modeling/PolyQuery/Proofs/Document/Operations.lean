import PolyQuery.Document.Store
import PolyQuery.Proofs.Computation.Except
import PolyQuery.Proofs.Document.Changes

namespace PolyQuery

open Failing

/-!
# What operations do to collections

Every operation on a store is an insert, an update or a delete on one of its
collections, or leaves the store as it is. What these leave true of the
documents of a collection, operations leave true of every collection, whether
they succeed or fail.
-/

namespace Collection

/--
The identifier that a document is stored under, and the supply that is left.
-/
def chosenId
    (document : Document)
    (supply : Supply) :
    Json × Supply :=
  match givenId? document with
  | some identifier => (identifier, supply)
  | none =>
      ((Supply.objectId.run supply).1.toJson, (Supply.objectId.run supply).2)

theorem insert_runFrom
    (document : Document)
    (collection : Collection)
    (supply : Supply) :
    (insert document).runFrom (collection, supply) =
      if hasId collection.documents (chosenId document supply).1 then
        (.error (.duplicateKey
          (collection.name ++ "._id " ++ (chosenId document supply).1.text)),
          (collection, (chosenId document supply).2))
      else
        (.ok (chosenId document supply).1,
          ({ collection with
              documents :=
                collection.documents ++
                  [withIdFirst (chosenId document supply).1 document] },
            (chosenId document supply).2)) := by
  simp only [insert, Stateful.runFrom_bind, Stateful.runFrom_get,
    Stateful.runFrom_set]
  change
    Stateful.runFrom
        (if hasId collection.documents (chosenId document supply).1 then
            _
          else
            _) _ =
      _
  split <;> rfl

/-- What a document is stored as: itself with its identifier first. -/
def StoredUnder
    (document stored : Document) :
    Prop :=
  ∃ identifier, stored = withIdFirst identifier document

/-- An update relates every document of a collection to what it makes of it. -/
theorem forall₂_updateMatching
    {update : Document}
    {related : Document → Document → Prop}
    (untouched : ∀ document, related document document)
    (touched :
      ∀ document supply,
        related document (applyTo false update document supply).2.1)
    (filter : Document)
    (many : Bool)
    (documents : List Document)
    (tally : Tally)
    (supply : Supply) :
    List.Forall₂ related documents
      (updateMatching filter update many documents tally supply).2.1 := by
  have allUntouched :
      ∀ rest : List Document, List.Forall₂ related rest rest :=
    fun rest => List.forall₂_same.mpr fun document _ => untouched document
  induction documents generalizing tally supply with
  | nil =>
      exact .nil
  | cons document rest inductionHypothesis =>
      unfold updateMatching
      split
      next =>
        exact .cons (untouched document) (allUntouched rest)
      next =>
        exact .cons (untouched document) (inductionHypothesis tally supply)
      next =>
        have documentTouched := touched document supply
        split
        next applied =>
          rw [applied] at documentTouched
          exact .cons documentTouched (allUntouched rest)
        next applied =>
          rw [applied] at documentTouched
          dsimp only
          split
          · exact .cons documentTouched (inductionHypothesis _ _)
          · exact .cons documentTouched (allUntouched rest)

/-- A delete leaves documents that were there, in their order. -/
theorem sublist_of_deleteMatching
    {filter : Document}
    {many : Bool}
    {documents kept : List Document}
    {removed : Nat}
    (deleted : deleteMatching filter many documents = .ok (kept, removed)) :
    kept.Sublist documents := by
  induction documents generalizing kept removed with
  | nil =>
      cases deleted
      exact .slnil
  | cons document rest inductionHypothesis =>
      obtain ⟨holds, -, continued⟩ := bind_eq_ok.mp deleted
      split at continued
      · split at continued
        · obtain ⟨⟨others, count⟩, restDeleted, same⟩ := bind_eq_ok.mp continued
          cases same
          exact (inductionHypothesis restDeleted).cons document
        · cases continued
          exact List.sublist_cons_self document rest
      · obtain ⟨⟨others, count⟩, restDeleted, same⟩ := bind_eq_ok.mp continued
        cases same
        exact (inductionHypothesis restDeleted).cons_cons document

section Keeping

variable {property : List Document → Prop}

/-- An action leaves a property of the documents of a collection true. -/
def KeepsDocuments
    {α : Type}
    (action : Stateful CollectionState α)
    (property : List Document → Prop) :
    Prop :=
  Stateful.Keeps action fun state => property state.1.documents

theorem upsert_keeps
    (inserts : ∀ document, KeepsDocuments (insert document) property)
    (filter update : Document) :
    KeepsDocuments (upsert filter update) property := by
  intro state held
  obtain ⟨collection, supply⟩ := state
  simp only [upsert, Stateful.runFrom_bind, Stateful.runFrom_get,
    Stateful.runFrom_set, Stateful.runFrom_ofExcept]
  obtain ⟨result, seed, left⟩ := applyTo true update (upsertSeed filter) supply
  cases result with
  | error cause =>
      exact held
  | ok =>
      have inserted :=
        Stateful.keeps_bind (inserts seed)
          (fun identifier => Stateful.keeps_pure (idText identifier) _)
          (collection, left) held
      rw [Stateful.runFrom_bind] at inserted
      exact inserted

/-- An update keeps what its changes and the insert of what it upserts keep. -/
theorem update_keeps
    {changes : Document}
    (inserts : ∀ document, KeepsDocuments (insert document) property)
    (updates :
      ∀ filter many documents tally supply, property documents →
        property
          (updateMatching filter changes many documents tally supply).2.1)
    (filter : Document)
    (many upserting : Bool) :
    KeepsDocuments (update filter changes many upserting) property := by
  intro state held
  obtain ⟨collection, supply⟩ := state
  have heldAfter := updates filter many collection.documents {} supply held
  simp only [update, Stateful.runFrom_bind, Stateful.runFrom_get,
    Stateful.runFrom_set, Stateful.runFrom_ofExcept]
  generalize updateMatching filter changes many collection.documents {} supply =
      matched
    at heldAfter
  obtain ⟨result, documents, left⟩ := matched
  cases result with
  | error cause =>
      exact heldAfter
  | ok tally =>
      dsimp only
      split
      · exact Stateful.keeps_bind (upsert_keeps inserts filter changes)
          (fun _ => Stateful.keeps_pure _ _) _ heldAfter
      · exact heldAfter

/--
A delete keeps what holds of no documents and of some whenever it does of more.
-/
theorem delete_keeps
    (ofNone : property [])
    (ofFewer :
      ∀ fewer documents,
        fewer.Sublist documents → property documents → property fewer)
    (filter : Document)
    (many : Bool) :
    KeepsDocuments (delete filter many) property := by
  intro state held
  obtain ⟨collection, supply⟩ := state
  simp only [delete, Stateful.runFrom_bind, Stateful.runFrom_get,
    Stateful.runFrom_set, Stateful.runFrom_ofExcept]
  cases deleted : deleteMatching filter many collection.documents with
  | error cause =>
      exact ofNone
  | ok left =>
      exact ofFewer left.1 collection.documents
        (sublist_of_deleteMatching deleted) held

end Keeping

end Collection

namespace DocumentOperation

/-- The documents that an operation inserts. -/
def inserted : DocumentOperation → List Document
  | .insert _ documents => documents
  | _ => []

/-- The updates that an operation runs, each with its filter. -/
def updates : DocumentOperation → List FilteredUpdate
  | .update _ filter changes _ _ => [⟨filter, changes⟩]
  | .bulkUpdate _ updates _ => updates
  | _ => []

end DocumentOperation

namespace Store

/-- The documents of every collection have a property. -/
def Every
    (property : List Document → Prop)
    (store : Store) :
    Prop :=
  ∀ entry ∈ store, property entry.2.documents

/--
The state after operations, each of them run whatever became of those before it.
-/
def afterOperations
    (operations : List DocumentOperation)
    (state : StoreState) :
    StoreState :=
  operations.foldl (fun state operation => ((run operation).runFrom state).2)
    state

theorem collection_insert
    (store : Store)
    (name : String)
    (changed : Collection) :
    collection (store.insert name changed) name = changed := by
  simp [collection, Entries.get?_insert]

theorem onCollection_runFrom
    {α : Type}
    (name : String)
    (action : Stateful CollectionState α)
    (state : StoreState) :
    (onCollection name action).runFrom state =
      ((action.runFrom (state.1.collection name, state.2)).1,
        (state.1.insert name
          (action.runFrom (state.1.collection name, state.2)).2.1,
          (action.runFrom (state.1.collection name, state.2)).2.2)) :=
  rfl

/--
An action on a collection leaves what it makes of the collection under its name.
-/
theorem exists_of_onCollection
    {α : Type}
    {name : String}
    {action : Stateful CollectionState α}
    {state after : StoreState}
    {result : Except QueryError α}
    (ran : (onCollection name action).runFrom state = (result, after)) :
    ∃ changed left,
      action.runFrom (state.1.collection name, state.2) =
          (result, (changed, left)) ∧
        after = (state.1.insert name changed, left) := by
  rw [onCollection_runFrom] at ran
  cases ran
  exact ⟨_, _, rfl, rfl⟩

/--
The documents of a successful insert join those of the
collection, identifiers first.
-/
theorem exists_added_of_insertDocuments
    {documents : List Document}
    {told inserted : List Json}
    {collection after : Collection}
    {supply left : Supply}
    (ran :
      (insertDocuments documents told).runFrom (collection, supply) =
        (.ok inserted, (after, left))) :
    ∃ added,
      after.documents = collection.documents ++ added ∧
        List.Forall₂ Collection.StoredUnder documents added := by
  induction documents generalizing told collection supply with
  | nil =>
      cases ran
      exact ⟨[], (List.append_nil _).symm, .nil⟩
  | cons document rest inductionHypothesis =>
      rw [insertDocuments, Stateful.runFrom_bind, Collection.insert_runFrom]
        at ran
      split at ran
      next stored =>
        split at stored
        · cases stored
        · cases stored
          obtain ⟨added, isAfter, restStored⟩ := inductionHypothesis ran
          have storedHere :
              Collection.StoredUnder document
                (Collection.withIdFirst (Collection.chosenId document supply).1
                  document) :=
            ⟨_, rfl⟩
          refine ⟨_ :: added, ?_, .cons storedHere restStored⟩
          rw [isAfter, List.append_assoc, List.singleton_append]
      next =>
        cases ran

section Keeping

variable {property : List Document → Prop}

theorem documents_collection
    (ofNone : property [])
    {store : Store}
    (every : Every property store)
    (name : String) :
    property (store.collection name).documents := by
  unfold collection
  cases found : store.get? name with
  | none =>
      exact ofNone
  | some present =>
      exact every _ (Entries.mem_of_get? found)

variable (ofNone : property [])

include ofNone

/-- What an action on a collection keeps is kept in every collection. -/
theorem onCollection_keeps
    {α : Type}
    {action : Stateful CollectionState α}
    (kept : Collection.KeepsDocuments action property)
    (name : String) :
    Stateful.Keeps (onCollection name action) fun state =>
      Every property state.1 := by
  intro state every
  obtain ⟨store, supply⟩ := state
  have keptHere :=
    kept (store.collection name, supply)
      (documents_collection ofNone every name)
  simp only [onCollection, Stateful.runFrom_bind, Stateful.runFrom_get,
    Stateful.runFrom_set, Stateful.runFrom_ofExcept]
  intro entry member
  rcases Entries.mem_insert member with isChanged | wasThere
  · rw [isChanged]
    exact keptHere
  · exact every entry wasThere

theorem onPresent_keeps
    {α : Type}
    {action : Stateful CollectionState α}
    (kept : Collection.KeepsDocuments action property)
    (name : String)
    (absent : α) :
    Stateful.Keeps (onPresent name absent action)
      fun state => Every property state.1 := by
  refine Stateful.keeps_bind (Stateful.keeps_get _) fun state => ?_
  obtain ⟨store, supply⟩ := state
  dsimp only
  split
  · exact onCollection_keeps ofNone kept name
  · exact Stateful.keeps_pure _ _

omit ofNone in
theorem insertDocuments_keeps
    {documents : List Document}
    (inserts :
      ∀ document ∈ documents,
        Collection.KeepsDocuments (Collection.insert document) property)
    (inserted : List Json) :
    Collection.KeepsDocuments (insertDocuments documents inserted)
      property := by
  induction documents generalizing inserted with
  | nil =>
      exact Stateful.keeps_pure _ _
  | cons document rest inductionHypothesis =>
      obtain ⟨headInserts, restInserts⟩ := List.forall_mem_cons.mp inserts
      exact Stateful.keeps_bind headInserts fun _ =>
        inductionHypothesis restInserts _

omit ofNone in
theorem runUpdates_keeps
    {updates : List FilteredUpdate}
    {upsert : Bool}
    (kept :
      ∀ filtered ∈ updates,
        Collection.KeepsDocuments
          (Collection.update filtered.filter filtered.update false upsert)
          property)
    (total : Outcome) :
    Collection.KeepsDocuments (runUpdates upsert updates total) property := by
  induction updates generalizing total with
  | nil =>
      exact Stateful.keeps_pure _ _
  | cons filtered rest inductionHypothesis =>
      obtain ⟨headKept, restKept⟩ := List.forall_mem_cons.mp kept
      exact Stateful.keeps_bind headKept fun _ => inductionHypothesis restKept _

/--
An operation keeps in every collection what its inserts, its
updates and deletes keep.
-/
theorem run_keeps
    {operation : DocumentOperation}
    (inserts :
      ∀ document ∈ operation.inserted,
        Collection.KeepsDocuments (Collection.insert document) property)
    (updates :
      ∀ filtered ∈ operation.updates, ∀ many upsert,
        Collection.KeepsDocuments
          (Collection.update filtered.filter filtered.update many upsert)
          property)
    (deletes :
      ∀ filter many,
        Collection.KeepsDocuments (Collection.delete filter many) property) :
    Stateful.Keeps (run operation) fun state => Every property state.1 := by
  have answering :
      ∀ {α β : Type} {action : Stateful StoreState α} (answer : α → β),
        Stateful.Keeps action (fun state => Every property state.1) →
          Stateful.Keeps (action >>= fun value => pure (answer value))
            fun state => Every property state.1 :=
    fun _ kept => Stateful.keeps_bind kept fun _ => Stateful.keeps_pure _ _
  cases operation with
  | find name filter window =>
      refine Stateful.keeps_bind (Stateful.keeps_get _) fun state => ?_
      exact answering _ (Stateful.keeps_ofExcept _ _)
  | count name filter =>
      refine Stateful.keeps_bind (Stateful.keeps_get _) fun state => ?_
      exact answering _ (Stateful.keeps_ofExcept _ _)
  | insert name documents =>
      exact answering
        _ (onCollection_keeps ofNone (insertDocuments_keeps inserts []) name)
  | update name filter changes many upsert =>
      have kept := updates ⟨filter, changes⟩ List.mem_cons_self many upsert
      cases upsert with
      | false => exact answering _ (onPresent_keeps ofNone kept name {})
      | true => exact answering _ (onCollection_keeps ofNone kept name)
  | bulkUpdate name updated upsert =>
      have kept :=
        runUpdates_keeps fun filtered member =>
          updates filtered member false upsert
      exact answering _ (onCollection_keeps ofNone (kept {}) name)
  | delete name filter many =>
      exact answering _ (onPresent_keeps ofNone (deletes filter many) name 0)

end Keeping

end Store

end PolyQuery
