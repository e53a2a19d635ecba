import PolyQuery.Proofs.Document.RenamedCollections

namespace PolyQuery

open Failing Stateful

/-!
# Renamed stores

Two stores whose documents differ by the names of their keys only answer a
renamed operation alike, with the same outcome or with failures of one kind, and
stay such stores. So an operation shows nothing of the names of keys but in the
documents that it answers.
-/

/-- Renamed collections under the same names. -/
abbrev Store.Renamed
    (names : String → String → Prop) :
    Store →
    Store →
    Prop :=
  Entries.Alike Eq (Collection.Renamed names)

/-- Renamed stores with one supply. -/
abbrev StoresAlike
    (names : String → String → Prop) :
    StoreState →
    StoreState →
    Prop :=
  Beside (Store.Renamed names)

/-- Projection and order by renamed keys, and the same stretch. -/
structure Window.Renamed
    (names : String → String → Prop)
    (left right : Window) :
    Prop where
  projection :
    Option.Rel (Document.Renamed names) left.projection right.projection
  sort : Option.Rel (Document.Renamed names) left.sort right.sort
  sameSkip : left.skip = right.skip
  sameLimit : left.limit = right.limit

/-- A renamed update of the documents of a renamed filter. -/
structure FilteredUpdate.Renamed
    (names : String → String → Prop)
    (left right : FilteredUpdate) :
    Prop where
  filter : left.filter.FilterRenamed names right.filter
  update : left.update.UpdateRenamed names right.update

/-- The same operation with renamed keys. -/
inductive DocumentOperation.Renamed
    (names : String → String → Prop) :
    DocumentOperation →
    DocumentOperation →
    Prop where
  | find
      (collection : String)
      {filter filterToo : Document}
      (filters : filter.FilterRenamed names filterToo)
      {window windowToo : Window}
      (windows : window.Renamed names windowToo) :
      Renamed names (.find collection filter window)
        (.find collection filterToo windowToo)
  | count
      (collection : String)
      {filter filterToo : Document}
      (filters : filter.FilterRenamed names filterToo) :
      Renamed names (.count collection filter) (.count collection filterToo)
  | insert
      (collection : String)
      {documents documentsToo : List Document}
      (renamed : List.Forall₂ (Document.Renamed names) documents documentsToo) :
      Renamed names (.insert collection documents)
        (.insert collection documentsToo)
  | update
      (collection : String)
      {filter filterToo changes changesToo : Document}
      (filters : filter.FilterRenamed names filterToo)
      (updates : changes.UpdateRenamed names changesToo)
      (many upsert : Bool) :
      Renamed names (.update collection filter changes many upsert)
        (.update collection filterToo changesToo many upsert)
  | bulkUpdate
      (collection : String)
      {updates updatesToo : List FilteredUpdate}
      (renamed : List.Forall₂ (FilteredUpdate.Renamed names) updates updatesToo)
      (upsert : Bool) :
      Renamed names (.bulkUpdate collection updates upsert)
        (.bulkUpdate collection updatesToo upsert)
  | delete
      (collection : String)
      {filter filterToo : Document}
      (filters : filter.FilterRenamed names filterToo)
      (many : Bool) :
      Renamed names (.delete collection filter many)
        (.delete collection filterToo many)

namespace Store

variable {names : String → String → Prop}

theorem collection_renamed
    {store storeToo : Store}
    (renamed : Store.Renamed names store storeToo)
    (name : String) :
    (store.collection name).Renamed names (storeToo.collection name) := by
  have found := renamed.get? Entries.oneToOne_eq (Eq.refl name)
  unfold collection
  generalize Entries.get? store name = present at found ⊢
  generalize Entries.get? storeToo name = presentToo at found ⊢
  cases found with
  | none =>
      exact ⟨rfl, .nil⟩
  | some collectionRenamed =>
      exact collectionRenamed

section Actions

variable
  {α : Type}
  {action actionToo : Stateful CollectionState α}
  (actionsAlike :
    RunsAlike (CollectionsAlike names) SameKind Eq action actionToo)
  (name : String)

include actionsAlike

theorem onCollection_runsAlike :
    RunsAlike (StoresAlike names) SameKind Eq (onCollection name action)
      (onCollection name actionToo) := by
  refine runsAlike_of_beside fun store storeToo supply storeRenamed => ?_
  obtain ⟨resultAlike, changedRenamed, sameLeft⟩ :=
    actionsAlike (store.collection name, supply)
      (storeToo.collection name, supply)
      ⟨collection_renamed storeRenamed name, rfl⟩
  rw [onCollection_runFrom, onCollection_runFrom]
  exact
    ⟨resultAlike, storeRenamed.insert Entries.oneToOne_eq rfl changedRenamed,
      sameLeft⟩

theorem onPresent_runsAlike
    (absent : α) :
    RunsAlike (StoresAlike names) SameKind Eq (onPresent name absent action)
      (onPresent name absent actionToo) := by
  refine runsAlike_get_bind fun store storeToo supply renamed => ?_
  dsimp only
  rw [renamed.contains_eq Entries.oneToOne_eq (Eq.refl name)]
  split
  · exact onCollection_runsAlike actionsAlike name
  · exact runsAlike_pure rfl

end Actions

variable (faithful : FaithfulRenaming names)

include faithful

theorem insertDocuments_runsAlike
    {documents documentsToo : List Document}
    (renamed : List.Forall₂ (Document.Renamed names) documents documentsToo)
    (inserted : List Json) :
    RunsAlike (CollectionsAlike names) SameKind Eq
      (insertDocuments documents inserted)
      (insertDocuments documentsToo inserted) := by
  induction renamed generalizing inserted with
  | nil =>
      exact runsAlike_pure rfl
  | cons headRenamed _ inductionHypothesis =>
      refine
        (Collection.insert_runsAlike faithful headRenamed).bind
          fun identifier identifierToo same => ?_
      rw [same]
      exact inductionHypothesis _

theorem runUpdates_runsAlike
    (upsert : Bool)
    {updates updatesToo : List FilteredUpdate}
    (renamed : List.Forall₂ (FilteredUpdate.Renamed names) updates updatesToo)
    (total : Outcome) :
    RunsAlike (CollectionsAlike names) SameKind Eq
      (runUpdates upsert updates total)
      (runUpdates upsert updatesToo total) := by
  induction renamed generalizing total with
  | nil =>
      exact runsAlike_pure rfl
  | cons headRenamed _ inductionHypothesis =>
      refine
        (Collection.update_runsAlike faithful headRenamed.update
          headRenamed.filter false upsert).bind fun one oneToo same => ?_
      rw [same]
      exact inductionHypothesis _

/-- What an operation answers: renamed documents and one outcome. -/
def AnsweredAlike
    (names : String → String → Prop)
    (answered other : List Document × Outcome) :
    Prop :=
  List.Forall₂ (Document.Renamed names) answered.1 other.1 ∧
    answered.2 = other.2

/--
A renamed operation does to a renamed store what the operation did to the store.
-/
theorem run_runsAlike
    {operation operationToo : DocumentOperation}
    (renamed : operation.Renamed names operationToo) :
    RunsAlike (StoresAlike names) SameKind (AnsweredAlike names) (run operation)
      (run operationToo) := by
  cases renamed with
  | @find collection filter filterToo filters window windowToo windows =>
      refine runsAlike_get_bind fun store storeToo supply storeRenamed => ?_
      have found :=
        Collection.find_alike faithful
          (collection_renamed storeRenamed collection) filters
          windows.projection windows.sort windowToo.skip windowToo.limit
      dsimp only
      rw [windows.sameSkip, windows.sameLimit]
      refine (runsAlike_ofExcept found).bind
        fun documents documentsToo documentsRenamed => ?_
      exact runsAlike_pure ⟨documentsRenamed, rfl⟩
  | @count collection filter filterToo filters =>
      refine runsAlike_get_bind fun store storeToo supply storeRenamed => ?_
      have collections := collection_renamed storeRenamed collection
      have matched :=
        Collection.matching_alike faithful filters collections.documents
      have counted :
          Alike SameKind Eq ((store.collection collection).count filter)
            ((storeToo.collection collection).count filterToo) :=
        matched.map fun _ _ found => found.length_eq
      refine (runsAlike_ofExcept counted).bind fun number numberToo same => ?_
      rw [same]
      exact runsAlike_pure ⟨.nil, rfl⟩
  | insert collection documents =>
      refine
        (onCollection_runsAlike
          (insertDocuments_runsAlike faithful documents [])
          collection).bind fun inserted insertedToo same => ?_
      rw [same]
      exact runsAlike_pure ⟨.nil, rfl⟩
  | update collection filters updates many upsert =>
      have updated :=
        Collection.update_runsAlike faithful updates filters many upsert
      cases upsert with
      | false =>
          refine (onPresent_runsAlike updated collection {}).bind
            fun outcome outcomeToo same => ?_
          exact runsAlike_pure ⟨.nil, same⟩
      | true =>
          refine (onCollection_runsAlike updated collection).bind
            fun outcome outcomeToo same => ?_
          exact runsAlike_pure ⟨.nil, same⟩
  | bulkUpdate collection updates upsert =>
      refine
        (onCollection_runsAlike
          (runUpdates_runsAlike faithful upsert updates {})
          collection).bind fun outcome outcomeToo same => ?_
      exact runsAlike_pure ⟨.nil, same⟩
  | delete collection filters many =>
      refine
        (onPresent_runsAlike (Collection.delete_runsAlike faithful filters many)
          collection 0).bind fun removed removedToo same => ?_
      rw [same]
      exact runsAlike_pure ⟨.nil, rfl⟩

end Store

end PolyQuery
