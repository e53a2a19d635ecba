import PolyQuery.Proofs.Document.ReplayedUpdates

namespace PolyQuery

/-!
# Collections that operations make

An operation that may insert makes the collection that it names before it is
known whether there is anything to insert. The others find an absent collection
empty and leave it absent. No operation makes another collection, and none drops
one.

So a batch of updates that inserts nothing leaves an empty collection behind,
where the same update outside of a batch leaves none.
-/

namespace DocumentOperation

/-- Whether an operation makes the collection that it names if there is none. -/
def makesCollection : DocumentOperation → Bool
  | .insert _ _ => true
  | .update _ _ _ _ upsert => upsert
  | .bulkUpdate _ _ _ => true
  | .find _ _ _ => false
  | .count _ _ => false
  | .delete _ _ _ => false

end DocumentOperation

namespace Store

/-- The store after an operation, whatever the operation answers. -/
def afterRun
    (operation : DocumentOperation)
    (state : StoreState) :
    Store :=
  ((run operation).runFrom state).2.1

/-- An operation stores new documents in the collection that it names. -/
def StoresDocument
    (operation : DocumentOperation)
    (state : StoreState) :
    Prop :=
  (state.1.collection operation.collection).documents.length <
    ((afterRun operation state).collection
      operation.collection).documents.length

theorem exists?_iff
    {store : Store}
    {name : String} :
    store.exists? name = true ↔ name ∈ store.keys :=
  Entries.contains_iff_mem_keys

/-- Stores that name their collections alike have them under the same names. -/
theorem keys_perm_of_names_eq
    {store other : Store}
    (sameNames : store.names = other.names) :
    store.keys.Perm other.keys :=
  calc
    store.keys.Perm store.names := (List.mergeSort_perm _ _).symm
    store.names.Perm other.keys := sameNames ▸ List.mergeSort_perm _ _

/-- What an operation can leave of a store. -/
inductive Leaves
    (operation : DocumentOperation)
    (store : Store) :
    Store →
    Prop where
  | untouched
      (finds : operation.makesCollection = false) :
      Leaves operation store store
  | edited
      {changed : Collection}
      (finds : operation.makesCollection = false)
      (present : operation.collection ∈ store.keys)
      (noneAdded :
        changed.documents.length ≤
          (store.collection operation.collection).documents.length) :
      Leaves operation store (store.insert operation.collection changed)
  | placed
      {changed : Collection}
      (makes : operation.makesCollection = true) :
      Leaves operation store (store.insert operation.collection changed)

section Actions

variable
  {α β : Type}
  {operation : DocumentOperation}
  {action : Stateful CollectionState α}

theorem leaves_of_onCollection
    (makes : operation.makesCollection = true)
    (answer : α → β)
    (state : StoreState) :
    Leaves operation state.1
      ((onCollection operation.collection action >>= fun value =>
        pure (answer value)).runFrom
        state).2.1 := by
  rw [Stateful.runFrom_bind_pure, onCollection_runFrom]
  exact .placed makes

theorem leaves_of_onPresent
    (finds : operation.makesCollection = false)
    (addsNone :
      ∀ bound,
        Collection.KeepsDocuments action fun documents =>
          documents.length ≤ bound)
    (absent : α)
    (answer : α → β)
    (state : StoreState) :
    Leaves operation state.1
      ((onPresent operation.collection absent action >>=
        fun value => pure (answer value)).runFrom state).2.1 := by
  rw [Stateful.runFrom_bind_pure, onPresent_runFrom]
  split
  next present =>
    rw [onCollection_runFrom]
    exact .edited finds (Entries.contains_iff_mem_keys.mp present)
      (addsNone _ (state.1.collection operation.collection, state.2) le_rfl)
  next =>
    exact .untouched finds

end Actions

theorem update_adds_none
    (filter changes : Document)
    (many : Bool)
    (bound : Nat) :
    Collection.KeepsDocuments (Collection.update filter changes many false)
      fun documents => documents.length ≤ bound := by
  rintro ⟨collection, supply⟩ within
  have related :
      List.Forall₂ (fun _ _ => True) collection.documents
        (Collection.updateMatching filter changes many collection.documents {}
          supply).2.1 :=
    Collection.forall₂_updateMatching (fun _ => trivial) (fun _ _ => trivial)
      filter many collection.documents {} supply
  rw [Collection.update_runFrom_without_upsert]
  exact related.length_eq.symm.trans_le within

theorem delete_adds_none
    (filter : Document)
    (many : Bool)
    (bound : Nat) :
    Collection.KeepsDocuments (Collection.delete filter many)
      fun documents => documents.length ≤ bound :=
  Collection.delete_keeps (Nat.zero_le bound)
    (fun _ _ fewer within => fewer.length_le.trans within) filter many

/--
Every operation, whether it succeeds or fails, leaves one of
the stores that it can.
-/
theorem leaves_afterRun
    (operation : DocumentOperation)
    (state : StoreState) :
    Leaves operation state.1 (afterRun operation state) := by
  cases operation with
  | find name filter window =>
      rw [afterRun, run_find]
      exact .untouched rfl
  | count name filter =>
      rw [afterRun, run_count]
      exact .untouched rfl
  | insert name documents =>
      exact leaves_of_onCollection rfl _ state
  | update name filter changes many upsert =>
      cases upsert with
      | true => exact leaves_of_onCollection rfl _ state
      | false =>
          exact leaves_of_onPresent rfl (update_adds_none filter changes many)
            _ _ state
  | bulkUpdate name updates upsert =>
      exact leaves_of_onCollection rfl _ state
  | delete name filter many =>
      exact leaves_of_onPresent rfl (delete_adds_none filter many) _ _ state

section Left

variable
  {operation : DocumentOperation}
  {store after : Store}

/--
Only an operation that makes collections adds a name, the one
of its own collection.
-/
theorem Leaves.keys_eq
    (leaves : Leaves operation store after) :
    after.keys =
      if operation.makesCollection = true ∧
          operation.collection ∉ store.keys then
        store.keys ++ [operation.collection]
      else
        store.keys := by
  cases leaves with
  | untouched finds =>
      simp [finds]
  | edited finds present =>
      simp [Entries.keys_insert, finds, present]
  | placed makes =>
      rw [Entries.keys_insert]
      split <;> simp_all

theorem Leaves.names_eq_iff
    (leaves : Leaves operation store after) :
    after.names = store.names ↔
      operation.makesCollection = false ∨
        store.exists? operation.collection = true := by
  have keysAfter := leaves.keys_eq
  rw [exists?_iff]
  constructor
  · intro sameNames
    by_contra neither
    obtain ⟨makes, absent⟩ := not_or.mp neither
    rw [if_pos ⟨Bool.not_eq_false _ ▸ makes, absent⟩] at keysAfter
    -- A collection that joins makes the names more.
    have sameLength := (keys_perm_of_names_eq sameNames).length_eq
    rw [keysAfter, List.length_append] at sameLength
    exact absurd sameLength (Nat.ne_of_gt (Nat.lt_succ_self _))
  · intro finds
    have noneMade :
        ¬(operation.makesCollection = true ∧
          operation.collection ∉ store.keys) := by
      rintro ⟨makes, absent⟩
      rcases finds with isFinding | present
      · rw [isFinding] at makes
        cases makes
      · exact absent present
    rw [if_neg noneMade] at keysAfter
    simp only [names, keysAfter]

theorem Leaves.exists?_iff
    (leaves : Leaves operation store after)
    {name : String} :
    after.exists? name = true ↔
      store.exists? name = true ∨
        operation.makesCollection = true ∧ name = operation.collection := by
  rw [Store.exists?_iff, Store.exists?_iff, leaves.keys_eq]
  split
  next made =>
    simp [made.1]
  next notMade =>
    refine ⟨.inl, ?_⟩
    rintro (isThere | ⟨makes, rfl⟩)
    · exact isThere
    · exact not_not.mp fun absent => notMade ⟨makes, absent⟩

theorem Leaves.get?_of_ne
    (leaves : Leaves operation store after)
    {other : String}
    (elsewhere : other ≠ operation.collection) :
    after.get? other = store.get? other := by
  cases leaves with
  | untouched =>
      rfl
  | edited | placed =>
      rw [Entries.get?_insert, if_neg elsewhere.symm]

/--
An operation that makes no collection adds no document to the one that it names.
-/
theorem Leaves.length_le
    (leaves : Leaves operation store after)
    (finds : operation.makesCollection = false) :
    (after.collection operation.collection).documents.length ≤
      (store.collection operation.collection).documents.length := by
  cases leaves with
  | untouched =>
      exact le_rfl
  | edited _ _ noneAdded =>
      rw [collection_insert]
      exact noneAdded
  | placed makes =>
      rw [finds] at makes
      cases makes

end Left

/--
An operation changes the names of the collections exactly if it may insert and
its collection is absent.

The name of that collection is then the only new one, whether the operation
stores anything or not and whether it succeeds or fails; if it stores no
document, the new collection is empty. An operation that does store documents
may insert, so its collection is there afterwards. Every other collection stays
as it is.
-/
theorem names_change_only_by_making
    (operation : DocumentOperation)
    (state : StoreState) :
    ((afterRun operation state).names = state.1.names ↔
        operation.makesCollection = false ∨
          state.1.exists? operation.collection = true) ∧
      (∀ name,
        (afterRun operation state).exists? name = true ↔
          state.1.exists? name = true ∨
            operation.makesCollection = true ∧ name = operation.collection) ∧
      (StoresDocument operation state →
        operation.makesCollection = true ∧
          (afterRun operation state).exists? operation.collection = true) ∧
      (¬StoresDocument operation state →
        (afterRun operation state).names ≠ state.1.names →
          (afterRun operation state).exists? operation.collection = true ∧
            ((afterRun operation state).collection
              operation.collection).documents = []) ∧
      ∀ other, other ≠ operation.collection →
        (afterRun operation state).get? other = state.1.get? other := by
  have leaves := leaves_afterRun operation state
  refine ⟨leaves.names_eq_iff, fun name => leaves.exists?_iff, ?_, ?_,
    fun other => leaves.get?_of_ne⟩
  · intro stores
    have makes : operation.makesCollection = true := by
      by_contra finds
      exact Nat.not_lt.mpr (leaves.length_le (Bool.not_eq_true _ ▸ finds))
        stores
    exact ⟨makes, leaves.exists?_iff.mpr (.inr ⟨makes, rfl⟩)⟩
  · intro storesNone namesDiffer
    obtain ⟨finding, absent⟩ :=
      not_or.mp (leaves.names_eq_iff.not.mp namesDiffer)
    have noneBefore := documents_of_absent absent
    rw [StoresDocument, noneBefore, List.length_nil, Nat.pos_iff_ne_zero,
      not_not, List.length_eq_zero_iff] at storesNone
    exact ⟨leaves.exists?_iff.mpr (.inr ⟨Bool.not_eq_false _ ▸ finding, rfl⟩),
      storesNone⟩

/--
The collections there are after a run are those before it
and those that it made.
-/
theorem exists?_afterOperations
    (operations : List DocumentOperation)
    (state : StoreState)
    (name : String) :
    (afterOperations operations state).1.exists? name = true ↔
      state.1.exists? name = true ∨
        ∃ operation ∈ operations,
          operation.makesCollection = true ∧ name = operation.collection := by
  induction operations generalizing state with
  | nil =>
      simp [afterOperations]
  | cons operation rest inductionHypothesis =>
      have step :
          ((run operation).runFrom state).2.1.exists? name = true ↔ _ :=
        (leaves_afterRun operation state).exists?_iff
      have further := inductionHypothesis ((run operation).runFrom state).2
      rw [step, or_assoc] at further
      rw [List.exists_mem_cons_iff]
      exact further

/-- An update of one person that is not to insert, as a batch. -/
def updateAbsentInBatch : DocumentOperation :=
  .bulkUpdate "person"
    [⟨[("_id", .ofInt 1)], [("$set", .object [("a", .ofInt 1)])]⟩] false

/-- The same update outside of a batch. -/
def updateAbsent : DocumentOperation :=
  .update "person" [("_id", .ofInt 1)] [("$set", .object [("a", .ofInt 1)])]
    false false

/--
A batch that updates and inserts nothing makes a collection; the same
update alone does not.
-/
theorem batch_of_nothing_makes_collection :
    (run updateAbsentInBatch).runFrom ([], firstSupply) =
        (.ok ([], {}), ([("person", { name := "person" })], firstSupply)) ∧
      ¬StoresDocument updateAbsentInBatch ([], firstSupply) ∧
      (afterRun updateAbsentInBatch ([], firstSupply)).names = ["person"] ∧
      (afterRun updateAbsentInBatch ([], firstSupply)).names ≠ names [] ∧
      afterRun updateAbsent ([], firstSupply) = [] := by
  have noNames : names [] = [] := List.mergeSort_nil
  have oneName :
      (afterRun updateAbsentInBatch ([], firstSupply)).names = ["person"] :=
    List.mergeSort_singleton "person"
  refine ⟨rfl, Nat.lt_irrefl 0, oneName, ?_, rfl⟩
  rw [oneName, noNames]
  exact List.cons_ne_nil _ _

end Store

end PolyQuery
