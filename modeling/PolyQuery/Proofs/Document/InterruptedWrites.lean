import PolyQuery.Proofs.Document.DistinctIdentifiers

namespace PolyQuery

/-!
# Interrupted writes

The documents of an insert, and the updates of a batch, are written one after
the other, each into what those before it left. A write that fails at a row
stops there: the rows before it stay written, the rows behind it are not looked
at, and of the row itself stays at most what its update changed in one document
before it failed. Other collections are untouched, but the collection of the
write is there afterwards also if it was not there before.
-/

namespace Collection

theorem insert_of_error
    {document : Document}
    {collection after : Collection}
    {supply left : Supply}
    {cause : QueryError}
    (failed :
      (insert document).runFrom (collection, supply) =
        (.error cause, (after, left))) :
    after = collection := by
  rw [insert_runFrom] at failed
  split at failed
  · cases failed
    rfl
  · cases failed

/--
What a failing update of one document leaves of some documents: they are as they
were, or the first of them that satisfies the filter has the changes that were
made before the failing one.
-/
inductive Halted
    (filtered : FilteredUpdate)
    (cause : QueryError)
    (documents : List Document) :
    List Document →
    Prop where
  | untouched :
      Halted filtered cause documents documents
  | touched
      {front rest : List Document}
      {document changed : Document}
      {supply left : Supply}
      (places : documents = front ++ document :: rest)
      (holds : document.matches filtered.filter = .ok true)
      (applied :
        applyTo false filtered.update document supply =
          (.error cause, changed, left)) :
      Halted filtered cause documents (front ++ changed :: rest)

theorem Halted.cons
    {filtered : FilteredUpdate}
    {cause : QueryError}
    {documents left : List Document}
    (halted : Halted filtered cause documents left)
    (first : Document) :
    Halted filtered cause (first :: documents) (first :: left) := by
  cases halted with
  | untouched =>
      exact .untouched
  | @touched front _ _ _ _ _ places holds applied =>
      have later : first :: documents = (first :: front) ++ _ :=
        congrArg (List.cons first) places
      have touched := Halted.touched later holds applied
      exact touched

theorem halted_of_updateMatching
    {filtered : FilteredUpdate}
    {documents : List Document}
    {tally : Tally}
    {supply : Supply}
    {cause : QueryError}
    (failed :
      (updateMatching filtered.filter filtered.update false documents tally
          supply).1 =
        .error cause) :
    Halted filtered cause documents
      (updateMatching filtered.filter filtered.update false documents tally
        supply).2.1 := by
  induction documents with
  | nil =>
      exact .untouched
  | cons document rest inductionHypothesis =>
      unfold updateMatching at failed ⊢
      split
      next =>
        exact .untouched
      next fails =>
        rw [fails] at failed
        exact (inductionHypothesis failed).cons document
      next holds =>
        rw [holds] at failed
        dsimp only at failed
        split
        next applied =>
          rw [applied] at failed
          cases failed
          have places : document :: rest = [] ++ document :: rest := rfl
          have touched := Halted.touched places holds applied
          exact touched
        next applied =>
          rw [applied] at failed
          cases failed

/-- An update that goes on to look for none changes nothing. -/
theorem updateMatching_of_unmatched
    {filter changes : Document}
    {documents left : List Document}
    {tally total : Tally}
    {supply rest : Supply}
    (matched :
      updateMatching filter changes false documents tally supply =
        (.ok total, left, rest))
    (none : total.matched = tally.matched) :
    left = documents := by
  induction documents generalizing left with
  | nil =>
      cases matched
      rfl
  | cons document others inductionHypothesis =>
      unfold updateMatching at matched
      split at matched
      · cases matched
      · cases continued :
            updateMatching filter changes false others tally supply with
        | mk result further =>
            rw [continued] at matched
            cases matched
            rw [inductionHypothesis continued]
      · split at matched
        · cases matched
        · cases matched
          exact absurd none (Nat.succ_ne_self _)

/-- A failing upsert leaves the documents as they are. -/
theorem upsert_of_error
    {filter changes : Document}
    {collection after : Collection}
    {supply left : Supply}
    {cause : QueryError}
    (failed :
      (upsert filter changes).runFrom (collection, supply) =
        (.error cause, (after, left))) :
    after = collection := by
  simp only [upsert, Stateful.runFrom_bind, Stateful.runFrom_get,
    Stateful.runFrom_set, Stateful.runFrom_ofExcept] at failed
  generalize applyTo true changes (upsertSeed filter) supply = applied at failed
  obtain ⟨result, seed, seeded⟩ := applied
  cases result with
  | error other =>
      cases failed
      rfl
  | ok =>
      dsimp only at failed
      cases inserted : (insert seed).runFrom (collection, seeded) with
      | mk outcome changed =>
          rw [inserted] at failed
          cases outcome with
          | error other =>
              cases failed
              exact insert_of_error inserted
          | ok identifier =>
              cases failed

/-- A failing update of one document leaves a trace in one document at most. -/
theorem update_of_error
    {filtered : FilteredUpdate}
    {upserting : Bool}
    {collection after : Collection}
    {supply left : Supply}
    {cause : QueryError}
    (failed :
      (update filtered.filter filtered.update false upserting).runFrom
          (collection, supply) =
        (.error cause, (after, left))) :
    after.name = collection.name ∧
      Halted filtered cause collection.documents after.documents := by
  simp only [update, Stateful.runFrom_bind, Stateful.runFrom_get,
    Stateful.runFrom_set, Stateful.runFrom_ofExcept] at failed
  cases matched :
      updateMatching filtered.filter filtered.update false collection.documents
        {} supply with
  | mk result further =>
      obtain ⟨documents, rest⟩ := further
      rw [matched] at failed
      cases result with
      | error other =>
          cases failed
          have halted := halted_of_updateMatching (congrArg Prod.fst matched)
          rw [matched] at halted
          exact ⟨rfl, halted⟩
      | ok tally =>
          dsimp only at failed
          split at failed
          next unmatched =>
            have noMatch : tally.matched = 0 := by
              simp only [Bool.and_eq_true, decide_eq_true_eq] at unmatched
              exact unmatched.1
            have unchanged := updateMatching_of_unmatched matched noMatch
            subst unchanged
            rcases Stateful.runFrom_bind_eq_error failed with
                upserted | ⟨_, _, _, answered⟩
            · rw [upsert_of_error upserted]
              exact ⟨rfl, .untouched⟩
            · cases answered
          next =>
            cases failed

/-- An action leaves a collection its name. -/
def KeepsName
    {α : Type}
    (action : Stateful CollectionState α) :
    Prop :=
  ∀ name, Stateful.Keeps action fun state => state.1.name = name

theorem insert_keeps_name
    (document : Document) :
    KeepsName (insert document) := by
  intro name state named
  obtain ⟨collection, supply⟩ := state
  rw [insert_runFrom]
  split <;> exact named

theorem upsert_keeps_name
    (filter changes : Document) :
    KeepsName (upsert filter changes) := by
  intro name state named
  obtain ⟨collection, supply⟩ := state
  simp only [upsert, Stateful.runFrom_bind, Stateful.runFrom_get,
    Stateful.runFrom_set, Stateful.runFrom_ofExcept]
  obtain ⟨result, seed, left⟩ := applyTo true changes (upsertSeed filter) supply
  cases result with
  | error cause =>
      exact named
  | ok =>
      have kept :=
        Stateful.keeps_bind (insert_keeps_name seed name)
          (fun identifier => Stateful.keeps_pure (idText identifier) _)
          (collection, left) named
      rw [Stateful.runFrom_bind] at kept
      exact kept

theorem update_keeps_name
    (filter changes : Document)
    (many upserting : Bool) :
    KeepsName (update filter changes many upserting) := by
  intro name state named
  obtain ⟨collection, supply⟩ := state
  simp only [update, Stateful.runFrom_bind, Stateful.runFrom_get,
    Stateful.runFrom_set, Stateful.runFrom_ofExcept]
  obtain ⟨result, documents, left⟩ :=
    updateMatching filter changes many collection.documents {} supply
  cases result with
  | error cause =>
      exact named
  | ok tally =>
      dsimp only
      split
      · exact Stateful.keeps_bind (upsert_keeps_name filter changes name)
          (fun _ => Stateful.keeps_pure _ _) _ named
      · exact named

end Collection

namespace DocumentOperation

/-- Whether an operation writes rows one after the other. -/
def writesRows : DocumentOperation → Bool
  | .insert _ _ => true
  | .bulkUpdate _ _ _ => true
  | _ => false

/-- The number of rows that an operation writes one after the other. -/
def rowCount : DocumentOperation → Nat
  | .insert _ documents => documents.length
  | .bulkUpdate _ updates _ => updates.length
  | _ => 0

/-- The write of the first rows of an operation alone. -/
def firstRows
    (count : Nat) :
    DocumentOperation →
    DocumentOperation
  | .insert name documents => .insert name (documents.take count)
  | .bulkUpdate name updates upsert =>
      .bulkUpdate name (updates.take count) upsert
  | other => other

/-- The write of the row at an index of an operation alone. -/
def rowAt
    (index : Nat) :
    DocumentOperation →
    DocumentOperation
  | .insert name documents => .insert name documents[index]?.toList
  | .bulkUpdate name updates upsert =>
      .bulkUpdate name updates[index]?.toList upsert
  | other => other

/--
What the failing row of a write leaves: nothing of an insert,
a trace of an update.
-/
def Leaves
    (operation : DocumentOperation)
    (index : Nat)
    (cause : QueryError)
    (before after : List Document) :
    Prop :=
  match operation with
  | .bulkUpdate _ updates _ =>
      ∃ filtered, updates[index]? = some filtered ∧
        Collection.Halted filtered cause before after
  | _ => after = before

end DocumentOperation

namespace Store

/-- What one document adds to the identifiers told so far. -/
def insertStep
    (told : List Json)
    (document : Document) :
    Stateful CollectionState (List Json) :=
  Collection.insert document >>= fun identifier =>
    pure (told ++ [ObjectId.decode identifier])

theorem insertDocuments_eq_foldlM
    (documents : List Document)
    (told : List Json) :
    insertDocuments documents told = documents.foldlM insertStep told := by
  induction documents generalizing told with
  | nil =>
      rfl
  | cons document rest inductionHypothesis =>
      rw [insertDocuments, List.foldlM_cons, insertStep, bind_assoc]
      simp only [pure_bind, inductionHypothesis]

/-- What one update adds to the outcome so far. -/
def updateStep
    (upsert : Bool)
    (total : Outcome)
    (filtered : FilteredUpdate) :
    Stateful CollectionState Outcome :=
  Collection.update filtered.filter filtered.update false upsert >>= fun one =>
    pure {
      affected := total.affected + one.affected
      matched := total.matched + one.matched
      modified := total.modified + one.modified
      upsertedId := none
      insertedIds :=
        total.insertedIds ++ (one.upsertedId.map Json.string).toList
    }

theorem runUpdates_eq_foldlM
    (upsert : Bool)
    (updates : List FilteredUpdate)
    (total : Outcome) :
    runUpdates upsert updates total =
      updates.foldlM (updateStep upsert) total := by
  induction updates generalizing total with
  | nil =>
      rfl
  | cons filtered rest inductionHypothesis =>
      rw [runUpdates, List.foldlM_cons, updateStep, bind_assoc]
      simp only [pure_bind, inductionHypothesis]

/--
Steps on a collection that fail do so at one of them, as it
would fail by itself.
-/
theorem onCollection_foldlM_error
    {β ρ : Type}
    {step : β → ρ → Stateful CollectionState β}
    {rows : List ρ}
    {start : β}
    {name : String}
    {state after : StoreState}
    {cause : QueryError}
    (failed :
      (onCollection name (rows.foldlM step start)).runFrom state =
        (.error cause, after)) :
    ∃ index row value reached,
      rows[index]? = some row ∧
        (onCollection name ((rows.take index).foldlM step start)).runFrom
          state =
            (.ok value, reached) ∧
          (onCollection name (step value row)).runFrom reached =
            (.error cause, after) := by
  obtain ⟨changed, left, stepsFailed, rfl⟩ := exists_of_onCollection failed
  obtain ⟨index, row, value, ⟨before, drawn⟩, isRow, ran, rowFailed⟩ :=
    Stateful.runFrom_foldlM_error stepsFailed
  refine ⟨index, row, value, (state.1.insert name before, drawn), isRow, ?_, ?_⟩
  · rw [onCollection_runFrom, ran]
  · rw [onCollection_runFrom]
    dsimp only
    rw [collection_insert, rowFailed, Entries.insert_insert]

section Frame

variable
  {α : Type}
  {name : String}
  {action : Stateful CollectionState α}
  {state after : StoreState}
  {result : Except QueryError α}
  (ran : (onCollection name action).runFrom state = (result, after))

include ran

theorem get?_onCollection_of_ne
    {other : String}
    (elsewhere : other ≠ name) :
    after.1.get? other = state.1.get? other := by
  rw [onCollection_runFrom] at ran
  cases ran
  rw [Entries.get?_insert, if_neg (Ne.symm elsewhere)]

theorem keys_onCollection :
    after.1.keys =
      if name ∈ state.1.keys then state.1.keys else state.1.keys ++ [name] := by
  rw [onCollection_runFrom] at ran
  cases ran
  exact Entries.keys_insert _ _ _

/--
A store stays the same only if the collection is there and its
documents stay the same.
-/
theorem onCollection_unchanged_iff
    (keepsName : Collection.KeepsName action) :
    after.1 = state.1 ↔
      name ∈ state.1.keys ∧
        (after.1.collection name).documents =
          (state.1.collection name).documents := by
  have afterKeys := keys_onCollection ran
  constructor
  · intro same
    refine ⟨?_, by rw [same]⟩
    by_contra absent
    rw [same, if_neg absent] at afterKeys
    exact absurd (congrArg List.length afterKeys) (by simp)
  · rintro ⟨present, sameDocuments⟩
    have sameName := keepsName _ (state.1.collection name, state.2) rfl
    rw [onCollection_runFrom] at ran
    cases ran
    rw [collection_insert] at sameDocuments
    obtain ⟨stored, found⟩ :=
      Option.isSome_iff_exists.mp (Entries.contains_iff_mem_keys.mpr present)
    have isStored : state.1.collection name = stored := by
      simp [collection, found]
    have unchanged :
        (action.runFrom (state.1.collection name, state.2)).2.1 = stored := by
      rw [← isStored]
      cases changed : (action.runFrom (state.1.collection name, state.2)).2.1
      cases before : state.1.collection name
      rw [changed, before] at sameDocuments sameName
      simp_all
    dsimp only
    rw [unchanged]
    exact Entries.insert_of_get? found

end Frame

/--
How a write of rows fails: at the row with an index, from the state that the
rows before it reached.
-/
structure Interrupted
    (operation : DocumentOperation)
    (cause : QueryError)
    (state reached after : StoreState)
    (index : Nat) :
    Prop where
  /-- There is such a row. -/
  inRange : index < operation.rowCount
  /-- The rows before it are written, as if they had been asked for alone. -/
  written :
    ∃ answer,
      (run (operation.firstRows index)).runFrom state = (.ok answer, reached)
  /-- The row fails after them, as it would by itself. -/
  failed : (run (operation.rowAt index)).runFrom reached = (.error cause, after)
  /-- What the failing row leaves of the documents. -/
  leaves :
    operation.Leaves index cause
      (reached.1.collection operation.collection).documents
      (after.1.collection operation.collection).documents
  elsewhere :
    ∀ name, name ≠ operation.collection → after.1.get? name = state.1.get? name
  names :
    after.1.keys =
      if operation.collection ∈ state.1.keys then
        state.1.keys
      else
        state.1.keys ++ [operation.collection]
  /--
  The store is as before only if no collection was made and no document changed.
  -/
  unchanged_iff :
    after.1 = state.1 ↔
      operation.collection ∈ state.1.keys ∧
        (after.1.collection operation.collection).documents =
          (state.1.collection operation.collection).documents

section Steps

variable {β ρ : Type}

/--
An operation writes rows by one step for each, whose failure the steps
before do not decide.
-/
structure WritesBy
    (operation : DocumentOperation)
    (rows : List ρ)
    (step : β → ρ → Stateful CollectionState β)
    (start : β)
    (answer : β → List Document × Outcome) :
    Prop where
  count : operation.rowCount = rows.length
  whole :
    run operation =
      onCollection operation.collection (rows.foldlM step start) >>=
        fun value => pure (answer value)
  first :
    ∀ count, run (operation.firstRows count) =
      onCollection operation.collection
        ((rows.take count).foldlM step start) >>= fun value =>
          pure (answer value)
  row :
    ∀ index, run (operation.rowAt index) =
      onCollection operation.collection
        (rows[index]?.toList.foldlM step start) >>= fun value =>
          pure (answer value)
  keepsName : ∀ value row, Collection.KeepsName (step value row)
  failsAlike :
    ∀ value other row state cause after,
      (step value row).runFrom state = (.error cause, after) →
        (step other row).runFrom state = (.error cause, after)
  leaves :
    ∀ index row value collection supply cause changed left,
      rows[index]? = some row →
      (step value row).runFrom (collection, supply) =
          (.error cause, (changed, left)) →
        operation.Leaves index cause collection.documents changed.documents

variable
  {operation : DocumentOperation}
  {rows : List ρ}
  {step : β → ρ → Stateful CollectionState β}
  {start : β}
  {answer : β → List Document × Outcome}
  {state after : StoreState}
  {cause : QueryError}

/-- A write by steps that fails is interrupted at the row of one of them. -/
theorem WritesBy.interrupted
    (writes : WritesBy operation rows step start answer)
    (failed : (run operation).runFrom state = (.error cause, after)) :
    ∃ index reached, Interrupted operation cause state reached after index := by
  rw [writes.whole, Stateful.runFrom_bind_pure_eq_error] at failed
  obtain ⟨index, row, value, reached, isRow, ran, rowFailed⟩ :=
    onCollection_foldlM_error failed
  obtain ⟨changed, left, stepFailed, isAfter⟩ :=
    exists_of_onCollection rowFailed
  have keepsName : Collection.KeepsName (rows.foldlM step start) := fun name =>
    Stateful.keeps_foldlM (fun value row _ => writes.keepsName value row name)
      start
  have changedThere : after.1.collection operation.collection = changed := by
    rw [isAfter]
    exact collection_insert _ _ _
  refine
    ⟨index, reached, {
      inRange := ?_
      written := ⟨answer value, ?_⟩
      failed := ?_
      leaves := ?_
      elsewhere := fun _ => get?_onCollection_of_ne failed
      names := keys_onCollection failed
      unchanged_iff := onCollection_unchanged_iff failed keepsName
    }⟩
  · rw [writes.count]
    exact (List.getElem?_eq_some_iff.mp isRow).1
  · rw [writes.first, Stateful.runFrom_bind_pure, ran]
    rfl
  · have alone :
        [row].foldlM step start = step start row >>= fun value => pure value :=
      List.foldlM_cons
    rw [writes.row, isRow, Stateful.runFrom_bind_pure_eq_error,
      Option.toList_some, alone, onCollection_runFrom,
      Stateful.runFrom_bind_pure_eq_error.mpr
        (writes.failsAlike value start row _ _ _ stepFailed), isAfter]
  · rw [changedThere]
    exact writes.leaves index row value _ _ cause changed left isRow stepFailed

end Steps

theorem writesBy_insertStep
    (name : String)
    (documents : List Document) :
    WritesBy (.insert name documents) documents insertStep [] fun inserted =>
      ([], { affected := inserted.length, insertedIds := inserted }) := by
  have runs :
      ∀ some : List Document, run (.insert name some) =
        onCollection name (some.foldlM insertStep []) >>= fun inserted =>
          pure
            ([], { affected := inserted.length, insertedIds := inserted }) := by
    intro some
    rw [← insertDocuments_eq_foldlM]
    rfl
  refine {
    count := rfl
    whole := runs documents
    first := fun _ => runs _
    row := fun _ => runs _
    keepsName := ?_
    failsAlike := ?_
    leaves := ?_
  }
  · intro told document kept
    exact Stateful.keeps_bind (Collection.insert_keeps_name document kept)
      fun _ => Stateful.keeps_pure _ _
  · intro told other document state cause after failed
    exact Stateful.runFrom_bind_pure_eq_error.mpr
      (Stateful.runFrom_bind_pure_eq_error.mp failed)
  · intro index document told collection supply cause changed left _ failed
    have insertFailed := Stateful.runFrom_bind_pure_eq_error.mp failed
    exact congrArg Collection.documents
      (Collection.insert_of_error insertFailed)

theorem writesBy_updateStep
    (name : String)
    (updates : List FilteredUpdate)
    (upsert : Bool) :
    WritesBy (.bulkUpdate name updates upsert) updates (updateStep upsert) {}
      fun outcome => ([], outcome) := by
  have runs :
      ∀ some : List FilteredUpdate, run (.bulkUpdate name some upsert) =
        onCollection name (some.foldlM (updateStep upsert) {}) >>=
          fun outcome => pure ([], outcome) := by
    intro some
    rw [← runUpdates_eq_foldlM]
    rfl
  refine {
    count := rfl
    whole := runs updates
    first := fun _ => runs _
    row := fun _ => runs _
    keepsName := ?_
    failsAlike := ?_
    leaves := ?_
  }
  · intro total filtered kept
    exact
      Stateful.keeps_bind
        (Collection.update_keeps_name filtered.filter filtered.update false
          upsert kept)
        fun _ => Stateful.keeps_pure _ _
  · intro total other filtered state cause after failed
    exact Stateful.runFrom_bind_pure_eq_error.mpr
      (Stateful.runFrom_bind_pure_eq_error.mp failed)
  · intro index filtered total collection supply cause changed left isFiltered
      failed
    have updateFailed := Stateful.runFrom_bind_pure_eq_error.mp failed
    exact ⟨filtered, isFiltered, (Collection.update_of_error updateFailed).2⟩

/--
An interrupted insert changes nothing only if its first row fails on
a present collection.
-/
theorem Interrupted.insert_unchanged_iff
    {name : String}
    {documents : List Document}
    {cause : QueryError}
    {state reached after : StoreState}
    {index : Nat}
    (interrupted :
      Interrupted (.insert name documents) cause state reached after index) :
    after.1 = state.1 ↔ index = 0 ∧ name ∈ state.1.keys := by
  obtain ⟨answer, ran⟩ := interrupted.written
  rw [DocumentOperation.firstRows, (writesBy_insertStep name _).whole,
    Stateful.runFrom_bind_pure] at ran
  have reachedLeft :
      (after.1.collection name).documents =
        (reached.1.collection name).documents :=
    interrupted.leaves
  obtain ⟨added, isReached, sameLength⟩ :
      ∃ added,
        (reached.1.collection name).documents =
            (state.1.collection name).documents ++ added ∧
          added.length = index := by
    cases inserted :
        (onCollection name
          ((documents.take index).foldlM insertStep [])).runFrom state with
    | mk result changed =>
        rw [DocumentOperation.collection, inserted] at ran
        cases result with
        | error other =>
            cases ran
        | ok told =>
            cases ran
            obtain ⟨present, left, stepped, rfl⟩ :=
              exists_of_onCollection inserted
            rw [← insertDocuments_eq_foldlM] at stepped
            obtain ⟨added, isPresent, stored⟩ :=
              exists_added_of_insertDocuments stepped
            have enough : index ≤ documents.length :=
              Nat.le_of_lt interrupted.inRange
            dsimp only
            rw [collection_insert]
            refine ⟨added, isPresent, ?_⟩
            rw [← stored.length_eq, List.length_take, Nat.min_eq_left enough]
  rw [interrupted.unchanged_iff, DocumentOperation.collection, reachedLeft,
    isReached, and_comm, List.append_right_eq_self, ← List.length_eq_zero_iff,
    sameLength]

/--
A failed write of rows stops at a row and keeps those before it.

So the store is as it was before only if the collection was there and neither
the rows before the failing one nor its own changes wrote anything: for an
insert, only if its first row is the one that fails.
-/
theorem failed_write_keeps_rows_before
    {operation : DocumentOperation}
    (writesRows : operation.writesRows = true)
    {state after : StoreState}
    {cause : QueryError}
    (failed : (run operation).runFrom state = (.error cause, after)) :
    ∃ index reached,
      Interrupted operation cause state reached after index ∧
        ∀ name documents, operation = .insert name documents →
          (after.1 = state.1 ↔ index = 0 ∧ name ∈ state.1.keys) := by
  cases operation with
  | insert name documents =>
      obtain ⟨index, reached, interrupted⟩ :=
        (writesBy_insertStep name documents).interrupted failed
      refine ⟨index, reached, interrupted, ?_⟩
      rintro _ _ ⟨⟩
      exact interrupted.insert_unchanged_iff
  | bulkUpdate name updates upsert =>
      obtain ⟨index, reached, interrupted⟩ :=
        (writesBy_updateStep name updates upsert).interrupted failed
      exact ⟨index, reached, interrupted, fun _ _ isInsert => nomatch isInsert⟩
  | _ =>
      cases writesRows

/-- Two documents with one identifier. -/
def insertTwice : DocumentOperation :=
  .insert "person" [[("_id", .ofInt 1)], [("_id", .ofInt 1)]]

/--
Two updates, the second of which adds to a text after it has
written another field.
-/
def updateTwice : DocumentOperation :=
  .bulkUpdate "person" [
    ⟨[("_id", .ofInt 1)], [("$set", .object [("name", .string "Ada")])]⟩,
    ⟨[("_id", .ofInt 1)],
      [("$set", .object [("age", .ofInt 36)]),
        ("$inc", .object [("name", .ofInt 1)])]⟩]
    false

/-- A store with one document. -/
def onePerson : Store :=
  [("person", { name := "person", documents := [[("_id", .ofInt 1)]] })]

theorem failed_write_keeps_rows_before_of_batch :
    ∃ cause after,
      updateTwice.writesRows = true ∧
      (run updateTwice).runFrom (onePerson, firstSupply) =
        (.error cause, after) ∧
      ∃ index reached,
        Interrupted updateTwice cause (onePerson, firstSupply) reached after
            index ∧
          ∀ name documents, updateTwice = .insert name documents →
            (after.1 = onePerson ↔ index = 0 ∧ name ∈ onePerson.keys) := by
  have fails :
      ∃ cause after,
        (run updateTwice).runFrom (onePerson, firstSupply) =
          (.error cause, after) :=
    ⟨_, _, rfl⟩
  obtain ⟨cause, after, failed⟩ := fails
  exact ⟨cause, after, rfl, failed, failed_write_keeps_rows_before rfl failed⟩

/--
An insert of two documents with one identifier fails, and the first of them
stays; a batch of updates that fails at its second row keeps the first and half
of the second.
-/
theorem failed_writes_change_store :
    (run insertTwice).runFrom ([], firstSupply) =
        (.error (.duplicateKey "person._id 1"), (onePerson, firstSupply)) ∧
      onePerson.keys ≠ Entries.keys ([] : Store) ∧
      (run updateTwice).runFrom (onePerson, firstSupply) =
        (.error (.invalidOperand "name" "$inc" "expected numbers"),
          ([("person", {
              name := "person"
              documents :=
                [[("_id", .ofInt 1), ("name", .string "Ada"),
                  ("age", .ofInt 36)]]
            })], firstSupply)) := by
  refine ⟨rfl, by decide, rfl⟩

end Store

end PolyQuery
