import PolyQuery.Document.Store
import PolyQuery.Proofs.Computation.Except
import PolyQuery.Proofs.Computation.Stateful

namespace PolyQuery

open Failing

/-!
# Answers of the document store

Fetching and counting leave the store as it is. Both filter the same documents;
what a fetch answers is a stretch of one list, in which all of them stand in
order and in the caller's form.
-/

namespace Document

theorem length_insertSorted
    (order : Document → Document → Ordering)
    (document : Document)
    (sorted : List Document) :
    (insertSorted order document sorted).length = sorted.length + 1 := by
  induction sorted with
  | nil =>
      rfl
  | cons last rest inductionHypothesis =>
      simp only [insertSorted]
      split
      · simp [inductionHypothesis]
      · rfl

/-- Sorting loses no document and repeats none. -/
theorem length_sort
    (order : Document → Document → Ordering)
    (documents : List Document) :
    (sort order documents).length = documents.length := by
  -- The fold starts from what is sorted already, so the induction is over any
  -- such start.
  have inserted :
      ∀ sorted : List Document,
        (documents.foldl
          (fun sorted document => insertSorted order document sorted)
          sorted).length =
          sorted.length + documents.length := by
    induction documents with
    | nil =>
        intro sorted
        rfl
    | cons document rest inductionHypothesis =>
        intro sorted
        rw [List.foldl_cons, inductionHypothesis, length_insertSorted,
          List.length_cons]
        omega
  rw [sort, List.length_reverse, inserted]
  exact Nat.zero_add _

end Document

/-- No more documents satisfy a filter than there are. -/
theorem Collection.length_matching_le
    {filter : Document}
    {documents found : List Document}
    (matched : matching filter documents = .ok found) :
    found.length ≤ documents.length := by
  induction documents generalizing found with
  | nil =>
      cases matched
      exact Nat.le_refl _
  | cons document rest inductionHypothesis =>
      obtain ⟨holds, -, continued⟩ := bind_eq_ok.mp matched
      obtain ⟨others, othersMatched, same⟩ := bind_eq_ok.mp continued
      have fewer := inductionHypothesis othersMatched
      cases same
      split
      · simpa using fewer
      · exact Nat.le_succ_of_le fewer

namespace Store

/-- The documents that a query filters, as they are stored. -/
def filtered
    (store : Store)
    (query : Query) :
    Except QueryError (List Document) := do
  DocumentCompiler.rejectRelational query
  let filter ← DocumentCompiler.filterDocument ObjectId.codec query
  Collection.matching filter (store.collection query.schema.storage).documents

/-- Filtered documents in the order that a query asks for. -/
def arranged
    (query : Query)
    (found : List Document) :
    List Document :=
  match (DocumentCompiler.window query).sort with
  | some spec =>
      Document.sort (Document.orderBy (SortKey.ofDocument spec)) found
  | none => found

/--
What a caller sees of a stored document: what the query projects,
under its own names.
-/
def presented
    (query : Query)
    (document : Document) :
    Document :=
  DocumentCompiler.fromStore ObjectId.codec query.schema
    (match (DocumentCompiler.window query).projection with
      | some fields => Collection.project fields document
      | none => document)

/-- All rows of a select, the window aside. -/
def listing
    (query : Query)
    (found : List Document) :
    List Document :=
  (arranged query found).map (presented query)

theorem length_listing
    (query : Query)
    (found : List Document) :
    (listing query found).length = found.length := by
  rw [listing, List.length_map, arranged]
  split
  · exact Document.length_sort _ found
  · rfl

/-- The stretch of some rows that a query answers. -/
def stretch
    {α : Type}
    (query : Query)
    (rows : List α) :
    List α :=
  match query.rowLimit with
  | some limit => (rows.drop (query.offset.getD 0)).take limit
  | none => rows.drop (query.offset.getD 0)

theorem map_stretch
    {α β : Type}
    (query : Query)
    (change : α → β)
    (rows : List α) :
    (stretch query rows).map change = stretch query (rows.map change) := by
  unfold stretch
  split <;> simp [List.map_drop, List.map_take]

theorem run_count
    (name : String)
    (filter : Document)
    (state : StoreState) :
    (run (.count name filter)).runFrom state =
      (((state.1.collection name).count filter).map fun counted =>
        ([], { affected := counted }), state) := by
  simp only [run, Stateful.runFrom_bind, Stateful.runFrom_get,
    Stateful.runFrom_ofExcept]
  cases (state.1.collection name).count filter <;> rfl

theorem run_find
    (name : String)
    (filter : Document)
    (window : Window)
    (state : StoreState) :
    (run (.find name filter window)).runFrom state =
      (((state.1.collection name).find filter window.projection window.sort
        window.skip
        window.limit).map fun documents => (documents, {}), state) := by
  simp only [run, Stateful.runFrom_bind, Stateful.runFrom_get,
    Stateful.runFrom_ofExcept]
  cases (state.1.collection name).find filter window.projection window.sort
    window.skip window.limit <;> rfl

/-- A count is the number of filtered documents, and changes nothing. -/
theorem count_eq
    (query : Query)
    (state : StoreState) :
    (count query).runFrom state =
      ((filtered state.1 query).map List.length, state) := by
  simp only [count, filtered, DocumentCompiler.compileCount]
  cases DocumentCompiler.rejectRelational query with
  | error cause =>
      rfl
  | ok =>
      cases DocumentCompiler.filterDocument ObjectId.codec query with
      | error cause =>
          rfl
      | ok filter =>
          change (run (.count query.schema.storage filter) >>= _).runFrom
              state =
            ((Collection.matching filter _).map List.length, state)
          rw [Stateful.runFrom_bind, run_count, Collection.count]
          cases Collection.matching filter _ <;> rfl

/--
A fetch answers a stretch of the listing of the filtered documents,
and changes nothing.
-/
theorem fetch_eq
    {query : Query}
    (isSelect : query.kind = .select)
    (state : StoreState) :
    (fetch query).runFrom state =
      ((filtered state.1 query).map fun found =>
        stretch query (listing query found),
        state) := by
  simp only [fetch, filtered, DocumentCompiler.compile, isSelect]
  cases DocumentCompiler.rejectRelational query with
  | error cause =>
      rfl
  | ok =>
      cases DocumentCompiler.filterDocument ObjectId.codec query with
      | error cause =>
          rfl
      | ok filter =>
          change
            (run (.find query.schema.storage filter
                (DocumentCompiler.window query)) >>= fun answered =>
              pure (answered.1.map _)).runFrom state =
            ((Collection.matching filter _).map _, state)
          rw [Stateful.runFrom_bind, run_find, Collection.find]
          cases Collection.matching filter _ with
          | error cause =>
              rfl
          | ok found =>
              change
                (Except.ok
                  ((match (DocumentCompiler.window query).projection with
                  | some fields =>
                      (stretch query (arranged query found)).map
                        (Collection.project fields)
                  | none => stretch query (arranged query found)).map
                    (DocumentCompiler.fromStore ObjectId.codec query.schema)),
                    state) =
                (Except.ok (stretch query (listing query found)), state)
              rw [listing, ← map_stretch]
              unfold presented
              cases (DocumentCompiler.window query).projection <;> simp

end Store

end PolyQuery
