import PolyQuery.Proofs.Document.AffectedDocuments

namespace PolyQuery

open Failing

/-!
# Exact deletes

A delete that succeeds removes what its filter holds of, all of it or the first
document only, and leaves the rest in its order. Its filter is evaluated on one
document after the other until there is nothing left to decide, so whether it
fails depends on the documents that are looked at. A delete that fails leaves
nothing at all: the documents were taken out before the filter was evaluated.
-/

/-- The items that pass a test, or the first of them only. -/
def picked
    {α : Type}
    (many : Bool)
    (passes : α → Bool)
    (items : List α) :
    List α :=
  if many then items.filter passes else (items.find? passes).toList

/--
The items that are left when those that pass a test are taken away,
or the first of them.
-/
def unpicked
    {α : Type}
    (many : Bool)
    (passes : α → Bool)
    (items : List α) :
    List α :=
  if many then items.filter fun item => !passes item else items.eraseP passes

section Picking

variable
  {α : Type}
  {many : Bool}
  {passes : α → Bool}
  {item : α}
  (rest : List α)

theorem picked_cons_of_failing
    (fails : passes item = false) :
    picked many passes (item :: rest) = picked many passes rest := by
  cases many <;> simp [picked, fails]

theorem picked_cons_of_passing
    (isPassing : passes item = true) :
    picked many passes (item :: rest) =
      item :: if many then picked many passes rest else [] := by
  cases many <;> simp [picked, isPassing]

theorem of_mem_picked
    {items : List α}
    (member : item ∈ picked many passes items) :
    item ∈ items ∧ passes item = true := by
  cases many with
  | true =>
      exact List.mem_filter.mp member
  | false =>
      have isFirst := Option.mem_toList.mp member
      exact ⟨List.mem_of_find?_eq_some isFirst, List.find?_some isFirst⟩

theorem unpicked_cons_of_failing
    (fails : passes item = false) :
    unpicked many passes (item :: rest) =
      item :: unpicked many passes rest := by
  cases many <;> simp [unpicked, fails]

theorem unpicked_cons_of_passing
    (isPassing : passes item = true) :
    unpicked many passes (item :: rest) =
      if many then unpicked many passes rest else rest := by
  cases many <;> simp [unpicked, isPassing]

/-- Every item is picked or left. -/
theorem length_picked_add_length_unpicked
    (items : List α) :
    (picked many passes items).length + (unpicked many passes items).length =
      items.length := by
  induction items with
  | nil =>
      cases many <;> rfl
  | cons item rest inductionHypothesis =>
      cases passed : passes item with
      | false =>
          rw [picked_cons_of_failing rest passed,
            unpicked_cons_of_failing rest passed]
          simp only [List.length_cons]
          omega
      | true =>
          rw [picked_cons_of_passing rest passed,
            unpicked_cons_of_passing rest passed]
          cases many with
          | false =>
              simp [Nat.add_comm]
          | true =>
              simp only [if_true, List.length_cons]
              omega

end Picking

namespace Collection

/-- Whether a filter holds of a document; where it fails it does not. -/
def meets
    (filter : Document)
    (document : Document) :
    Bool :=
  match document.matches filter with
  | .ok holds => holds
  | .error _ => false

theorem meets_of_judgedBy
    {filter document : Document}
    {holds : Bool}
    (judged : JudgedBy filter document holds) :
    meets filter document = holds := by
  rw [meets, judged]

/--
The documents that a filter is evaluated on: all, or those up to the
first that it holds of.
-/
def examined
    (filter : Document)
    (many : Bool) :
    List Document →
    List Document
  | [] => []
  | document :: rest =>
      if meets filter document && !many then
        [document]
      else
        document :: examined filter many rest

/-- The cause for which a filter fails on a document, if it does. -/
def failure?
    (filter : Document)
    (document : Document) :
    Option QueryError :=
  match document.matches filter with
  | .ok _ => none
  | .error cause => some cause

theorem failure?_eq_none_iff
    {filter document : Document} :
    failure? filter document = none ↔
      ∃ holds, JudgedBy filter document holds := by
  unfold failure? JudgedBy
  cases document.matches filter <;> simp

/--
The cause for which a filter fails on the first of the examined
documents that it fails on.
-/
def firstFailure?
    (filter : Document)
    (many : Bool)
    (documents : List Document) :
    Option QueryError :=
  (examined filter many documents).findSome? (failure? filter)

section Steps

variable
  {filter document : Document}
  {many : Bool}
  {rest : List Document}

theorem firstFailure?_cons_of_error
    {cause : QueryError}
    (fails : document.matches filter = .error cause) :
    firstFailure? filter many (document :: rest) = some cause := by
  simp [firstFailure?, examined, meets, failure?, fails]

theorem firstFailure?_cons_of_ok
    {holds : Bool}
    (judged : JudgedBy filter document holds) :
    firstFailure? filter many (document :: rest) =
      if holds && !many then none else firstFailure? filter many rest := by
  unfold JudgedBy at judged
  cases holds <;> cases many <;>
    simp [firstFailure?, examined, meets, failure?, judged]

end Steps

/--
A delete fails with the first examined document, or removes what
its filter holds of.
-/
theorem deleteMatching_eq
    (filter : Document)
    (many : Bool)
    (documents : List Document) :
    deleteMatching filter many documents =
      match firstFailure? filter many documents with
      | some cause => .error cause
      | none =>
          .ok
            (unpicked many (meets filter) documents,
              (picked many (meets filter) documents).length) := by
  induction documents with
  | nil =>
      cases many <;> rfl
  | cons document rest inductionHypothesis =>
      unfold deleteMatching
      cases evaluated : document.matches filter with
      | error cause =>
          rw [firstFailure?_cons_of_error evaluated]
          rfl
      | ok holds =>
          have decided : meets filter document = holds :=
            meets_of_judgedBy evaluated
          rw [firstFailure?_cons_of_ok evaluated, inductionHypothesis]
          cases holds with
          | false =>
              rw [picked_cons_of_failing rest decided,
                unpicked_cons_of_failing rest decided]
              cases firstFailure? filter many rest <;> rfl
          | true =>
              rw [picked_cons_of_passing rest decided,
                unpicked_cons_of_passing rest decided]
              cases many with
              | false =>
                  rfl
              | true =>
                  cases firstFailure? filter true rest <;> rfl

/-- There is nothing to fail on without documents. -/
theorem ne_nil_of_firstFailure?
    {filter : Document}
    {many : Bool}
    {documents : List Document}
    {cause : QueryError}
    (fails : firstFailure? filter many documents = some cause) :
    documents ≠ [] := by
  rintro rfl
  cases fails

/--
A delete is exact, or it loses everything.

It fails exactly if its filter does on a document that is looked at, and then
no document is left of a collection that had some. Otherwise the documents that
the filter holds of are gone, all of them or the first, the others stay in their
order, and the answer is the number of those that are gone.
-/
theorem delete_exact_or_loses_all
    (filter : Document)
    (many : Bool)
    (collection : Collection)
    (supply : Supply) :
    ∃ result remaining,
      (delete filter many).runFrom (collection, supply) =
          (result, ({ collection with documents := remaining }, supply)) ∧
        (∀ removed, result = .ok removed →
          remaining = unpicked many (meets filter) collection.documents ∧
            removed = (picked many (meets filter) collection.documents).length ∧
              removed + remaining.length = collection.documents.length ∧
                ∀ document ∈ examined filter many collection.documents,
                  ∃ holds, JudgedBy filter document holds) ∧
        ∀ cause, result = .error cause →
          firstFailure? filter many collection.documents = some cause ∧
            collection.documents ≠ [] ∧ remaining = [] := by
  simp only [delete, Stateful.runFrom_bind, Stateful.runFrom_get,
    Stateful.runFrom_set, Stateful.runFrom_ofExcept, deleteMatching_eq]
  cases failed : firstFailure? filter many collection.documents with
  | some cause =>
      refine ⟨_, _, rfl, by rintro _ ⟨⟩, ?_⟩
      intro _ same
      cases same
      exact ⟨rfl, ne_nil_of_firstFailure? failed, rfl⟩
  | none =>
      refine ⟨_, _, rfl, ?_, by rintro _ ⟨⟩⟩
      intro _ same
      cases same
      refine ⟨rfl, rfl, length_picked_add_length_unpicked _, ?_⟩
      intro document member
      exact failure?_eq_none_iff.mp
        (List.findSome?_eq_none_iff.mp failed document member)

/-- Two persons of different age. -/
def twoPersons : Collection :=
  {
    name := "person"
    documents := [
      [("_id", .ofInt 1), ("age", .ofInt 36)],
      [("_id", .ofInt 2), ("age", .ofInt 41)]]
  }

/--
An age, and an operator that no filter has, which is looked
at for that age only.
-/
def strayOperator : Document :=
  [("age", .ofInt 41), ("name", .object [("$near", .ofInt 1)])]

/--
A delete whose filter is decided on the first document and fails on the second
leaves neither of them.
-/
theorem failing_delete_loses_all :
    (delete strayOperator false).runFrom (twoPersons, Store.firstSupply) =
      (.error (.invalidFilterOperator "$near"),
        ({ name := "person" }, Store.firstSupply)) :=
  rfl

end Collection

end PolyQuery
