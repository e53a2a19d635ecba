import PolyQuery.Proofs.Document.BuiltStores
import PolyQuery.Proofs.Document.InterruptedWrites

namespace PolyQuery

open Failing

/-!
# Affected documents

An update or a delete goes through the documents of a collection in order and
judges each of them by its filter. It affects those that the filter holds of, or
the first of them only. What becomes of an affected document depends on the
operation; every other document stays in its place as it was, and an upsert that
affects none adds one document behind them.
-/

namespace Collection

/--
Some documents of a list are affected, those judged so or the first of them.

The affected documents come first, then all of them with what is generated next,
before and after. An affected document is replaced by what becomes of it, which
may draw from the supply; the others stay.
-/
inductive Affected
    (judged : Document → Bool → Prop)
    (fate : Document → Supply → List Document → Supply → Prop)
    (many : Bool) :
    List Document →
    List Document →
    Supply →
    List Document →
    Supply →
    Prop where
  | none
      {supply : Supply} :
      Affected judged fate many [] [] supply [] supply
  | passedOver
      {document : Document}
      {touched rest after : List Document}
      {supply left : Supply}
      (spared : judged document false)
      (others : Affected judged fate many touched rest supply after left) :
      Affected judged fate many touched (document :: rest) supply
        (document :: after) left
  | taken
      {document : Document}
      {outcome touched rest after : List Document}
      {supply drawn left : Supply}
      (all : many = true)
      (chosen : judged document true)
      (becomes : fate document supply outcome drawn)
      (others : Affected judged fate many touched rest drawn after left) :
      Affected judged fate many (document :: touched) (document :: rest) supply
        (outcome ++ after) left
  | only
      {document : Document}
      {outcome rest : List Document}
      {supply left : Supply}
      (one : many = false)
      (chosen : judged document true)
      (becomes : fate document supply outcome left) :
      Affected judged fate many [document] (document :: rest) supply
        (outcome ++ rest) left

namespace Affected

variable
  {judged judgedToo : Document → Bool → Prop}
  {fate : Document → Supply → List Document → Supply → Prop}
  {many : Bool}
  {touched before after : List Document}
  {supply left : Supply}

theorem imp
    (affected : Affected judged fate many touched before supply after left)
    (implied :
      ∀ document ∈ before, ∀ holds,
        judged document holds → judgedToo document holds) :
    Affected judgedToo fate many touched before supply after left := by
  induction affected with
  | none =>
      exact .none
  | passedOver spared _ inductionHypothesis =>
      obtain ⟨headImplied, restImplied⟩ := List.forall_mem_cons.mp implied
      exact .passedOver (headImplied _ spared) (inductionHypothesis restImplied)
  | taken all chosen becomes _ inductionHypothesis =>
      obtain ⟨headImplied, restImplied⟩ := List.forall_mem_cons.mp implied
      exact .taken all (headImplied _ chosen) becomes
        (inductionHypothesis restImplied)
  | only one chosen becomes =>
      exact .only one (implied _ List.mem_cons_self _ chosen) becomes

/--
Documents are affected as a test says: all that pass it, or the
first one that does.
-/
theorem touched_eq
    {meets : Document → Bool}
    (affected :
      Affected (fun document holds => meets document = holds) fate many touched
        before supply after left) :
    touched =
      if many then before.filter meets else (before.find? meets).toList := by
  induction affected with
  | none =>
      cases many <;> rfl
  | passedOver spared _ inductionHypothesis =>
      rw [inductionHypothesis, List.filter_cons, List.find?_cons, spared]
      rfl
  | taken all chosen _ _ inductionHypothesis =>
      rw [inductionHypothesis, all, List.filter_cons, chosen]
      rfl
  | only one chosen _ =>
      rw [one, List.find?_cons, chosen]
      rfl

theorem of_none
    (affected : Affected judged fate many touched before supply after left)
    (noneTouched : touched = []) :
    after = before ∧
      left = supply ∧
      ∀ document ∈ before, judged document false := by
  induction affected with
  | none =>
      simp
  | passedOver spared _ inductionHypothesis =>
      obtain ⟨unchanged, nothingDrawn, restSpared⟩ :=
        inductionHypothesis noneTouched
      exact ⟨by rw [unchanged], nothingDrawn,
        List.forall_mem_cons.mpr ⟨spared, restSpared⟩⟩
  | taken =>
      cases noneTouched
  | only =>
      cases noneTouched

/-- Where one document only is affected, it is the first of those judged so. -/
theorem of_first
    (affected : Affected judged fate false touched before supply after left)
    (someTouched : touched ≠ []) :
    ∃ front document rest outcome,
      before = front ++ document :: rest ∧
        after = front ++ (outcome ++ rest) ∧
          (∀ earlier ∈ front, judged earlier false) ∧
            judged document true ∧
              fate document supply outcome left := by
  induction affected with
  | none =>
      exact absurd rfl someTouched
  | @passedOver first _ _ _ _ _ spared _ inductionHypothesis =>
      obtain ⟨front, document, rest, outcome, rfl, rfl, frontSpared, chosen,
          becomes⟩ :=
        inductionHypothesis someTouched
      exact ⟨first :: front, document, rest, outcome, rfl, rfl,
        List.forall_mem_cons.mpr ⟨spared, frontSpared⟩, chosen, becomes⟩
  | taken all =>
      cases all
  | @only document outcome rest _ _ _ chosen becomes =>
      exact ⟨[], document, rest, outcome, rfl, rfl, by simp, chosen, becomes⟩

/-- What becomes of some affected document is there afterwards. -/
theorem exists_outcome
    (affected : Affected judged fate many touched before supply after left)
    (someTouched : touched ≠ []) :
    ∃ document ∈ before, ∃ reached outcome drawn,
      judged document true ∧ fate document reached outcome drawn ∧
        outcome ⊆ after := by
  induction affected with
  | none =>
      exact absurd rfl someTouched
  | passedOver _ _ inductionHypothesis =>
      obtain ⟨document, member, reached, outcome, drawn, chosen, becomes,
          included⟩ :=
        inductionHypothesis someTouched
      exact ⟨document, List.mem_cons_of_mem _ member, reached, outcome, drawn,
        chosen, becomes, List.subset_cons_of_subset _ included⟩
  | taken _ chosen becomes _ _ =>
      exact ⟨_, List.mem_cons_self, _, _, _, chosen, becomes,
        List.subset_append_left _ _⟩
  | only _ chosen becomes =>
      exact ⟨_, List.mem_cons_self, _, _, _, chosen, becomes,
        List.subset_append_left _ _⟩

end Affected

/-- A filter holds of a document, or does not. -/
def JudgedBy
    (filter : Document)
    (document : Document)
    (holds : Bool) :
    Prop :=
  document.matches filter = .ok holds

/-- An update makes one document of another. -/
def ChangedBy
    (changes : Document)
    (document : Document)
    (supply : Supply)
    (outcome : List Document)
    (left : Supply) :
    Prop :=
  ∃ changed,
    outcome = [changed] ∧
      applyTo false changes document supply = (.ok (), changed, left)

/-- A delete leaves nothing of a document, and draws nothing. -/
def Removed
    (_document : Document)
    (supply : Supply)
    (outcome : List Document)
    (left : Supply) :
    Prop :=
  outcome = [] ∧ left = supply

/--
An update that succeeds affects the documents that its filter holds
of, and counts them.
-/
theorem affected_of_updateMatching
    {filter changes : Document}
    {many : Bool}
    {documents after : List Document}
    {tally total : Tally}
    {supply left : Supply}
    (ran :
      updateMatching filter changes many documents tally supply =
        (.ok total, after, left)) :
    ∃ touched,
      total.matched = tally.matched + touched.length ∧
        Affected (JudgedBy filter) (ChangedBy changes) many touched documents
          supply after left := by
  induction documents generalizing tally supply after with
  | nil =>
      cases ran
      exact ⟨[], rfl, .none⟩
  | cons document rest inductionHypothesis =>
      unfold updateMatching at ran
      split at ran
      next =>
        cases ran
      next spared =>
        cases continued :
            updateMatching filter changes many rest tally supply with
        | mk result further =>
            obtain ⟨others, drawn⟩ := further
            rw [continued] at ran
            cases ran
            obtain ⟨touched, counted, affected⟩ := inductionHypothesis continued
            exact ⟨touched, counted, .passedOver spared affected⟩
      next chosen =>
        split at ran
        next =>
          cases ran
        next changed drawn applied =>
          have becomes : ChangedBy changes document supply [changed] drawn :=
            ⟨changed, rfl, applied⟩
          cases many with
          | false =>
              cases ran
              exact ⟨[document], rfl, .only rfl chosen becomes⟩
          | true =>
              rw [if_pos rfl] at ran
              generalize
                (if !(Json.object changed).same (.object document) then
                    1
                  else
                    0) = increment
                  at ran
              cases continued :
                  updateMatching filter changes true rest
                    ⟨tally.matched + 1, tally.modified + increment⟩ drawn with
              | mk result further =>
                  obtain ⟨others, further⟩ := further
                  rw [continued] at ran
                  cases ran
                  obtain ⟨touched, counted, affected⟩ :=
                    inductionHypothesis continued
                  refine ⟨document :: touched, ?_,
                    .taken rfl chosen becomes affected⟩
                  rw [counted, List.length_cons, Nat.add_assoc, Nat.add_comm 1]

/--
A delete that succeeds removes the documents that its filter holds
of, and counts them.
-/
theorem affected_of_deleteMatching
    {filter : Document}
    {many : Bool}
    {documents kept : List Document}
    {removed : Nat}
    (deleted : deleteMatching filter many documents = .ok (kept, removed))
    (supply : Supply) :
    ∃ touched,
      removed = touched.length ∧
        Affected (JudgedBy filter) Removed many touched documents supply kept
          supply := by
  induction documents generalizing kept removed with
  | nil =>
      cases deleted
      exact ⟨[], rfl, .none⟩
  | cons document rest inductionHypothesis =>
      obtain ⟨holds, judged, continued⟩ := bind_eq_ok.mp deleted
      have gone : Removed document supply [] supply := ⟨rfl, rfl⟩
      cases holds with
      | false =>
          obtain ⟨⟨others, count⟩, restDeleted, same⟩ := bind_eq_ok.mp continued
          cases same
          obtain ⟨touched, counted, affected⟩ := inductionHypothesis restDeleted
          exact ⟨touched, counted, .passedOver judged affected⟩
      | true =>
          cases many with
          | false =>
              cases continued
              have onlyThis :
                  Affected (JudgedBy filter) Removed false [document] _ supply
                    ([] ++ rest) supply :=
                .only rfl judged gone
              exact ⟨[document], rfl, onlyThis⟩
          | true =>
              obtain ⟨⟨others, count⟩, restDeleted, same⟩ :=
                bind_eq_ok.mp continued
              cases same
              obtain ⟨touched, counted, affected⟩ :=
                inductionHypothesis restDeleted
              have thisToo :
                  Affected (JudgedBy filter) Removed true (document :: touched)
                    _ supply ([] ++ kept) supply :=
                .taken rfl judged gone affected
              exact ⟨document :: touched, congrArg Nat.succ counted, thisToo⟩

/--
Changes that lead elsewhere leave a key the value that it had, whether they
succeed or fail.
-/
theorem get?_applyTo
    {inserting : Bool}
    {changes document changed : Document}
    {supply left : Supply}
    {result : Except QueryError Unit}
    {key : String}
    (elsewhere : Update.leaves key changes = true)
    (once : (document.under key).length ≤ 1)
    (applied :
      applyTo inserting changes document supply = (result, changed, left)) :
    changed.get? key = document.get? key := by
  have same := Update.under_apply_elsewhere elsewhere inserting document supply
  have isChanged :
      ((Update.apply inserting changes).runFrom (document, supply)).2.1 =
        changed :=
    congrArg (fun ran => ran.2.1) applied
  rw [isChanged] at same
  exact Entries.get?_of_under_perm same once

/--
A document is what an upsert inserts: what its changes make of the
equalities of its filter.
-/
def UpsertedBy
    (filter changes : Document)
    (supply : Supply)
    (new : Document)
    (left : Supply) :
    Prop :=
  ∃ built drawn,
    applyTo true changes (upsertSeed filter) supply = (.ok (), built, drawn) ∧
      new = withIdFirst (chosenId built drawn).1 built ∧
        left = (chosenId built drawn).2

/--
How an update that succeeds ends: with the documents that it
changed, or with a new one.
-/
inductive Settled
    (filter changes : Document)
    (many upserting : Bool)
    (before : List Document)
    (supply : Supply) :
    Outcome →
    List Document →
    Supply →
    Prop where
  | updated
      {outcome : Outcome}
      {touched after : List Document}
      {left : Supply}
      (affected :
        Affected (JudgedBy filter) (ChangedBy changes) many touched before
          supply after left)
      (counted : outcome.matched = touched.length)
      (noneInserted : outcome.upsertedId = none)
      (enough : touched = [] → upserting = false) :
      Settled filter changes many upserting before supply outcome after left
  | inserted
      {outcome : Outcome}
      {new : Document}
      {left : Supply}
      (spared : ∀ document ∈ before, JudgedBy filter document false)
      (counted : outcome.matched = 0)
      (told : outcome.upsertedId.isSome = true)
      (asked : upserting = true)
      (upserted : UpsertedBy filter changes supply new left) :
      Settled filter changes many upserting before supply outcome
        (before ++ [new]) left

/--
An update that is not to insert changes what its filter holds of, be it nothing.
-/
theorem Settled.affected
    {filter changes : Document}
    {many : Bool}
    {before after : List Document}
    {supply left : Supply}
    {outcome : Outcome}
    (settled :
      Settled filter changes many false before supply outcome after left) :
    ∃ touched,
      outcome.matched = touched.length ∧
        Affected (JudgedBy filter) (ChangedBy changes) many touched before
          supply after left := by
  cases settled with
  | updated affected counted =>
      exact ⟨_, counted, affected⟩
  | inserted _ _ _ asked =>
      cases asked

theorem upsert_eq_ok
    {filter changes : Document}
    {collection after : Collection}
    {supply left : Supply}
    {told : String}
    (ran :
      (upsert filter changes).runFrom (collection, supply) =
        (.ok told, (after, left))) :
    ∃ new,
      UpsertedBy filter changes supply new left ∧
        after.documents = collection.documents ++ [new] := by
  simp only [upsert, Stateful.runFrom_bind, Stateful.runFrom_get,
    Stateful.runFrom_set, Stateful.runFrom_ofExcept] at ran
  cases applied : applyTo true changes (upsertSeed filter) supply with
  | mk result further =>
      obtain ⟨built, drawn⟩ := further
      rw [applied] at ran
      cases result with
      | error cause =>
          cases ran
      | ok =>
          simp only [insert_runFrom] at ran
          split at ran
          next inserted =>
            split at inserted
            · cases inserted
            · cases inserted
              cases ran
              exact ⟨_, ⟨built, drawn, applied, rfl, rfl⟩, rfl⟩
          next =>
            cases ran

/--
An update that succeeds changes what its filter holds of, or
inserts if that is nothing.
-/
theorem settled_of_update
    {filter changes : Document}
    {many upserting : Bool}
    {collection after : Collection}
    {supply left : Supply}
    {outcome : Outcome}
    (ran :
      (update filter changes many upserting).runFrom (collection, supply) =
        (.ok outcome, (after, left))) :
    Settled filter changes many upserting collection.documents supply outcome
      after.documents left := by
  simp only [update, Stateful.runFrom_bind, Stateful.runFrom_get,
    Stateful.runFrom_set, Stateful.runFrom_ofExcept] at ran
  cases matched :
      updateMatching filter changes many collection.documents {} supply with
  | mk result further =>
      obtain ⟨documents, drawn⟩ := further
      rw [matched] at ran
      cases result with
      | error cause =>
          cases ran
      | ok tally =>
          obtain ⟨touched, counted, affected⟩ :=
            affected_of_updateMatching matched
          rw [Nat.zero_add] at counted
          dsimp only at ran
          split at ran
          next unmatched =>
            rw [Bool.and_eq_true, decide_eq_true_eq, counted,
              List.length_eq_zero_iff]
              at unmatched
            obtain ⟨noneTouched, isUpsert⟩ := unmatched
            obtain ⟨unchanged, nothingDrawn, spared⟩ :=
              affected.of_none noneTouched
            subst unchanged nothingDrawn
            obtain ⟨told, ⟨there, rest⟩, upserted, answered⟩ :=
              Stateful.runFrom_bind_eq_ok ran
            cases answered
            obtain ⟨new, isUpserted, isAfter⟩ := upsert_eq_ok upserted
            rw [isAfter]
            have noneCounted : tally.matched = 0 := by
              rw [counted, noneTouched, List.length_nil]
            exact .inserted spared noneCounted rfl isUpsert isUpserted
          next matchedSome =>
            cases ran
            refine .updated affected counted rfl fun noneTouched => ?_
            rw [Bool.and_eq_true, decide_eq_true_eq, not_and, Bool.not_eq_true]
              at matchedSome
            exact matchedSome (by rw [counted, noneTouched, List.length_nil])

end Collection

namespace Store

/-- A write that succeeds is the run of an operation that does. -/
theorem execute_eq_ok
    {query : Query}
    (isWrite : query.kind ≠ .select)
    {state after : StoreState}
    {outcome : Outcome}
    (executed : (execute query).runFrom state = (.ok outcome, after)) :
    ∃ operation answered,
      DocumentCompiler.compile ObjectId.codec query = .ok operation ∧
        (run operation).runFrom state = (.ok (answered, outcome), after) := by
  rw [execute_runFrom isWrite] at executed
  cases compiled : DocumentCompiler.compile ObjectId.codec query with
  | error cause =>
      rw [compiled] at executed
      cases executed
  | ok operation =>
      rw [compiled] at executed
      dsimp only at executed
      cases ran : (run operation).runFrom state with
      | mk result reached =>
          rw [ran] at executed
          cases result with
          | error cause =>
              cases executed
          | ok answer =>
              cases executed
              exact ⟨operation, answer.1, rfl, ran⟩

theorem onPresent_runFrom
    {α : Type}
    (name : String)
    (absent : α)
    (action : Stateful CollectionState α)
    (state : StoreState) :
    (onPresent name absent action).runFrom state =
      if state.1.contains name then
        (onCollection name action).runFrom state
      else
        (.ok absent, state) := by
  simp only [onPresent, Stateful.runFrom_bind, Stateful.runFrom_get]
  split <;> rfl

theorem documents_of_absent
    {store : Store}
    {name : String}
    (absent : ¬store.contains name = true) :
    (store.collection name).documents = [] := by
  have noneStored : store.get? name = none := by
    rw [Entries.get?_eq_none_iff, ← Entries.contains_iff_mem_keys]
    exact absent
  simp [collection, noneStored]

section Runs

variable
  {name : String}
  {state after : StoreState}
  {answered : List Document}
  {outcome : Outcome}

/--
An update that succeeds settles the documents of its collection
and touches no other.
-/
theorem settled_of_run_update
    {filter changes : Document}
    {many upserting : Bool}
    (ran :
      (run (.update name filter changes many upserting)).runFrom state =
        (.ok (answered, outcome), after)) :
    Collection.Settled filter changes many upserting
        (state.1.collection name).documents state.2
        outcome (after.1.collection name).documents after.2 ∧
      ∀ other, other ≠ name → after.1.get? other = state.1.get? other := by
  have onPlace :
      ∀ {result reached},
        (onCollection name
          (Collection.update filter changes many upserting)).runFrom state =
            (.ok result, reached) →
          Collection.Settled filter changes many upserting
              (state.1.collection name).documents
              state.2 result (reached.1.collection name).documents reached.2 ∧
            ∀ other,
              other ≠ name → reached.1.get? other = state.1.get? other := by
    intro result reached updated
    refine ⟨?_, fun _ => get?_onCollection_of_ne updated⟩
    obtain ⟨changed, left, ranThere, rfl⟩ := exists_of_onCollection updated
    dsimp only
    rw [collection_insert]
    exact Collection.settled_of_update ranThere
  cases upserting with
  | true =>
      obtain ⟨result, updated, same⟩ := Stateful.runFrom_bind_pure_eq_ok.mp ran
      cases same
      exact onPlace updated
  | false =>
      obtain ⟨result, updated, same⟩ := Stateful.runFrom_bind_pure_eq_ok.mp ran
      cases same
      rw [onPresent_runFrom] at updated
      split at updated
      next =>
        exact onPlace updated
      next absent =>
        cases updated
        rw [documents_of_absent absent]
        exact ⟨.updated .none rfl rfl fun _ => rfl, fun _ _ => rfl⟩

/--
A delete that succeeds removes documents of its collection and touches no other.
-/
theorem affected_of_run_delete
    {filter : Document}
    {many : Bool}
    (ran :
      (run (.delete name filter many)).runFrom state =
        (.ok (answered, outcome), after)) :
    (∃ touched,
      outcome.affected = touched.length ∧
        Collection.Affected (Collection.JudgedBy filter) Collection.Removed many
          touched (state.1.collection name).documents state.2
          (after.1.collection name).documents after.2) ∧
      ∀ other, other ≠ name → after.1.get? other = state.1.get? other := by
  obtain ⟨removed, deleted, same⟩ := Stateful.runFrom_bind_pure_eq_ok.mp ran
  cases same
  rw [onPresent_runFrom] at deleted
  split at deleted
  next =>
    refine ⟨?_, fun _ => get?_onCollection_of_ne deleted⟩
    obtain ⟨changed, left, ranThere, rfl⟩ := exists_of_onCollection deleted
    dsimp only
    rw [collection_insert]
    simp only [Collection.delete, Stateful.runFrom_bind, Stateful.runFrom_get,
      Stateful.runFrom_set, Stateful.runFrom_ofExcept] at ranThere
    cases matched :
        Collection.deleteMatching filter many
          (state.1.collection name).documents with
    | error cause =>
        rw [matched] at ranThere
        cases ranThere
    | ok kept =>
        rw [matched] at ranThere
        cases ranThere
        exact Collection.affected_of_deleteMatching matched state.2
  next absent =>
    cases deleted
    rw [documents_of_absent absent]
    exact ⟨⟨[], rfl, .none⟩, fun _ _ => rfl⟩

end Runs

end Store

end PolyQuery
