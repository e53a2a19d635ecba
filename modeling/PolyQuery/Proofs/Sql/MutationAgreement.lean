import PolyQuery.Proofs.Document.PlainUpdates
import PolyQuery.Proofs.Document.ProvidedValues
import PolyQuery.Proofs.Query.FullTable
import PolyQuery.Proofs.Sql.DocumentAgreement

namespace PolyQuery

open Failing

/-!
# Rows that both backends write

A relational update or delete touches every row that its restriction holds of.
The document operation of the same query goes through the documents of the
collection, judges each as the restriction does, and touches all of them that
pass, or the first one only if the query asks for a single row.
-/

namespace Update

/-- An update document that does nothing but set values. -/
def OnlySets
    (changes : Document) :
    Prop :=
  ∀ entry ∈ changes, ∃ paths, entry = ("$set", .object paths)

theorem OnlySets.isPlain
    {changes : Document}
    (onlySets : OnlySets changes) :
    IsPlain changes := by
  intro entry member
  obtain ⟨paths, rfl⟩ := onlySets entry member
  exact .inl rfl

theorem OnlySets.isShaped
    {changes : Document}
    (onlySets : OnlySets changes) :
    IsShaped changes := by
  intro entry member
  obtain ⟨paths, rfl⟩ := onlySets entry member
  exact ⟨paths, rfl⟩

end Update

namespace Collection

/-- Changes that only set values can be applied to every document. -/
theorem exists_applyTo_of_onlySets
    {changes : Document}
    (onlySets : Update.OnlySets changes)
    (inserting : Bool)
    (document : Document)
    (supply : Supply) :
    ∃ changed,
      applyTo inserting changes document supply = (.ok (), changed, supply) :=
  ⟨_,
    Update.runFrom_apply_plain onlySets.isPlain onlySets.isShaped inserting
      document supply⟩

section Total

variable
  {filter changes : Document}
  {documents : List Document}
  (judged : ∀ document ∈ documents, ∃ holds, JudgedBy filter document holds)
  (many : Bool)

include judged

/--
An update ends if its filter decides of every document and its
changes can be applied.
-/
theorem exists_updateMatching
    (applies :
      ∀ document supply,
        ∃ changed left,
          applyTo false changes document supply = (.ok (), changed, left))
    (tally : Tally)
    (supply : Supply) :
    ∃ total after left,
      updateMatching filter changes many documents tally supply =
        (.ok total, after, left) := by
  induction documents generalizing tally supply with
  | nil =>
      exact ⟨tally, [], supply, rfl⟩
  | cons document rest inductionHypothesis =>
      obtain ⟨⟨holds, isJudged⟩, restJudged⟩ := List.forall_mem_cons.mp judged
      unfold updateMatching
      rw [isJudged]
      cases holds with
      | false =>
          obtain ⟨total, after, left, ran⟩ :=
            inductionHypothesis restJudged tally supply
          exact ⟨total, document :: after, left, by simp only [ran]⟩
      | true =>
          obtain ⟨changed, drawn, applied⟩ := applies document supply
          simp only [applied]
          cases many with
          | false =>
              exact ⟨_, _, _, rfl⟩
          | true =>
              generalize
                (if !(Json.object changed).same (.object document) then
                    1
                  else
                    0) = increment
              obtain ⟨total, after, left, ran⟩ :=
                inductionHypothesis restJudged
                  ⟨tally.matched + 1, tally.modified + increment⟩ drawn
              exact ⟨total, changed :: after, left, by simp only [ran, if_true]⟩

/-- A delete ends if its filter decides of every document. -/
theorem exists_deleteMatching :
    ∃ kept, deleteMatching filter many documents = .ok kept := by
  induction documents with
  | nil =>
      exact ⟨_, rfl⟩
  | cons document rest inductionHypothesis =>
      obtain ⟨⟨holds, isJudged⟩, restJudged⟩ := List.forall_mem_cons.mp judged
      obtain ⟨kept, restDeleted⟩ := inductionHypothesis restJudged
      rw [JudgedBy] at isJudged
      cases holds with
      | false =>
          exact ⟨_,
            bind_eq_ok.mpr
              ⟨_, isJudged, bind_eq_ok.mpr ⟨kept, restDeleted, rfl⟩⟩⟩
      | true =>
          cases many with
          | false =>
              exact ⟨_, bind_eq_ok.mpr ⟨_, isJudged, rfl⟩⟩
          | true =>
              exact ⟨_,
                bind_eq_ok.mpr
                  ⟨_, isJudged, bind_eq_ok.mpr ⟨kept, restDeleted, rfl⟩⟩⟩

end Total

end Collection

namespace DocumentCompiler

section Rows

variable
  {codec : IdentifierCodec}
  {schema : Schema}
  {row : Document}
  (plain : ∀ name ∈ row.keys, Operator.isMarked name = false)

include plain

theorem operators_of_plain
    {draft result : UpdateDraft}
    (added : addEntries codec schema row draft = .ok result) :
    result.operators = draft.operators := by
  induction row generalizing draft with
  | nil =>
      cases added
      rfl
  | cons entry rest inductionHypothesis =>
      obtain ⟨extended, isExtended, restAdded⟩ := bind_eq_ok.mp added
      obtain ⟨headPlain, restPlain⟩ := List.forall_mem_cons.mp plain
      obtain ⟨stored, -, rfl⟩ := (addEntry_plain_eq_ok headPlain).mp isExtended
      have sameOperators := inductionHypothesis restPlain restAdded
      exact sameOperators

/-- The update document of a row of plain fields only sets values. -/
theorem onlySets_updateDocument
    {changes : Document}
    (compiled : updateDocument codec schema row = .ok changes) :
    Update.OnlySets changes := by
  obtain ⟨draft, added, rfl⟩ := updateDocument_eq_ok.mp compiled
  have noOperators : draft.operators = [] := operators_of_plain plain added
  rw [UpdateDraft.document, noOperators]
  split
  · exact List.forall_mem_nil _
  · exact List.forall_mem_singleton.mpr ⟨_, rfl⟩

end Rows

section Filters

variable
  {codec : IdentifierCodec}
  {query : Query}
  {restriction : Option Sql.Expr}
  {filter : Document}

/--
On ordinary fields the filter document judges every document as
the restriction does.
-/
theorem judgedBy_iff_passes
    (ordinary : query.OnOrdinaryFields)
    (plain : query.PlainEqualities)
    (restricts : Sql.whereClause? query.schema query = .ok restriction)
    (compiled : filterDocument codec query = .ok filter)
    (document : Document)
    (holds : Bool) :
    Collection.JudgedBy filter document holds ↔
      Sql.passes restriction document = holds := by
  have plainStored :
      ∀ entry ∈ query.filter, ∀ value stored,
        entry.2 = .equals value →
        storedValue codec (fieldKey query.schema entry.1) value = .ok stored →
        Matching.isOperatorDocument stored = false := by
    intro entry member value stored isEquals encoded
    obtain ⟨-, notId⟩ :=
      Sql.column_of_ordinary ordinary
        (Query.mem_constrainedFields_of_filter member)
    rw [Sql.storedValue_ordinary notId] at encoded
    cases encoded
    exact isOperatorDocument_of_plain (plain entry member value isEquals)
  have unmarked :
      ∀ field ∈ query.constrainedFields,
        Operator.isMarked (fieldKey query.schema field) = false :=
    fun field member => (ordinary field member).2.2
  obtain ⟨decision, evaluated, decided⟩ :=
    filterDocument_decides unmarked plainStored compiled document
  have same : decision = Sql.passes restriction document :=
    Bool.eq_iff_iff.mpr
      (decided.trans (Sql.passes_whereClause? ordinary restricts document).symm)
  rw [Collection.JudgedBy, evaluated, same, Except.ok.injEq]

end Filters

end DocumentCompiler

namespace Store

section Runs

variable
  {name : String}
  {filter changes : Document}
  (judged : ∀ document, ∃ holds, Collection.JudgedBy filter document holds)
  (many : Bool)
  (state : StoreState)

include judged

/-- A delete succeeds if its filter decides of every document. -/
theorem exists_run_delete :
    ∃ answer after,
      (run (.delete name filter many)).runFrom state = (.ok answer, after) := by
  obtain ⟨kept, deleted⟩ :
      ∃ kept,
        Collection.deleteMatching filter many
          (state.1.collection name).documents = .ok kept :=
    Collection.exists_deleteMatching (fun document _ => judged document) many
  obtain ⟨removed, after, ran⟩ :
      ∃ removed after,
        (onPresent name 0 (Collection.delete filter many)).runFrom state =
          (.ok removed, after) := by
    rw [onPresent_runFrom]
    split
    next =>
      simp only [onCollection_runFrom, Collection.delete, Stateful.runFrom_bind,
        Stateful.runFrom_get, Stateful.runFrom_set, Stateful.runFrom_ofExcept,
        deleted]
      exact ⟨_, _, rfl⟩
    next =>
      exact ⟨_, _, rfl⟩
  exact ⟨_, after, Stateful.runFrom_bind_pure_eq_ok.mpr ⟨removed, ran, rfl⟩⟩

/--
An update that inserts nothing succeeds if it only sets values
where its filter holds.
-/
theorem exists_run_update
    (onlySets : Update.OnlySets changes) :
    ∃ answer after,
      (run (.update name filter changes many false)).runFrom state =
        (.ok answer, after) := by
  have applies :
      ∀ document supply,
        ∃ changed left,
          Collection.applyTo false changes document supply =
            (.ok (), changed, left) := by
    intro document supply
    obtain ⟨changed, applied⟩ :=
      Collection.exists_applyTo_of_onlySets onlySets false document supply
    exact ⟨changed, supply, applied⟩
  obtain ⟨total, documents, left, updated⟩ :
      ∃ total documents left,
        Collection.updateMatching filter changes many
            (state.1.collection name).documents {} state.2 =
          (.ok total, documents, left) :=
    Collection.exists_updateMatching (fun document _ => judged document) many
      applies {} state.2
  obtain ⟨outcome, after, ran⟩ :
      ∃ outcome after,
        (onPresent name {}
            (Collection.update filter changes many false)).runFrom state =
          (.ok outcome, after) := by
    rw [onPresent_runFrom]
    split
    next =>
      simp only [onCollection_runFrom, Collection.update, Stateful.runFrom_bind,
        Stateful.runFrom_get, Stateful.runFrom_set, Stateful.runFrom_ofExcept,
        updated, Bool.and_false, Bool.false_eq_true, if_false]
      exact ⟨_, _, rfl⟩
    next =>
      exact ⟨_, _, rfl⟩
  exact ⟨_, after, Stateful.runFrom_bind_pure_eq_ok.mpr ⟨outcome, ran, rfl⟩⟩

end Runs

/-- What an update or a delete makes of a document that it touches. -/
def fate :
    DocumentOperation →
    Document →
    Supply →
    List Document →
    Supply →
    Prop
  | .update _ _ changes _ _ => Collection.ChangedBy changes
  | .delete _ _ _ => Collection.Removed
  | _ => fun _ _ _ _ => False

/-- The documents that pass a restriction, or the first of them only. -/
def rowsTouched
    (restriction : Option Sql.Expr)
    (single : Bool)
    (documents : List Document) :
    List Document :=
  if single then
    (documents.find? (Sql.passes restriction)).toList
  else
    documents.filter (Sql.passes restriction)

/--
Both backends write the rows that pass the restriction, unless a single row is
asked for.

The document operation of an update or a delete on ordinary fields touches
exactly the documents that the restriction of the relational statement holds of,
and leaves the others and the other collections as they are. If the query asks
for a single row, it touches only the first of them, of which the statement says
nothing. It succeeds if it is a delete, or assigns plain fields only.
-/
theorem mutations_touch_passing_rows
    {codec : IdentifierCodec}
    {query : Query}
    (isMutation : query.IsMutation)
    (noUpsert : query.upsert = false)
    (ordinary : query.OnOrdinaryFields)
    (plain : query.PlainEqualities)
    {statement : Sql.Statement}
    {operation : DocumentOperation}
    (compiled : Sql.compile query = .ok statement)
    (compiledToo : DocumentCompiler.compile codec query = .ok operation) :
    ∃ restriction,
      statement.Mutates restriction ∧
        ∀ state,
          ((∀ row, query.values = some (.single row) →
              ∀ name ∈ row.keys, Operator.isMarked name = false) →
            ∃ answer after,
              (run operation).runFrom state = (.ok answer, after)) ∧
            ∀ answer after,
              (run operation).runFrom state = (.ok answer, after) →
                Collection.Affected
                    (fun document holds =>
                      Sql.passes restriction document = holds)
                    (fate operation) (!query.single)
                    (rowsTouched restriction query.single
                      (state.1.collection query.schema.storage).documents)
                    (state.1.collection query.schema.storage).documents state.2
                    (after.1.collection query.schema.storage).documents
                    after.2 ∧
                  ∀ other, other ≠ query.schema.storage →
                    after.1.get? other = state.1.get? other := by
  obtain ⟨restriction, mutates, restricts⟩ :=
    Sql.compile_restricts isMutation compiled
  obtain ⟨filter, filterCompiled, isOperation⟩ :=
    DocumentCompiler.compile_mutation_eq_ok isMutation compiledToo
  have sameJudgement :=
    DocumentCompiler.judgedBy_iff_passes ordinary plain restricts filterCompiled
  have judged :
      ∀ document, ∃ holds, Collection.JudgedBy filter document holds :=
    fun document => ⟨_, (sameJudgement document _).mpr rfl⟩
  -- What the filter document touches is what the restriction lets pass.
  have asRestricted :
      ∀ {becomes touched before supply after left},
        Collection.Affected (Collection.JudgedBy filter) becomes (!query.single)
            touched before supply after left →
          Collection.Affected
            (fun document holds => Sql.passes restriction document = holds)
            becomes (!query.single)
              (rowsTouched restriction query.single before) before supply
            after left := by
    intro becomes touched before supply after left affected
    have passing :=
      affected.imp fun document _ holds => (sameJudgement document holds).mp
    have isTouched := passing.touched_eq
    have sameTouched :
        touched = rowsTouched restriction query.single before := by
      rw [isTouched, rowsTouched]
      cases query.single <;> rfl
    rw [← sameTouched]
    exact passing
  refine ⟨restriction, mutates, fun state => ?_⟩
  rcases isOperation with rfl | ⟨row, changes, isRow, changesCompiled, rfl⟩
  · refine ⟨fun _ => exists_run_delete judged _ state,
      fun answer after ran => ?_⟩
    obtain ⟨⟨touched, -, affected⟩, elsewhere⟩ := affected_of_run_delete ran
    exact ⟨asRestricted affected, elsewhere⟩
  · rw [noUpsert]
    constructor
    · intro assigns
      have onlySets :=
        DocumentCompiler.onlySets_updateDocument (assigns row isRow)
          changesCompiled
      exact exists_run_update judged _ state onlySets
    · intro answer after ran
      obtain ⟨settled, elsewhere⟩ := settled_of_run_update ran
      obtain ⟨touched, -, affected⟩ := settled.affected
      exact ⟨asRestricted affected, elsewhere⟩

/-- A delete of the rows whose field is one, or of a single one of them. -/
def scoredDelete
    (single : Bool) :
    Query :=
  {
    kind := .delete
    schema := scoredSchema
    values := none
    filter := [("a", .equals (.ofInt 1))]
    single := single
  }

theorem scoredDelete_onOrdinaryFields
    (single : Bool) :
    (scoredDelete single).OnOrdinaryFields := by
  have notId : DocumentCompiler.fieldKey scoredSchema "a" ≠ idKey := by
    decide
  have unmarked :
      Operator.isMarked (DocumentCompiler.fieldKey scoredSchema "a") =
        false := by
    decide
  intro field constrained
  cases List.mem_singleton.mp constrained
  exact ⟨rfl, notId, unmarked⟩

theorem scoredDelete_plainEqualities
    (single : Bool) :
    (scoredDelete single).PlainEqualities := by
  intro entry member value isEquals
  cases List.mem_singleton.mp member
  cases isEquals
  rfl

/-- The restriction of the delete: the column equals the parameter. -/
def scoredRestriction : Option Sql.Expr :=
  some
    (.comparison (.column (some "p") "a") .equal
      (Sql.Expr.operand "a" (.ofInt 1)))

/-- A store with two documents whose field is one. -/
def twinStore : Store :=
  [("p", {
    name := "p"
    documents :=
      [[("_id", .ofInt 1), ("a", .ofInt 1)],
        [("_id", .ofInt 2), ("a", .ofInt 1)]]
  })]

theorem mutations_touch_passing_rows_of_twins :
    Sql.compile (scoredDelete false) = .ok (.delete ⟨"p", scoredRestriction⟩) ∧
      DocumentCompiler.compile ObjectId.codec (scoredDelete false) =
          .ok (.delete "p" [("a", .ofInt 1)] true) ∧
        ∃ answer after,
          (run (.delete "p" [("a", .ofInt 1)] true)).runFrom
            (twinStore, firstSupply) =
              (.ok answer, after) ∧
            Collection.Affected
              (fun document holds =>
                Sql.passes scoredRestriction document = holds)
              Collection.Removed true (twinStore.collection "p").documents
              (twinStore.collection "p").documents firstSupply
              (after.1.collection "p").documents after.2 := by
  have compiled :
      Sql.compile (scoredDelete false) =
        .ok (.delete ⟨"p", scoredRestriction⟩) :=
    rfl
  have compiledToo :
      DocumentCompiler.compile ObjectId.codec (scoredDelete false) =
        .ok (.delete "p" [("a", .ofInt 1)] true) :=
    rfl
  obtain ⟨restriction, mutates, touches⟩ :=
    mutations_touch_passing_rows (.inl rfl) rfl
      (scoredDelete_onOrdinaryFields false) (scoredDelete_plainEqualities false)
      compiled compiledToo
  have isRestriction : restriction = scoredRestriction := by
    cases mutates
    rfl
  subst isRestriction
  obtain ⟨succeeds, agrees⟩ := touches (twinStore, firstSupply)
  obtain ⟨answer, after, ran⟩ := succeeds fun row isRow => nomatch isRow
  have touchesBoth :
      rowsTouched scoredRestriction false (twinStore.collection "p").documents =
        (twinStore.collection "p").documents := by
    decide +kernel
  have affected := (agrees answer after ran).1
  refine ⟨compiled, compiledToo, answer, after, ran, ?_⟩
  rw [← touchesBoth]
  exact affected

/--
The delete of a single row leaves a document that the restriction of its
statement holds of.
-/
theorem single_delete_spares_passing_row :
    (scoredDelete true).IsMutation ∧
      (scoredDelete true).OnOrdinaryFields ∧
        (scoredDelete true).PlainEqualities ∧
          Sql.compile (scoredDelete true) =
              .ok (.delete ⟨"p", scoredRestriction⟩) ∧
            (∀ document ∈ (twinStore.collection "p").documents,
              Sql.passes scoredRestriction document = true) ∧
              DocumentCompiler.compile ObjectId.codec (scoredDelete true) =
                  .ok (.delete "p" [("a", .ofInt 1)] false) ∧
                ((run (.delete "p" [("a", .ofInt 1)] false)).runFrom
                      (twinStore, firstSupply)).1.isOk =
                    true ∧
                  (((run (.delete "p" [("a", .ofInt 1)] false)).runFrom
                      (twinStore, firstSupply)).2.1.collection "p").documents =
                    [[("_id", .ofInt 2), ("a", .ofInt 1)]] := by
  refine ⟨.inl rfl, scoredDelete_onOrdinaryFields true,
    scoredDelete_plainEqualities true, rfl, ?_, rfl, ?_, ?_⟩
  · decide +kernel
  · decide +kernel
  · decide +kernel

end Store

end PolyQuery
