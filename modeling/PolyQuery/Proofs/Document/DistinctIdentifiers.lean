import PolyQuery.Proofs.Document.Operations

namespace PolyQuery

/-!
# Distinct identifiers

An insert refuses an identifier that is taken and gives one to a document that
comes without, so inserts, upserts and deletes never leave two documents with
equal identifiers or one with none. An update of documents that are there
already is not looked at again: their identifiers stay distinct if no change
leads to them, and need not otherwise.
-/

/-- The identifier that a document is stored under, null if there is none. -/
def Document.identifier
    (document : Document) :
    Json :=
  (document.get? idKey).getD .null

theorem Document.identifier_of_under
    {document : Document}
    {identifier : Json}
    (alone : document.under idKey = [(idKey, identifier)]) :
    document.identifier = identifier := by
  simp [Document.identifier, Entries.get?_eq_head?_under, alone]

namespace Collection

/--
Documents have one identifier each that is not null, and no two of
them have equal ones.
-/
structure Identified
    (documents : List Document) :
    Prop where
  once : ∀ document ∈ documents, (document.under idKey).length = 1
  given : ∀ document ∈ documents, document.identifier ≠ .null
  distinct :
    (documents.map Document.identifier).Pairwise fun earlier later =>
      earlier.same later = false

theorem identified_nil :
    Identified [] where
  once := by simp
  given := by simp
  distinct := .nil

theorem Identified.of_sublist
    {fewer documents : List Document}
    (sublist : fewer.Sublist documents)
    (identified : Identified documents) :
    Identified fewer where
  once :=
    fun document member => identified.once document (sublist.subset member)
  given :=
    fun document member => identified.given document (sublist.subset member)
  distinct := identified.distinct.sublist (sublist.map _)

theorem givenId?_ne_null
    (document : Document) :
    givenId? document ≠ some .null := by
  unfold givenId?
  split
  · simp
  next notNull =>
    exact fun isNull => notNull isNull

theorem chosenId_ne_null
    (document : Document)
    (supply : Supply) :
    (chosenId document supply).1 ≠ .null := by
  unfold chosenId
  split
  next identifier given =>
    intro isNull
    exact givenId?_ne_null document (by rw [given, ← isNull])
  next =>
    exact Json.noConfusion

theorem under_withIdFirst
    (identifier : Json)
    (document : Document) :
    (withIdFirst identifier document).under idKey = [(idKey, identifier)] := by
  simp [withIdFirst, Entries.under]

/--
An identifier that no document has differs from those of all
documents that have one.
-/
theorem identifier_same_of_not_hasId
    {documents : List Document}
    {identifier : Json}
    (free : hasId documents identifier = false)
    {document : Document}
    (member : document ∈ documents)
    (given : document.identifier ≠ .null) :
    document.identifier.same identifier = false := by
  have differs := List.any_eq_false.mp free document member
  unfold Document.identifier at given ⊢
  cases stored : document.get? idKey with
  | none =>
      simp [stored] at given
  | some present =>
      simpa [stored] using differs

theorem insert_keeps_identified
    (document : Document) :
    KeepsDocuments (insert document) Identified := by
  intro state identified
  obtain ⟨collection, supply⟩ := state
  rw [insert_runFrom]
  split
  next =>
    exact identified
  next free =>
    have stored := under_withIdFirst (chosenId document supply).1 document
    have itsIdentifier := Document.identifier_of_under stored
    have newDiffers :
        ∀ present ∈ collection.documents,
          present.identifier.same (chosenId document supply).1 = false :=
      fun present member =>
        identifier_same_of_not_hasId (by simpa using free) member
          (identified.given present member)
    refine ⟨?_, ?_, ?_⟩
    · intro present member
      rcases List.mem_append.mp member with wasThere | isNew
      · exact identified.once present wasThere
      · rw [List.mem_singleton.mp isNew, stored]
        rfl
    · intro present member
      rcases List.mem_append.mp member with wasThere | isNew
      · exact identified.given present wasThere
      · rw [List.mem_singleton.mp isNew, itsIdentifier]
        exact chosenId_ne_null document supply
    · rw [List.map_append, List.pairwise_append]
      refine ⟨identified.distinct, List.pairwise_singleton _ _, ?_⟩
      intro earlier earlierMember later laterMember
      obtain ⟨present, member, rfl⟩ := List.mem_map.mp earlierMember
      rw [List.map_singleton, List.mem_singleton, itsIdentifier] at laterMember
      rw [laterMember]
      exact newDiffers present member

theorem delete_keeps_identified
    (filter : Document)
    (many : Bool) :
    KeepsDocuments (delete filter many) Identified :=
  delete_keeps identified_nil (fun _ _ => Identified.of_sublist) filter many

section Updates

variable
  {documents changed : List Document}
  (sameEntries :
    List.Forall₂
      (fun before after : Document =>
        (after.under idKey).Perm (before.under idKey))
      documents changed)

include sameEntries

theorem map_under_eq
    (once : ∀ document ∈ documents, (document.under idKey).length = 1) :
    changed.map (fun document => document.under idKey) =
      documents.map (fun document => document.under idKey) := by
  induction sameEntries with
  | nil =>
      rfl
  | cons headEntries _ inductionHypothesis =>
      obtain ⟨headOnce, restOnce⟩ := List.forall_mem_cons.mp once
      obtain ⟨entry, alone⟩ := List.length_eq_one_iff.mp headOnce
      rw [alone] at headEntries
      rw [List.map_cons, List.map_cons, inductionHypothesis restOnce, alone,
        List.perm_singleton.mp headEntries]

/--
Documents that keep their entries under the identifier's key stay identified.
-/
theorem Identified.of_under_perm
    (identified : Identified documents) :
    Identified changed := by
  have sameUnder := map_under_eq sameEntries identified.once
  have sameIdentifiers :
      changed.map Document.identifier = documents.map Document.identifier := by
    have fromUnder :
        Document.identifier = fun document : Document =>
          ((document.under idKey).head?.map Prod.snd).getD .null := by
      funext document
      rw [Document.identifier, Entries.get?_eq_head?_under]
    have mapped :=
      congrArg
        (List.map fun entries => (entries.head?.map Prod.snd).getD Json.null)
        sameUnder
    simpa only [List.map_map, Function.comp_def, ← fromUnder] using mapped
  refine ⟨?_, ?_, ?_⟩
  · intro document member
    have underMember :
        document.under idKey ∈ documents.map fun present =>
          present.under idKey := by
      rw [← sameUnder]
      exact List.mem_map_of_mem member
    obtain ⟨present, presentMember, sameAsPresent⟩ :=
      List.mem_map.mp underMember
    rw [← sameAsPresent]
    exact identified.once present presentMember
  · intro document member
    have identifierMember :
        document.identifier ∈ documents.map Document.identifier := by
      rw [← sameIdentifiers]
      exact List.mem_map_of_mem member
    obtain ⟨present, presentMember, sameAsPresent⟩ :=
      List.mem_map.mp identifierMember
    rw [← sameAsPresent]
    exact identified.given present presentMember
  · rw [sameIdentifiers]
    exact identified.distinct

end Updates

/--
An update whose changes do not lead to the identifier keeps
documents identified.
-/
theorem update_keeps_identified
    {changes : Document}
    (spared : Update.spares idKey changes = true)
    (filter : Document)
    (many upserting : Bool) :
    KeepsDocuments (update filter changes many upserting) Identified := by
  apply update_keeps insert_keeps_identified
  intro filter many documents tally supply identified
  exact
    Identified.of_under_perm
      (forall₂_updateMatching (fun _ => .refl _) (Update.under_apply spared)
        filter many documents tally supply)
      identified

end Collection

namespace Store

/--
No update of an operation leads to the identifier of a document
that is there already.
-/
def SparesIdentifiers
    (operation : DocumentOperation) :
    Prop :=
  ∀ filtered ∈ operation.updates, Update.spares idKey filtered.update = true

/--
Identifiers stay distinct unless an update leads to them.

Whatever operations are run on an empty store, and whether they succeed or fail:
if none of them changes the identifier of a document that is there already, then
in every collection all documents have an identifier, and no two have equal
ones.
-/
theorem identifiers_stay_distinct
    {operations : List DocumentOperation}
    (spared : ∀ operation ∈ operations, SparesIdentifiers operation)
    (supply : Supply) :
    Every Collection.Identified
      (afterOperations operations ([], supply)).1 := by
  have fromAny :
      ∀ state : StoreState, Every Collection.Identified state.1 →
        Every Collection.Identified (afterOperations operations state).1 := by
    induction operations with
    | nil =>
        exact fun _ every => every
    | cons operation rest inductionHypothesis =>
        obtain ⟨headSpared, restSpared⟩ := List.forall_mem_cons.mp spared
        intro state every
        have keeps :=
          run_keeps Collection.identified_nil
            (fun document _ => Collection.insert_keeps_identified document)
            (fun filtered member many upsert =>
              Collection.update_keeps_identified (headSpared filtered member)
                filtered.filter many upsert)
            Collection.delete_keeps_identified
        exact inductionHypothesis restSpared _ (keeps state every)
  exact fromAny ([], supply) (by simp [Every])

/-- What is generated on a store of its own. -/
def firstSupply : Supply :=
  {
    objectIds := 0
    uuids := 0
    microseconds := 0
    sequences := []
  }

/-- Two documents with identifiers of their own. -/
def insertTwo : DocumentOperation :=
  .insert "person" [[("_id", .ofInt 1)], [("_id", .ofInt 2)]]

/--
An update of every document, or of one that it inserts with an
identifier of its own.
-/
def renameAll : DocumentOperation :=
  .update "person" [("age", .ofInt 30)]
    [("$set", .object [("name", .string "Ada")]),
      ("$setOnInsert", .object [("_id", .ofInt 2)])]
    true true

/-- An update of every document to one identifier. -/
def identifyAll : DocumentOperation :=
  .update "person" [] [("$set", .object [("_id", .ofInt 3)])] true false

theorem identifiers_stay_distinct_when_refused :
    (∀ operation ∈ [insertTwo, renameAll], SparesIdentifiers operation) ∧
      Every Collection.Identified
        (afterOperations [insertTwo, renameAll] ([], firstSupply)).1 := by
  have spared :
      ∀ operation ∈ [insertTwo, renameAll], SparesIdentifiers operation := by
    simp only [List.forall_mem_cons, SparesIdentifiers]
    decide
  exact ⟨spared, identifiers_stay_distinct spared firstSupply⟩

/--
An update of every document to one identifier is accepted and leaves two
documents with it.
-/
theorem update_repeats_identifier :
    ((afterOperations [insertTwo, identifyAll] ([], firstSupply)).1.collection
        "person").documents = [[("_id", .ofInt 3)], [("_id", .ofInt 3)]] ∧
      ¬Every Collection.Identified
        (afterOperations [insertTwo, identifyAll] ([], firstSupply)).1 := by
  refine ⟨rfl, ?_⟩
  intro every
  have distinct := (every ("person", _) List.mem_cons_self).distinct
  exact absurd distinct (by decide)

end Store

end PolyQuery
