import PolyQuery.Proofs.Document.DistinctIdentifiers
import PolyQuery.Proofs.Document.Identifiers
import PolyQuery.Proofs.Document.StoredRows

namespace PolyQuery

/-!
# Documents under object identifiers

Documents that are inserted with object identifiers, or with generated ones, are
all stored under such, and no two under the same one. A filter by one of these
identifiers leads to one document.
-/

namespace Collection

/--
Documents are stored under object identifiers, no two of
them under the same one.
-/
structure Keyed
    (documents : List Document) :
    Prop where
  stored :
    ∀ document ∈ documents, ∃ identifier : ObjectId,
      document.get? idKey = some identifier.toJson
  distinct : (documents.map Document.identifier).Nodup

theorem keyed_nil :
    Keyed [] where
  stored := by simp
  distinct := .nil

theorem Keyed.of_sublist
    {fewer documents : List Document}
    (sublist : fewer.Sublist documents)
    (keyed : Keyed documents) :
    Keyed fewer where
  stored := fun document member => keyed.stored document (sublist.subset member)
  distinct := keyed.distinct.sublist (sublist.map _)

theorem get?_withIdFirst
    (identifier : Json)
    (document : Document) :
    (withIdFirst identifier document).get? idKey = some identifier := by
  simp [withIdFirst]

theorem identifier_withIdFirst
    (identifier : Json)
    (document : Document) :
    (withIdFirst identifier document).identifier = identifier := by
  simp [Document.identifier, get?_withIdFirst]

/-- A document that brings no identifier along, or an object identifier. -/
def IsInsertable
    (document : Document) :
    Prop :=
  ∀ identifier, givenId? document = some identifier →
    ∃ given : ObjectId, identifier = given.toJson

theorem chosenId_toJson
    {document : Document}
    (insertable : IsInsertable document)
    (supply : Supply) :
    ∃ identifier : ObjectId,
      (chosenId document supply).1 = identifier.toJson := by
  unfold chosenId
  split
  next identifier given =>
    exact insertable identifier given
  next =>
    exact ⟨_, rfl⟩

theorem insert_keeps_keyed
    {document : Document}
    (insertable : IsInsertable document) :
    KeepsDocuments (insert document) Keyed := by
  intro state keyed
  obtain ⟨collection, supply⟩ := state
  obtain ⟨chosen, isChosen⟩ := chosenId_toJson insertable supply
  rw [insert_runFrom, isChosen]
  split
  next =>
    exact keyed
  next free =>
    refine ⟨?_, ?_⟩
    · intro present member
      rcases List.mem_append.mp member with wasThere | isNew
      · exact keyed.stored present wasThere
      · rw [List.mem_singleton.mp isNew]
        exact ⟨chosen, get?_withIdFirst _ _⟩
    · rw [List.map_append, List.map_singleton, identifier_withIdFirst]
      refine keyed.distinct.append (List.nodup_singleton _) ?_
      intro identifier taken isChosenToo
      obtain ⟨present, member, isIdentifier⟩ := List.mem_map.mp taken
      have differs :=
        identifier_same_of_not_hasId (by simpa using free) member (by
          rw [isIdentifier, List.mem_singleton.mp isChosenToo]
          exact Json.noConfusion)
      rw [isIdentifier, List.mem_singleton.mp isChosenToo,
        ObjectId.same_toJson_iff.mpr rfl] at differs
      cases differs

theorem delete_keeps_keyed
    (filter : Document)
    (many : Bool) :
    KeepsDocuments (delete filter many) Keyed :=
  delete_keeps keyed_nil (fun _ _ => Keyed.of_sublist) filter many

/--
A document satisfies the filter by an identifier exactly if it is its own.
-/
theorem matches_identifier
    {document : Document}
    {own : ObjectId}
    (stored : document.get? idKey = some own.toJson)
    (asked : ObjectId) :
    document.matches [(idKey, asked.toJson)] =
      .ok (decide (document.identifier = asked.toJson)) := by
  have found : document.lookup? idKey = some own.toJson := by
    have oneSegment : Path.segments idKey = [idKey] := by decide
    rw [Document.lookup?, oneSegment, Path.get?, stored]
    rfl
  have compared :
      Matching.equals (some own.toJson) asked.toJson =
        decide (document.identifier = asked.toJson) := by
    have sameAsEqual :
        own.toJson.same asked.toJson = decide (own.toJson = asked.toJson) := by
      rw [Bool.eq_iff_iff, ObjectId.same_toJson_iff, decide_eq_true_iff]
      constructor
      · rintro rfl
        rfl
      · intro same
        rw [← ObjectId.same_toJson_iff, same, ObjectId.same_toJson_iff]
    have itsIdentifier : document.identifier = own.toJson := by
      simp [Document.identifier, stored]
    rw [itsIdentifier, ← sameAsEqual]
    exact Bool.or_false _
  have notOperators : Matching.isOperatorDocument asked.toJson = false :=
    ObjectId.isOperatorDocument_encode (ObjectId.encode_hex asked)
  have condition :
      Matching.conditionHolds (document.lookup? idKey) asked.toJson =
        .ok (decide (document.identifier = asked.toJson)) := by
    rw [Matching.conditionHolds, notOperators, found, compared]
    rfl
  have entry :
      Matching.entryHolds document idKey asked.toJson =
        .ok (decide (document.identifier = asked.toJson)) := by
    have notConnective : Matching.Connective.ofKey? idKey = none := by decide
    have notMarked : Operator.isMarked idKey = false := by decide
    simp only [ObjectId.toJson] at condition ⊢
    simp only [Matching.entryHolds, notConnective, notMarked, condition]
    rfl
  rw [Document.matches, Matching.filterHolds, entry]
  cases decide (document.identifier = asked.toJson) <;> rfl

theorem matching_identifier
    {documents : List Document}
    (stored :
      ∀ document ∈ documents, ∃ identifier : ObjectId,
        document.get? idKey = some identifier.toJson)
    (asked : ObjectId) :
    matching [(idKey, asked.toJson)] documents =
      .ok
        (documents.filter fun document =>
          document.identifier = asked.toJson) := by
  induction documents with
  | nil =>
      rfl
  | cons document rest inductionHypothesis =>
      obtain ⟨⟨own, headStored⟩, restStored⟩ := List.forall_mem_cons.mp stored
      rw [matching, matches_identifier headStored,
        inductionHypothesis restStored, List.filter_cons]
      rfl

/--
The filter by the identifier of a stored document leads to that document alone.
-/
theorem Keyed.matching_eq_singleton
    {documents : List Document}
    (keyed : Keyed documents)
    {document : Document}
    (member : document ∈ documents)
    {own : ObjectId}
    (isOwn : document.identifier = own.toJson) :
    matching [(idKey, own.toJson)] documents = .ok [document] := by
  rw [matching_identifier keyed.stored, ← isOwn]
  exact congrArg Except.ok (filter_eq_singleton keyed.distinct member)

end Collection

end PolyQuery
