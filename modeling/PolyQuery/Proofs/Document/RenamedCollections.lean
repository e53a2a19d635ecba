import PolyQuery.Proofs.Document.Operations
import PolyQuery.Proofs.Document.RenamedUpdates

namespace PolyQuery

open Failing Stateful

/-!
# Renamed collections

Two collections whose documents differ by the names of their keys only, one by
one, answer alike and stay such collections under every operation, if filters,
updates, projections and orders are renamed alike. Identifiers are generated
alike, since they are drawn from one supply.
-/

/-- Collections of one name whose documents are renamed, one by one. -/
structure Collection.Renamed
    (names : String → String → Prop)
    (left right : Collection) :
    Prop where
  sameName : left.name = right.name
  documents :
    List.Forall₂ (Document.Renamed names) left.documents right.documents

/-- Renamed collections with one supply. -/
abbrev CollectionsAlike
    (names : String → String → Prop) :
    CollectionState →
    CollectionState →
    Prop :=
  Beside (Collection.Renamed names)

variable
  {names : String → String → Prop}
  (faithful : FaithfulRenaming names)

include faithful

namespace Document

/-- Keys to sort by that stand for each other, in the same directions. -/
abbrev SortsRenamed
    (names : String → String → Prop) :
    List SortKey →
    List SortKey →
    Prop :=
  List.Forall₂ fun key other =>
    names key.path other.path ∧ key.descending = other.descending

omit faithful in
theorem Renamed.sortKeys
    {spec specToo : Document}
    (renamed : spec.Renamed names specToo) :
    SortsRenamed names (SortKey.ofDocument spec)
      (SortKey.ofDocument specToo) := by
  refine List.rel_map (fun entry entryToo both => ?_) renamed
  rw [both.2]
  exact ⟨both.1, rfl⟩

theorem orderBy_eq
    {keys keysToo : List SortKey}
    (keysRenamed : SortsRenamed names keys keysToo)
    {left leftToo right rightToo : Document}
    (leftRenamed : left.Renamed names leftToo)
    (rightRenamed : right.Renamed names rightToo) :
    orderBy keys left right = orderBy keysToo leftToo rightToo := by
  induction keysRenamed with
  | nil =>
      rfl
  | cons headRenamed _ inductionHypothesis =>
      rw [orderBy, orderBy, leftRenamed.lookup?_eq faithful headRenamed.1,
        rightRenamed.lookup?_eq faithful headRenamed.1, headRenamed.2,
        inductionHypothesis]

omit faithful

variable
  {order orderToo : Document → Document → Ordering}
  (ordersAlike :
    ∀ left leftToo right rightToo,
      Renamed names left leftToo → Renamed names right rightToo →
      order left right = orderToo leftToo rightToo)

include ordersAlike

theorem insertSorted_renamed
    {document documentToo : Document}
    (renamed : document.Renamed names documentToo)
    {sorted sortedToo : List Document}
    (sortedRenamed : List.Forall₂ (Renamed names) sorted sortedToo) :
    List.Forall₂ (Renamed names) (insertSorted order document sorted)
      (insertSorted orderToo documentToo sortedToo) := by
  induction sortedRenamed with
  | nil =>
      exact .cons renamed .nil
  | cons lastRenamed restRenamed inductionHypothesis =>
      rw [insertSorted, insertSorted, ordersAlike _ _ _ _ renamed lastRenamed]
      split
      · exact .cons lastRenamed inductionHypothesis
      · exact .cons renamed (.cons lastRenamed restRenamed)

theorem sort_renamed
    {documents documentsToo : List Document}
    (renamed : List.Forall₂ (Renamed names) documents documentsToo) :
    List.Forall₂ (Renamed names) (sort order documents)
      (sort orderToo documentsToo) := by
  refine List.rel_reverse (List.rel_foldl ?_ .nil renamed)
  exact fun _ _ sortedRenamed _ _ documentRenamed =>
    insertSorted_renamed ordersAlike documentRenamed sortedRenamed

end Document

namespace Collection

theorem matching_alike
    {filter filterToo : Document}
    (filterRenamed : filter.FilterRenamed names filterToo)
    {documents documentsToo : List Document}
    (renamed : List.Forall₂ (Document.Renamed names) documents documentsToo) :
    Alike SameKind (List.Forall₂ (Document.Renamed names))
      (matching filter documents) (matching filterToo documentsToo) := by
  induction renamed with
  | nil =>
      exact .ok .nil
  | cons headRenamed _ inductionHypothesis =>
      rw [matching, matching, filterRenamed.matches_eq faithful headRenamed]
      refine Alike.after sameKind_refl fun holds _ => ?_
      refine inductionHypothesis.bind fun others othersToo othersRenamed => ?_
      cases holds with
      | false =>
          exact .ok othersRenamed
      | true =>
          exact .ok (.cons headRenamed othersRenamed)

theorem project_renamed
    {fields fieldsToo : Document}
    (fieldsRenamed : fields.Renamed names fieldsToo)
    {document documentToo : Document}
    (renamed : document.Renamed names documentToo) :
    (project fields document).Renamed names
      (project fieldsToo documentToo) := by
  refine List.rel_filter (fun entry entryToo both => ?_) renamed
  dsimp only
  rw [fieldsRenamed.get?_eq faithful both.1]
  split
  · exact Iff.rfl
  · rw [decide_eq_true_iff, decide_eq_true_iff]
    exact faithful.isIdKey_iff both.1

theorem projectAll_renamed
    {fields fieldsToo : Document}
    (fieldsRenamed : fields.Renamed names fieldsToo)
    {documents documentsToo : List Document}
    (renamed : List.Forall₂ (Document.Renamed names) documents documentsToo) :
    List.Forall₂ (Document.Renamed names) (documents.map (project fields))
      (documentsToo.map (project fieldsToo)) := by
  refine List.rel_map (fun document documentToo documentRenamed => ?_) renamed
  exact project_renamed faithful fieldsRenamed documentRenamed

omit faithful in
theorem stretch_renamed
    {documents documentsToo : List Document}
    (renamed : List.Forall₂ (Document.Renamed names) documents documentsToo)
    (skip limit : Option Nat) :
    List.Forall₂ (Document.Renamed names)
      (match limit with
        | some limit => (documents.drop (skip.getD 0)).take limit
        | none => documents.drop (skip.getD 0))
      (match limit with
        | some limit => (documentsToo.drop (skip.getD 0)).take limit
        | none => documentsToo.drop (skip.getD 0)) := by
  have rest := List.forall₂_drop (skip.getD 0) renamed
  cases limit with
  | none =>
      exact rest
  | some limit =>
      exact List.forall₂_take limit rest

/-- Renamed collections are searched alike. -/
theorem find_alike
    {collection collectionToo : Collection}
    (renamed : collection.Renamed names collectionToo)
    {filter filterToo : Document}
    (filterRenamed : filter.FilterRenamed names filterToo)
    {projection projectionToo sort sortToo : Option Document}
    (projectionRenamed :
      Option.Rel (Document.Renamed names) projection projectionToo)
    (sortRenamed : Option.Rel (Document.Renamed names) sort sortToo)
    (skip limit : Option Nat) :
    Alike SameKind (List.Forall₂ (Document.Renamed names))
      (collection.find filter projection sort skip limit)
      (collectionToo.find filterToo projectionToo sortToo skip limit) := by
  have matched := matching_alike faithful filterRenamed renamed.documents
  refine matched.bind fun found foundToo both => ?_
  apply Alike.ok
  have sorted :
      ∀ spec specToo, Document.Renamed names spec specToo →
        List.Forall₂ (Document.Renamed names)
          (Document.sort (Document.orderBy (SortKey.ofDocument spec)) found)
          (Document.sort (Document.orderBy (SortKey.ofDocument specToo))
            foundToo) := by
    intro spec specToo specRenamed
    apply Document.sort_renamed _ both
    exact fun _ _ _ _ => Document.orderBy_eq faithful specRenamed.sortKeys
  cases projectionRenamed with
  | none =>
      cases sortRenamed with
      | none =>
          exact stretch_renamed both skip limit
      | some specRenamed =>
          exact stretch_renamed (sorted _ _ specRenamed) skip limit
  | some fieldsRenamed =>
      apply projectAll_renamed faithful fieldsRenamed
      cases sortRenamed with
      | none =>
          exact stretch_renamed both skip limit
      | some specRenamed =>
          exact stretch_renamed (sorted _ _ specRenamed) skip limit

theorem hasId_eq
    {documents documentsToo : List Document}
    (renamed : List.Forall₂ (Document.Renamed names) documents documentsToo)
    (identifier : Json) :
    hasId documents identifier = hasId documentsToo identifier := by
  induction renamed with
  | nil =>
      rfl
  | cons headRenamed _ inductionHypothesis =>
      unfold hasId at inductionHypothesis ⊢
      rw [List.any_cons, List.any_cons, inductionHypothesis,
        headRenamed.get?_eq faithful faithful.identifier]

theorem withIdFirst_renamed
    (identifier : Json)
    {document documentToo : Document}
    (renamed : document.Renamed names documentToo) :
    (withIdFirst identifier document).Renamed names
      (withIdFirst identifier documentToo) := by
  refine .cons ⟨faithful.identifier, rfl⟩ ?_
  refine List.rel_filter (fun entry entryToo both => ?_) renamed
  dsimp only
  rw [decide_eq_true_iff, decide_eq_true_iff]
  exact not_congr (faithful.isIdKey_iff both.1)

/-- A renamed document is inserted under the same identifier. -/
theorem insert_runsAlike
    {document documentToo : Document}
    (renamed : document.Renamed names documentToo) :
    RunsAlike (CollectionsAlike names) SameKind Eq (insert document)
      (insert documentToo) := by
  refine runsAlike_of_beside
    fun collection collectionToo supply collectionRenamed => ?_
  have sameChoice : chosenId document supply = chosenId documentToo supply := by
    unfold chosenId givenId?
    rw [renamed.get?_eq faithful faithful.identifier]
  rw [insert_runFrom, insert_runFrom, sameChoice,
    hasId_eq faithful collectionRenamed.documents]
  split
  · exact ⟨.error rfl, collectionRenamed, rfl⟩
  · refine ⟨.ok rfl, ⟨collectionRenamed.sameName, ?_⟩, rfl⟩
    exact
      List.rel_append collectionRenamed.documents
        (.cons (withIdFirst_renamed faithful _ renamed) .nil)

section Updates

variable
  {update updateToo : Document}
  (updateRenamed : update.UpdateRenamed names updateToo)

include updateRenamed

theorem applyTo_alike
    (inserting : Bool)
    {document documentToo : Document}
    (renamed : document.Renamed names documentToo)
    (supply : Supply) :
    Alike SameKind Eq (applyTo inserting update document supply).1
        (applyTo inserting updateToo documentToo supply).1 ∧
      (applyTo inserting update document supply).2.1.Renamed names
        (applyTo inserting updateToo documentToo supply).2.1 ∧
      (applyTo inserting update document supply).2.2 =
        (applyTo inserting updateToo documentToo supply).2.2 :=
  Update.apply_runsAlike faithful inserting updateRenamed _ _ ⟨renamed, rfl⟩

variable
  {filter filterToo : Document}
  (filterRenamed : filter.FilterRenamed names filterToo)

include filterRenamed

/--
Renamed documents are updated alike, up to the first that the filter or the
update fails on.
-/
theorem updateMatching_alike
    (many : Bool)
    {documents documentsToo : List Document}
    (renamed : List.Forall₂ (Document.Renamed names) documents documentsToo)
    (tally : Tally)
    (supply : Supply) :
    Alike SameKind Eq
        (updateMatching filter update many documents tally supply).1
        (updateMatching filterToo updateToo many documentsToo tally supply).1 ∧
      List.Forall₂ (Document.Renamed names)
        (updateMatching filter update many documents tally supply).2.1
        (updateMatching filterToo updateToo many documentsToo tally
          supply).2.1 ∧
      (updateMatching filter update many documents tally supply).2.2 =
        (updateMatching filterToo updateToo many documentsToo tally
          supply).2.2 := by
  induction renamed generalizing tally supply with
  | nil =>
      exact ⟨.ok rfl, .nil, rfl⟩
  | @cons document documentToo rest restToo headRenamed restRenamed
    inductionHypothesis =>
      unfold updateMatching
      rw [filterRenamed.matches_eq faithful headRenamed]
      cases documentToo.matches filterToo with
      | error cause =>
          exact ⟨.error rfl, .cons headRenamed restRenamed, rfl⟩
      | ok holds =>
          cases holds with
          | false =>
              obtain ⟨resultAlike, othersRenamed, sameSupply⟩ :=
                inductionHypothesis tally supply
              exact ⟨resultAlike, .cons headRenamed othersRenamed, sameSupply⟩
          | true =>
              have applied :=
                applyTo_alike faithful updateRenamed false headRenamed supply
              generalize applyTo false update document supply =
                  touched at applied ⊢
              generalize applyTo false updateToo documentToo supply =
                  touchedToo at applied ⊢
              obtain ⟨result, changed, left⟩ := touched
              obtain ⟨resultToo, changedToo, leftToo⟩ := touchedToo
              obtain ⟨resultAlike, changedRenamed, sameSupply⟩ := applied
              dsimp only at resultAlike changedRenamed sameSupply
              subst sameSupply
              cases resultAlike with
              | error sameKind =>
                  exact ⟨.error sameKind, .cons changedRenamed restRenamed, rfl⟩
              | ok _ =>
                  dsimp only
                  rw [changedRenamed.same_eq faithful headRenamed]
                  split
                  · obtain ⟨restAlike, othersRenamed, sameLeft⟩ :=
                      inductionHypothesis _ left
                    exact ⟨restAlike, .cons changedRenamed othersRenamed,
                      sameLeft⟩
                  · exact ⟨.ok rfl, .cons changedRenamed restRenamed, rfl⟩

theorem upsert_runsAlike :
    RunsAlike (CollectionsAlike names) SameKind Eq (upsert filter update)
      (upsert filterToo updateToo) := by
  refine runsAlike_get_bind
    fun collection collectionToo supply collectionRenamed => ?_
  have seeded :=
    applyTo_alike faithful updateRenamed true
      (filterRenamed.upsertSeed faithful) supply
  dsimp only
  generalize applyTo true update (upsertSeed filter) supply = made at seeded ⊢
  generalize applyTo true updateToo (upsertSeed filterToo) supply =
      madeToo at seeded ⊢
  obtain ⟨result, seed, left⟩ := made
  obtain ⟨resultToo, seedToo, leftToo⟩ := madeToo
  obtain ⟨resultAlike, seedRenamed, sameLeft⟩ := seeded
  dsimp only at resultAlike seedRenamed sameLeft
  subst sameLeft
  refine (runsAlike_set ⟨collectionRenamed, rfl⟩).bind fun _ _ _ => ?_
  refine (runsAlike_ofExcept resultAlike).bind fun _ _ _ => ?_
  refine (insert_runsAlike faithful seedRenamed).bind
    fun identifier identifierToo same => ?_
  rw [same]
  exact runsAlike_pure rfl

/--
A renamed update does to a renamed collection what the update
did to the collection.
-/
theorem update_runsAlike
    (many upserting : Bool) :
    RunsAlike (CollectionsAlike names) SameKind Eq
      (Collection.update filter update many upserting)
      (Collection.update filterToo updateToo many upserting) := by
  refine runsAlike_get_bind
    fun collection collectionToo supply collectionRenamed => ?_
  have updated :=
    updateMatching_alike faithful updateRenamed filterRenamed many
      collectionRenamed.documents {} supply
  dsimp only
  generalize updateMatching filter update many collection.documents {} supply =
      made at updated ⊢
  generalize updateMatching filterToo updateToo many collectionToo.documents {}
      supply = madeToo
    at updated ⊢
  obtain ⟨result, documents, left⟩ := made
  obtain ⟨resultToo, documentsToo, leftToo⟩ := madeToo
  obtain ⟨resultAlike, documentsRenamed, sameLeft⟩ := updated
  dsimp only at resultAlike documentsRenamed sameLeft
  subst sameLeft
  refine
    (runsAlike_set ⟨⟨collectionRenamed.sameName, documentsRenamed⟩, rfl⟩).bind
    fun _ _ _ => ?_
  refine (runsAlike_ofExcept resultAlike).bind
    fun tally tallyToo sameTally => ?_
  subst sameTally
  split
  · refine
      (upsert_runsAlike faithful updateRenamed filterRenamed).bind
        fun identifier identifierToo same => ?_
    rw [same]
    exact runsAlike_pure rfl
  · exact runsAlike_pure rfl

end Updates

theorem deleteMatching_alike
    {filter filterToo : Document}
    (filterRenamed : filter.FilterRenamed names filterToo)
    (many : Bool)
    {documents documentsToo : List Document}
    (renamed : List.Forall₂ (Document.Renamed names) documents documentsToo) :
    Alike SameKind
      (fun kept keptToo =>
        List.Forall₂ (Document.Renamed names) kept.1 keptToo.1 ∧
          kept.2 = keptToo.2)
      (deleteMatching filter many documents)
        (deleteMatching filterToo many documentsToo) := by
  induction renamed with
  | nil =>
      exact .ok ⟨.nil, rfl⟩
  | cons headRenamed restRenamed inductionHypothesis =>
      rw [deleteMatching, deleteMatching,
        filterRenamed.matches_eq faithful headRenamed]
      refine Alike.after sameKind_refl fun holds _ => ?_
      split
      · split
        · refine inductionHypothesis.bind fun kept keptToo both => ?_
          exact .ok ⟨both.1, congrArg (· + 1) both.2⟩
        · exact .ok ⟨restRenamed, rfl⟩
      · refine inductionHypothesis.bind fun kept keptToo both => ?_
        exact .ok ⟨.cons headRenamed both.1, both.2⟩

/--
A renamed filter removes from a renamed collection what the filter removed.
-/
theorem delete_runsAlike
    {filter filterToo : Document}
    (filterRenamed : filter.FilterRenamed names filterToo)
    (many : Bool) :
    RunsAlike (CollectionsAlike names) SameKind Eq (delete filter many)
      (delete filterToo many) := by
  refine runsAlike_get_bind
    fun collection collectionToo supply collectionRenamed => ?_
  have deleted :=
    deleteMatching_alike faithful filterRenamed many collectionRenamed.documents
  refine (runsAlike_set ⟨⟨collectionRenamed.sameName, .nil⟩, rfl⟩).bind
    fun _ _ _ => ?_
  refine (runsAlike_ofExcept deleted).bind fun kept keptToo both => ?_
  refine
    (runsAlike_set ⟨⟨collectionRenamed.sameName, both.1⟩, rfl⟩).bind
    fun _ _ _ => ?_
  exact runsAlike_pure both.2

end Collection

end PolyQuery
