import PolyQuery.Document.Compile
import PolyQuery.Proofs.Document.RenamedFilters

namespace PolyQuery

open Matching

/-!
# Filters alike

Two entries are alike if they stand under one key and hold of the same
documents. A draft may take the one for the other: the key stays free or taken
as it was, so everything behind it is placed alike, and the finished filter
documents hold of the same documents. Only `$and` is apart, as its clauses are
taken up once more when a draft is finished.
-/

namespace DocumentCompiler

/-- Entries under one key that hold of the same documents. -/
def EntryAlike
    (entry other : String × Json) :
    Prop :=
  entry.1 = other.1 ∧
    ∀ document,
      entryHolds document entry.1 entry.2 = entryHolds document other.1 other.2

/-- Clauses that hold of the same documents, and are objects alike. -/
def ClauseAlike
    (clause other : Json) :
    Prop :=
  clause.isObject = other.isObject ∧
    ∀ document, clauseHolds document clause = clauseHolds document other

theorem entryAlike_refl
    (entry : String × Json) :
    EntryAlike entry entry :=
  ⟨rfl, fun _ => rfl⟩

/--
Drafts whose entries and clauses hold of the same documents, with
one value under `$and`.
-/
structure Draft.Alike
    (first second : Draft) :
    Prop where
  entries : List.Forall₂ EntryAlike first.document second.document
  conjunction : first.document.get? "$and" = second.document.get? "$and"
  clauses : List.Forall₂ ClauseAlike first.clauses second.clauses

variable
  {first second : Document}
  {key : String}
  {condition other : Json}

theorem contains_eq_of_entriesAlike
    (alike : List.Forall₂ EntryAlike first second)
    (key : String) :
    first.contains key = second.contains key := by
  have sameKeys : Entries.Alike Eq (fun _ _ => True) first second :=
    alike.imp fun _ _ entryAlike => ⟨entryAlike.1, trivial⟩
  exact sameKeys.contains_eq Entries.oneToOne_eq rfl

theorem insert_entriesAlike
    (alike : List.Forall₂ EntryAlike first second)
    (entryAlike : EntryAlike (key, condition) (key, other)) :
    List.Forall₂ EntryAlike (first.insert key condition)
      (second.insert key other) := by
  induction alike with
  | nil =>
      exact .cons entryAlike .nil
  | @cons entry entryToo _ _ headAlike restAlike inductionHypothesis =>
      obtain ⟨name, value⟩ := entry
      obtain ⟨nameToo, valueToo⟩ := entryToo
      obtain ⟨sameName, holdAlike⟩ := headAlike
      dsimp only at sameName
      subst sameName
      simp only [Entries.insert, Entries.alter] at inductionHypothesis ⊢
      by_cases isKey : name = key
      · subst isKey
        rw [if_pos rfl, if_pos rfl]
        exact .cons entryAlike restAlike
      · rw [if_neg isKey, if_neg isKey]
        exact .cons ⟨rfl, holdAlike⟩ inductionHypothesis

theorem anyDecides_alike
    {clauses others : List Json}
    (alike : List.Forall₂ ClauseAlike clauses others)
    (connective : Connective)
    (document : Document) :
    anyDecides document connective clauses =
      anyDecides document connective others := by
  induction alike with
  | nil =>
      rfl
  | cons headAlike _ inductionHypothesis =>
      rw [anyDecides, anyDecides, headAlike.2 document, inductionHypothesis]

theorem all_isObject_alike
    {clauses others : List Json}
    (alike : List.Forall₂ ClauseAlike clauses others) :
    clauses.all Json.isObject = others.all Json.isObject := by
  induction alike with
  | nil =>
      rfl
  | cons headAlike _ inductionHypothesis =>
      rw [List.all_cons, List.all_cons, headAlike.1, inductionHypothesis]

/-- A conjunction of clauses that are alike holds of the same documents. -/
theorem entryAlike_conjunction
    {clauses others : List Json}
    (alike : List.Forall₂ ClauseAlike clauses others) :
    EntryAlike ("$and", .array clauses) ("$and", .array others) := by
  refine ⟨rfl, fun document => ?_⟩
  simp only [entryHolds, Connective.ofKey?, all_isObject_alike alike,
    anyDecides_alike alike]

theorem entriesAlike_refl
    (entries : Document) :
    List.Forall₂ EntryAlike entries entries :=
  List.forall₂_same.mpr fun entry _ => entryAlike_refl entry

theorem clausesAlike_refl
    (clauses : List Json) :
    List.Forall₂ ClauseAlike clauses clauses :=
  List.forall₂_same.mpr fun _ _ => ⟨rfl, fun _ => rfl⟩

/-- Conditions that are alike may be put into a draft for one another. -/
theorem Draft.alike_place
    (draft : Draft)
    (notConjunction : key ≠ "$and")
    (entryAlike : EntryAlike (key, condition) (key, other)) :
    Draft.Alike (draft.place key condition) (draft.place key other) := by
  unfold place
  split
  · have clauseAlike :
        ClauseAlike (.object [(key, condition)]) (.object [(key, other)]) := by
      refine ⟨rfl, fun document => ?_⟩
      rw [clauseHolds, clauseHolds, filterHolds_singleton,
        filterHolds_singleton]
      exact entryAlike.2 document
    exact {
      entries := entriesAlike_refl _
      conjunction := rfl
      clauses := List.rel_append (clausesAlike_refl _) (.cons clauseAlike .nil)
    }
  · exact {
      entries := insert_entriesAlike (entriesAlike_refl _) entryAlike
      conjunction := by
        rw [Entries.get?_insert, Entries.get?_insert, if_neg notConjunction,
          if_neg notConjunction]
      clauses := clausesAlike_refl _
    }

variable
  {draft draftToo : Draft}
  (alike : draft.Alike draftToo)

include alike

theorem Draft.Alike.placeGroups
    (groups : List (List Json)) :
    (draft.placeGroups groups).Alike (draftToo.placeGroups groups) := by
  have asClauses :
      Draft.Alike
        { draft with
          clauses :=
            draft.clauses ++ groups.map fun group =>
              .object [("$or", .array group)] }
        { draftToo with
          clauses :=
            draftToo.clauses ++ groups.map fun group =>
              .object [("$or", .array group)] } :=
    { alike with
      clauses := List.rel_append alike.clauses (clausesAlike_refl _) }
  unfold Draft.placeGroups
  match groups with
  | [] =>
      exact alike
  | [group] =>
      dsimp only
      rw [contains_eq_of_entriesAlike alike.entries]
      split
      · exact asClauses
      · exact {
          entries := insert_entriesAlike alike.entries (entryAlike_refl _)
          conjunction := by
            rw [Entries.get?_insert, Entries.get?_insert, alike.conjunction]
          clauses := alike.clauses
        }
  | _ :: _ :: _ =>
      exact asClauses

/-- The documents of drafts that are alike hold of the same documents. -/
theorem Draft.Alike.matches_finish
    (document : Document) :
    document.matches draft.finish = document.matches draftToo.finish := by
  have entries : List.Forall₂ EntryAlike draft.finish draftToo.finish := by
    unfold finish
    rw [Entries.isEmpty_eq_of_forall₂ alike.clauses, alike.conjunction]
    split
    · exact alike.entries
    · split
      next present _ =>
        have joined := List.rel_append (clausesAlike_refl present) alike.clauses
        exact insert_entriesAlike alike.entries (entryAlike_conjunction joined)
      next =>
        exact insert_entriesAlike alike.entries
          (entryAlike_conjunction alike.clauses)
  exact filterHolds_congr
    (entries.imp fun _ _ entryAlike => entryAlike.2 document)

end DocumentCompiler

end PolyQuery
