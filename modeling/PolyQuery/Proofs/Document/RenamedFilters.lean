import PolyQuery.Proofs.Computation.Alike
import PolyQuery.Proofs.Document.Evaluation
import PolyQuery.Proofs.Document.RenamedKeys

namespace PolyQuery

/-!
# Renamed filters

A filter document is renamed by renaming the keys of its conditions, also in
the clauses that it combines; operators and connectives keep their names. It
holds of a renamed document exactly if it did of the document itself.
-/

namespace Matching

/--
The same condition under a renamed key, or the same
combination of renamed clauses.
-/
inductive EntryRenamed
    (names : String → String → Prop) :
    String × Json →
    String × Json →
    Prop where
  | condition
      {key other : String}
      (sameKey : names key other)
      (asked : Json) :
      EntryRenamed names (key, asked) (other, asked)
  | combination
      {key : String}
      (marked : Operator.isMarked key = true)
      {clauses clausesToo : List Document}
      (renamed :
        List.Forall₂ (List.Forall₂ (EntryRenamed names)) clauses clausesToo) :
      EntryRenamed names (key, .array (clauses.map Json.object))
        (key, .array (clausesToo.map Json.object))

/--
What holds of renamed conditions, and of combinations if in their
clauses, always holds.
-/
theorem EntryRenamed.inductionOn
    {names : String → String → Prop}
    {motive : String × Json → String × Json → Prop}
    (condition :
      ∀ key other asked, names key other → motive (key, asked) (other, asked))
    (combination :
      ∀ (key : String) (clauses clausesToo : List Document),
        Operator.isMarked key = true →
        List.Forall₂ (List.Forall₂ motive) clauses clausesToo →
          motive (key, .array (clauses.map Json.object))
            (key, .array (clausesToo.map Json.object)))
    {entry entryToo : String × Json}
    (renamed : EntryRenamed names entry entryToo) :
    motive entry entryToo :=
  @EntryRenamed.rec names (fun first second _ => motive first second)
    (fun first second _ => List.Forall₂ (List.Forall₂ motive) first second)
    (fun first second _ => List.Forall₂ motive first second)
    (fun sameKey asked => condition _ _ asked sameKey)
    (fun marked _ _ _ clausesHold => combination _ _ _ marked clausesHold)
    .nil (fun _ _ first rest => .cons first rest)
    .nil (fun _ _ first rest => .cons first rest) entry entryToo renamed

end Matching

open Matching

/-- Filter documents with renamed keys. -/
abbrev Document.FilterRenamed
    (names : String → String → Prop) :
    Document →
    Document →
    Prop :=
  List.Forall₂ (EntryRenamed names)

namespace Matching

section Evaluation

variable
  {document documentToo : Document}

theorem filterHolds_congr
    {filter filterToo : Document}
    (entriesAlike :
      List.Forall₂
        (fun entry entryToo =>
          entryHolds document entry.1 entry.2 =
            entryHolds documentToo entryToo.1 entryToo.2)
        filter filterToo) :
    filterHolds document filter = filterHolds documentToo filterToo := by
  induction entriesAlike with
  | nil =>
      rfl
  | @cons entry entryToo _ _ headAlike _ inductionHypothesis =>
      obtain ⟨key, condition⟩ := entry
      obtain ⟨keyToo, conditionToo⟩ := entryToo
      rw [filterHolds, filterHolds, headAlike, inductionHypothesis]

theorem anyDecides_congr
    (connective : Connective)
    {clauses clausesToo : List Document}
    (clausesAlike :
      List.Forall₂
        (fun clause clauseToo =>
          filterHolds document clause = filterHolds documentToo clauseToo)
        clauses clausesToo) :
    anyDecides document connective (clauses.map Json.object) =
      anyDecides documentToo connective (clausesToo.map Json.object) := by
  induction clausesAlike with
  | nil =>
      rfl
  | cons headAlike _ inductionHypothesis =>
      rw [List.map_cons, List.map_cons, anyDecides, anyDecides, clauseHolds,
        clauseHolds, headAlike, inductionHypothesis]

theorem all_isObject
    (clauses : List Document) :
    (clauses.map Json.object).all Json.isObject = true := by
  rw [List.all_map]
  exact List.all_eq_true.mpr fun _ _ => rfl

variable
  {names : String → String → Prop}
  (faithful : FaithfulRenaming names)
  (renamed : document.Renamed names documentToo)

include faithful renamed

/--
A renamed entry holds of the renamed document exactly if the entry
does of the document.
-/
theorem entryHolds_eq
    {entry entryToo : String × Json}
    (entryRenamed : EntryRenamed names entry entryToo) :
    entryHolds document entry.1 entry.2 =
      entryHolds documentToo entryToo.1 entryToo.2 := by
  refine entryRenamed.inductionOn
    (motive := fun entry entryToo =>
      entryHolds document entry.1 entry.2 =
        entryHolds documentToo entryToo.1 entryToo.2) ?_ ?_
  · intro key other asked sameKey
    obtain ⟨keyUnmarked, otherUnmarked⟩ := faithful.unmarked key other sameKey
    dsimp only
    rw [entryHolds_path keyUnmarked, entryHolds_path otherUnmarked,
      renamed.lookup?_eq faithful sameKey]
  · intro key clauses clausesToo marked clausesAlike
    have filtersAlike :
        List.Forall₂
          (fun clause clauseToo =>
            filterHolds document clause = filterHolds documentToo clauseToo)
          clauses clausesToo :=
      clausesAlike.imp fun _ _ => filterHolds_congr
    rw [entryHolds, entryHolds, all_isObject, all_isObject]
    cases Connective.ofKey? key with
    | none =>
        rw [marked]
        rfl
    | some connective =>
        dsimp only
        rw [anyDecides_congr connective filtersAlike]

end Evaluation

end Matching

/-- A renamed key, or the same operator. -/
def SameFilterKey
    (names : String → String → Prop)
    (key other : String) :
    Prop :=
  names key other ∨ (key = other ∧ Operator.isMarked key = true)

theorem sameFilterKey_oneToOne
    {names : String → String → Prop}
    (faithful : FaithfulRenaming names) :
    Relator.BiUnique (SameFilterKey names) := by
  have unmarked := faithful.unmarked
  constructor
  · rintro key keyToo other (sameKey | ⟨rfl, marked⟩)
      (sameKeyToo | ⟨rfl, markedToo⟩)
    · exact faithful.oneToOne.1 sameKey sameKeyToo
    · rw [(unmarked key keyToo sameKey).2] at markedToo
      cases markedToo
    · rw [(unmarked keyToo key sameKeyToo).2] at marked
      cases marked
    · rfl
  · rintro key other otherToo (sameKey | ⟨rfl, marked⟩)
      (sameKeyToo | ⟨rfl, markedToo⟩)
    · exact faithful.oneToOne.2 sameKey sameKeyToo
    · rw [(unmarked key other sameKey).1] at markedToo
      cases markedToo
    · rw [(unmarked key otherToo sameKeyToo).1] at marked
      cases marked
    · rfl

namespace Document.FilterRenamed

variable
  {names : String → String → Prop}
  (faithful : FaithfulRenaming names)
  {filter filterToo : Document}
  (filterRenamed : filter.FilterRenamed names filterToo)

include faithful filterRenamed

theorem matches_eq
    {document documentToo : Document}
    (renamed : document.Renamed names documentToo) :
    document.matches filter = documentToo.matches filterToo :=
  filterHolds_congr
    (filterRenamed.imp fun _ _ => entryHolds_eq faithful renamed)

/--
A renamed filter has an entry under a renamed key exactly if the filter
has it under the key.
-/
theorem contains_eq
    {key other : String}
    (sameKey : SameFilterKey names key other) :
    filter.contains key = filterToo.contains other := by
  have keysAlike :
      Entries.Alike (SameFilterKey names) (fun _ _ => True) filter
        filterToo := by
    refine filterRenamed.imp fun entry entryToo entryRenamed => ⟨?_, trivial⟩
    cases entryRenamed with
    | condition entryKey _ =>
        exact .inl entryKey
    | combination marked _ =>
        exact .inr ⟨rfl, marked⟩
  exact keysAlike.contains_eq (sameFilterKey_oneToOne faithful) sameKey

/-- The equalities of a renamed filter are the renamed equalities. -/
theorem upsertSeed :
    (Collection.upsertSeed filter).Renamed names
      (Collection.upsertSeed filterToo) := by
  induction filterRenamed with
  | nil =>
      exact .nil
  | cons entryRenamed _ inductionHypothesis =>
      unfold Collection.upsertSeed at inductionHypothesis ⊢
      cases entryRenamed with
      | @condition key other sameKey asked =>
          obtain ⟨keyUnmarked, otherUnmarked⟩ :=
            faithful.unmarked key other sameKey
          have sameSeed :
              Collection.isSeed key asked = Collection.isSeed other asked := by
            unfold Collection.isSeed
            rw [keyUnmarked, otherUnmarked]
          rw [List.filter_cons, List.filter_cons]
          dsimp only
          rw [sameSeed]
          split
          · exact .cons ⟨sameKey, rfl⟩ inductionHypothesis
          · exact inductionHypothesis
      | @combination key marked clauses clausesToo _ =>
          have notSeed : ∀ asked, Collection.isSeed key asked = false := by
            intro asked
            unfold Collection.isSeed
            rw [if_pos marked]
          rw [List.filter_cons, List.filter_cons, notSeed, notSeed]
          exact inductionHypothesis

end Document.FilterRenamed

end PolyQuery
