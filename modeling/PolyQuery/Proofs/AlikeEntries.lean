import Mathlib.Data.List.Forall2
import PolyQuery.Proofs.Entries

namespace PolyQuery.Entries

/-!
# Entries alike

Two mappings are alike if their entries, one by one, have names and values that
stand for each other. Where names stand for each other one to one, mappings
that are alike answer alike and stay so when alike entries are stored or erased.
-/

variable {α β : Type}

/-- The entries stand for each other in order. -/
abbrev Alike
    (names : String → String → Prop)
    (values : α → β → Prop) :
    Entries α →
    Entries β →
    Prop :=
  List.Forall₂ fun entry other => names entry.1 other.1 ∧ values entry.2 other.2

variable
  {names : String → String → Prop}
  {values : α → β → Prop}
  {left : Entries α}
  {right : Entries β}
  {key other : String}

theorem Alike.keys_eq
    (alike : Alike Eq values left right) :
    left.keys = right.keys := by
  induction alike with
  | nil =>
      rfl
  | cons headAlike _ inductionHypothesis =>
      rw [keys, List.map_cons, headAlike.1]
      exact congrArg (List.cons _) inductionHypothesis

theorem Alike.values_alike
    (alike : Alike names values left right) :
    List.Forall₂ values left.values right.values := by
  induction alike with
  | nil =>
      exact .nil
  | cons headAlike _ inductionHypothesis =>
      exact .cons headAlike.2 inductionHypothesis

/-- Entries with the same names are alike if their values are. -/
theorem alike_of_keys_eq
    (sameNames : left.keys = right.keys)
    (valuesAlike : List.Forall₂ values left.values right.values) :
    Alike Eq values left right := by
  induction left generalizing right with
  | nil =>
      cases right with
      | nil => exact .nil
      | cons => cases sameNames
  | cons entry rest inductionHypothesis =>
      cases right with
      | nil =>
          cases sameNames
      | cons entryToo others =>
          obtain ⟨sameName, restNames⟩ := List.cons.inj sameNames
          cases valuesAlike with
          | cons valueAlike restAlike =>
              exact .cons ⟨sameName, valueAlike⟩
                (inductionHypothesis restNames restAlike)

section Related

variable
  {γ δ : Type}
  {related : γ → δ → Prop}
  {lefts : List γ}
  {rights : List δ}
  {first : Option γ}
  {second : Option δ}

theorem isSome_eq_of_rel
    (both : Option.Rel related first second) :
    first.isSome = second.isSome := by
  cases both <;> rfl

theorem missing_or_found_of_rel
    (both : Option.Rel related first second) :
    (first = none ∧ second = none) ∨
      ∃ value other,
        first = some value ∧ second = some other ∧ related value other := by
  cases both with
  | none =>
      exact .inl ⟨rfl, rfl⟩
  | some valuesRelated =>
      exact .inr ⟨_, _, rfl, rfl, valuesRelated⟩

theorem isEmpty_eq_of_forall₂
    (all : List.Forall₂ related lefts rights) :
    lefts.isEmpty = rights.isEmpty := by
  cases all <;> rfl

variable (all : List.Forall₂ related lefts rights)

include all

theorem rel_head? :
    Option.Rel related lefts.head? rights.head? := by
  cases all with
  | nil =>
      exact .none
  | cons headRelated _ =>
      exact .some headRelated

theorem rel_getLast? :
    Option.Rel related lefts.getLast? rights.getLast? := by
  rw [← List.head?_reverse, ← List.head?_reverse]
  exact rel_head? (List.rel_reverse all)

theorem forall₂_dropLast :
    List.Forall₂ related lefts.dropLast rights.dropLast := by
  rw [List.dropLast_eq_take, List.dropLast_eq_take, all.length_eq]
  exact List.forall₂_take _ all

end Related

theorem oneToOne_eq :
    Relator.BiUnique (Eq : String → String → Prop) :=
  ⟨fun _ _ _ first second => first.trans second.symm,
    fun _ _ _ first second => first.symm.trans second⟩

variable
  (oneToOne : Relator.BiUnique names)
  (alike : Alike names values left right)
  (sameKey : names key other)

include oneToOne alike sameKey

theorem Alike.get? :
    Option.Rel values (left.get? key) (right.get? other) := by
  induction alike with
  | nil =>
      exact .none
  | @cons entry entryToo _ _ headAlike _ inductionHypothesis =>
      have sameAnswer : entry.1 = key ↔ entryToo.1 = other :=
        Relator.rel_eq oneToOne headAlike.1 sameKey
      rw [get?_cons, get?_cons]
      by_cases isKey : entry.1 = key
      · rw [if_pos isKey, if_pos (sameAnswer.mp isKey)]
        exact .some headAlike.2
      · rw [if_neg isKey, if_neg (mt sameAnswer.mpr isKey)]
        exact inductionHypothesis

theorem Alike.erase :
    Alike names values (left.erase key) (right.erase other) := by
  induction alike with
  | nil =>
      exact .nil
  | @cons entry entryToo rest others headAlike restAlike inductionHypothesis =>
      have sameAnswer : entry.1 = key ↔ entryToo.1 = other :=
        Relator.rel_eq oneToOne headAlike.1 sameKey
      obtain ⟨name, value⟩ := entry
      obtain ⟨nameToo, valueToo⟩ := entryToo
      rw [Entries.erase, Entries.erase]
      by_cases isKey : name = key
      · rw [if_pos isKey, if_pos (sameAnswer.mp isKey)]
        -- The last entry moves into the freed place on both sides.
        have lastsAlike := rel_getLast? restAlike
        generalize rest.getLast? = last at lastsAlike ⊢
        generalize others.getLast? = lastToo at lastsAlike ⊢
        cases lastsAlike with
        | none =>
            exact .nil
        | some lastAlike =>
            exact .cons lastAlike (forall₂_dropLast restAlike)
      · rw [if_neg isKey, if_neg (mt sameAnswer.mpr isKey)]
        exact .cons headAlike inductionHypothesis

theorem Alike.contains_eq :
    left.contains key = right.contains other :=
  isSome_eq_of_rel (alike.get? oneToOne sameKey)

/-- Storing what alike functions make of the values leaves entries alike. -/
theorem Alike.alter
    {update : Option α → α}
    {updateToo : Option β → β}
    (updatedAlike :
      ∀ existing present, Option.Rel values existing present →
        values (update existing) (updateToo present)) :
    Alike names values (left.alter key update)
      (right.alter other updateToo) := by
  induction alike with
  | nil =>
      exact .cons ⟨sameKey, updatedAlike none none .none⟩ .nil
  | @cons entry entryToo _ _ headAlike restAlike inductionHypothesis =>
      have sameAnswer : entry.1 = key ↔ entryToo.1 = other :=
        Relator.rel_eq oneToOne headAlike.1 sameKey
      obtain ⟨name, value⟩ := entry
      obtain ⟨nameToo, valueToo⟩ := entryToo
      rw [Entries.alter, Entries.alter]
      by_cases isKey : name = key
      · rw [if_pos isKey, if_pos (sameAnswer.mp isKey)]
        exact .cons ⟨headAlike.1, updatedAlike _ _ (.some headAlike.2)⟩
          restAlike
      · rw [if_neg isKey, if_neg (mt sameAnswer.mpr isKey)]
        exact .cons headAlike inductionHypothesis

theorem Alike.insert
    {value : α}
    {valueToo : β}
    (sameValue : values value valueToo) :
    Alike names values (left.insert key value) (right.insert other valueToo) :=
  alike.alter oneToOne sameKey fun _ _ _ => sameValue

theorem Alike.insertIfAbsent
    {value : α}
    {valueToo : β}
    (sameValue : values value valueToo) :
    Alike names values (left.insertIfAbsent key value)
      (right.insertIfAbsent other valueToo) := by
  refine alike.alter oneToOne sameKey fun existing present both => ?_
  cases both with
  | none =>
      exact sameValue
  | some sameExisting =>
      exact sameExisting

omit sameKey alike

theorem Alike.insertAll
    {pairs : Entries α}
    {pairsToo : Entries β}
    (alike : Alike names values left right)
    (pairsAlike : Alike names values pairs pairsToo) :
    Alike names values (left.insertAll pairs) (right.insertAll pairsToo) := by
  induction pairsAlike generalizing left right with
  | nil =>
      exact alike
  | cons headAlike _ inductionHypothesis =>
      exact inductionHypothesis (alike.insert oneToOne headAlike.1 headAlike.2)

theorem Alike.ofList
    {pairs : Entries α}
    {pairsToo : Entries β}
    (pairsAlike : Alike names values pairs pairsToo) :
    Alike names values (ofList pairs) (ofList pairsToo) :=
  Alike.insertAll oneToOne .nil pairsAlike

end PolyQuery.Entries
