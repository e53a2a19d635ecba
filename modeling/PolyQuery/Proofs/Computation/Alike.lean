import PolyQuery.Proofs.Computation.Except
import PolyQuery.Proofs.Computation.Stateful

namespace PolyQuery

/-!
# Computations that run alike

Two computations run alike if both fail, with causes that stand for each other,
or both succeed, with values that do. Sequences and traversals of steps that
run alike run alike. Stateful computations that run alike also lead states that
stand for each other to such states, be it that they succeed or that they fail.
-/

namespace Failing

variable {ε δ α β γ ζ : Type}

/-- Both computations fail, or both succeed. -/
inductive Alike
    (causes : ε → δ → Prop)
    (values : α → β → Prop) :
    Except ε α →
    Except δ β →
    Prop where
  | error
      {cause : ε}
      {other : δ}
      (related : causes cause other) :
      Alike causes values (.error cause) (.error other)
  | ok
      {value : α}
      {other : β}
      (related : values value other) :
      Alike causes values (.ok value) (.ok other)

variable
  {causes : ε → δ → Prop}
  {values : α → β → Prop}
  {laterValues : γ → ζ → Prop}

theorem Alike.bind
    {first : Except ε α}
    {second : Except δ β}
    {next : α → Except ε γ}
    {nextToo : β → Except δ ζ}
    (firstAlike : Alike causes values first second)
    (nextAlike :
      ∀ value other, values value other →
        Alike causes laterValues (next value) (nextToo other)) :
    Alike causes laterValues (first >>= next) (second >>= nextToo) := by
  cases firstAlike with
  | error related =>
      exact .error related
  | ok related =>
      exact nextAlike _ _ related

theorem Alike.map
    {first : Except ε α}
    {second : Except δ β}
    {change : α → γ}
    {changeToo : β → ζ}
    (firstAlike : Alike causes values first second)
    (changedAlike :
      ∀ value other,
        values value other → laterValues (change value) (changeToo other)) :
    Alike causes laterValues (first.map change) (second.map changeToo) := by
  cases firstAlike with
  | error related =>
      exact .error related
  | ok related =>
      exact .ok (changedAlike _ _ related)

theorem Alike.imp
    {otherValues : α → β → Prop}
    {first : Except ε α}
    {second : Except δ β}
    (alike : Alike causes values first second)
    (weaker : ∀ value other, values value other → otherValues value other) :
    Alike causes otherValues first second := by
  cases alike with
  | error related =>
      exact .error related
  | ok related =>
      exact .ok (weaker _ _ related)

/-- Computations that run alike with equal values answer the same values. -/
theorem Alike.eq_ok_iff
    {first : Except ε α}
    {second : Except δ α}
    (alike : Alike causes Eq first second)
    (value : α) :
    first = .ok value ↔ second = .ok value := by
  cases alike with
  | error =>
      simp
  | ok related =>
      rw [related]
      simp

/--
A computation runs like itself where its causes and values stand for themselves.
-/
theorem Alike.refl
    {causes : ε → ε → Prop}
    {values : α → α → Prop}
    {computation : Except ε α}
    (causesRefl : ∀ cause, causes cause cause)
    (valuesRefl : ∀ value, computation = .ok value → values value value) :
    Alike causes values computation computation := by
  cases computation with
  | error cause =>
      exact .error (causesRefl cause)
  | ok value =>
      exact .ok (valuesRefl value rfl)

/--
A step that both computations share is followed by steps that run
alike for its value.
-/
theorem Alike.after
    {causes : ε → ε → Prop}
    (causesRefl : ∀ cause, causes cause cause)
    {shared : Except ε α}
    {next : α → Except ε γ}
    {nextToo : α → Except ε ζ}
    (nextAlike :
      ∀ value, shared = .ok value →
        Alike causes laterValues (next value) (nextToo value)) :
    Alike causes laterValues (shared >>= next) (shared >>= nextToo) := by
  cases shared with
  | error cause =>
      exact .error (causesRefl cause)
  | ok value =>
      exact nextAlike value rfl

/--
Traversals of lists whose items are computed alike, one by one, run alike.
-/
theorem Alike.mapM
    {items : γ → ζ → Prop}
    {compute : γ → Except ε α}
    {computeToo : ζ → Except δ β}
    {lefts : List γ}
    {rights : List ζ}
    (related : List.Forall₂ items lefts rights)
    (computedAlike :
      ∀ left right, items left right →
        Alike causes values (compute left) (computeToo right)) :
    Alike causes (List.Forall₂ values) (lefts.mapM compute)
      (rights.mapM computeToo) := by
  induction related with
  | nil =>
      exact .ok .nil
  | cons headRelated _ inductionHypothesis =>
      simp only [List.mapM_cons]
      refine (computedAlike _ _ headRelated).bind
        fun value other valueRelated => ?_
      refine inductionHypothesis.bind fun rest others restRelated => ?_
      exact .ok (.cons valueRelated restRelated)

/-- Traversals of one list run alike if both compute alike at every item. -/
theorem Alike.mapM_of_mem
    {compute : γ → Except ε α}
    {computeToo : γ → Except δ β}
    {items : List γ}
    (computedAlike :
      ∀ item ∈ items, Alike causes values (compute item) (computeToo item)) :
    Alike causes (List.Forall₂ values) (items.mapM compute)
      (items.mapM computeToo) := by
  have related :
      List.Forall₂ (fun left right => left = right ∧ left ∈ items) items
        items :=
    List.forall₂_same.mpr fun _ member => ⟨rfl, member⟩
  refine Alike.mapM related ?_
  rintro item _ ⟨rfl, member⟩
  exact computedAlike item member

end Failing

namespace Stateful

open Failing

variable
  {σ τ α β γ ζ : Type}
  {states : σ → τ → Prop}
  {causes : QueryError → QueryError → Prop}
  {values : α → β → Prop}
  {laterValues : γ → ζ → Prop}

/--
Run from states that stand for each other, both computations do alike
and leave such states.
-/
def RunsAlike
    (states : σ → τ → Prop)
    (causes : QueryError → QueryError → Prop)
    (values : α → β → Prop)
    (first : Stateful σ α)
    (second : Stateful τ β) :
    Prop :=
  ∀ state other, states state other →
    Alike causes values (first.runFrom state).1 (second.runFrom other).1 ∧
      states (first.runFrom state).2 (second.runFrom other).2

theorem runsAlike_ofExcept
    {result : Except QueryError α}
    {resultToo : Except QueryError β}
    (alike : Alike causes values result resultToo) :
    RunsAlike states causes values (ofExcept result) (ofExcept resultToo) :=
  fun _ _ related => ⟨alike, related⟩

theorem runsAlike_pure
    {value : α}
    {other : β}
    (related : values value other) :
    RunsAlike states causes values (pure value) (pure other) :=
  runsAlike_ofExcept (.ok related)

theorem runsAlike_throw
    {cause other : QueryError}
    (related : causes cause other) :
    RunsAlike states causes values (throw cause) (throw other) :=
  runsAlike_ofExcept (.error related)

theorem runsAlike_set
    {state : σ}
    {other : τ}
    (related : states state other) :
    RunsAlike states causes Eq (set state) (set other) :=
  fun _ _ _ => ⟨.ok rfl, related⟩

theorem RunsAlike.bind
    {first : Stateful σ α}
    {second : Stateful τ β}
    {next : α → Stateful σ γ}
    {nextToo : β → Stateful τ ζ}
    (firstAlike : RunsAlike states causes values first second)
    (nextAlike :
      ∀ value other, values value other →
        RunsAlike states causes laterValues (next value) (nextToo other)) :
    RunsAlike states causes laterValues (first >>= next)
      (second >>= nextToo) := by
  intro state other related
  obtain ⟨alike, leftRelated⟩ := firstAlike state other related
  rw [runFrom_bind, runFrom_bind]
  cases ran : first.runFrom state with
  | mk result changed =>
      cases ranToo : second.runFrom other with
      | mk resultToo changedToo =>
          rw [ran, ranToo] at alike leftRelated
          cases alike with
          | error causesRelated =>
              exact ⟨.error causesRelated, leftRelated⟩
          | ok valuesRelated =>
              exact nextAlike _ _ valuesRelated _ _ leftRelated

section Beside

variable {ρ : Type}

/-- States that stand for each other, each beside the same. -/
def Beside
    (states : σ → τ → Prop)
    (state : σ × ρ)
    (other : τ × ρ) :
    Prop :=
  states state.1 other.1 ∧ state.2 = other.2

theorem runsAlike_of_beside
    {first : Stateful (σ × ρ) α}
    {second : Stateful (τ × ρ) β}
    (alike :
      ∀ state other beside, states state other →
        Alike causes values (first.runFrom (state, beside)).1
            (second.runFrom (other, beside)).1 ∧
          Beside states (first.runFrom (state, beside)).2
            (second.runFrom (other, beside)).2) :
    RunsAlike (Beside states) causes values first second := by
  rintro ⟨state, beside⟩ ⟨other, _⟩ ⟨related, sameBeside⟩
  cases sameBeside
  exact alike state other beside related

/--
What reads its state first runs alike if it does so for all states that
stand for each other.
-/
theorem runsAlike_get_bind
    {next : σ × ρ → Stateful (σ × ρ) α}
    {nextToo : τ × ρ → Stateful (τ × ρ) β}
    (nextAlike :
      ∀ state other beside, states state other →
        RunsAlike (Beside states) causes values (next (state, beside))
          (nextToo (other, beside))) :
    RunsAlike (Beside states) causes values (get >>= next) (get >>= nextToo) :=
  runsAlike_of_beside fun state other beside related =>
    nextAlike state other beside related (state, beside) (other, beside)
      ⟨related, rfl⟩

end Beside

end Stateful

end PolyQuery
