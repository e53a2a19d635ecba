import Mathlib.Data.List.Forall2
import PolyQuery.QueryError

namespace PolyQuery.Failing

/-!
# Failing computations

Laws of computations that answer a value or the cause of their failure. A
sequence succeeds exactly if its steps do, a traversal exactly if it does at
every item, and the verdict of a computation forgets the value but keeps the
cause.
-/

variable {ε α β : Type}

/--
A sequence succeeds exactly if its first step does and the next one
does with its value.
-/
theorem bind_eq_ok
    {first : Except ε α}
    {next : α → Except ε β}
    {result : β} :
    first >>= next = .ok result ↔
      ∃ value, first = .ok value ∧ next value = .ok result := by
  cases first <;> simp [bind, Except.bind]

theorem map_eq_ok
    {computation : Except ε α}
    {change : α → β}
    {result : β} :
    computation.map change = .ok result ↔
      ∃ value, computation = .ok value ∧ change value = result := by
  cases computation <;> simp [Except.map]

/-- A traversal succeeds exactly with the value of every item. -/
theorem mapM_eq_ok
    {compute : α → Except ε β}
    {items : List α}
    {results : List β} :
    items.mapM compute = .ok results ↔
      List.Forall₂ (fun item result => compute item = .ok result) items
        results := by
  induction items generalizing results with
  | nil =>
      cases results <;> simp [pure, Except.pure]
  | cons item rest inductionHypothesis =>
      simp only [List.mapM_cons, bind_eq_ok]
      constructor
      · rintro ⟨value, computed, values, traversed, same⟩
        cases same
        exact .cons computed (inductionHypothesis.mp traversed)
      · intro related
        cases related with
        | cons computed remaining =>
            exact ⟨_, computed, _, inductionHypothesis.mpr remaining, rfl⟩

/--
Of two lists that are related item by item, each item of the
first has a partner.
-/
theorem exists_right_of_mem
    {related : α → β → Prop}
    {items : List α}
    {results : List β}
    (allRelated : List.Forall₂ related items results)
    {item : α}
    (member : item ∈ items) :
    ∃ result, result ∈ results ∧ related item result := by
  induction allRelated with
  | nil =>
      cases member
  | cons headRelated _ inductionHypothesis =>
      rcases List.mem_cons.mp member with isHead | inRest
      · subst item
        exact ⟨_, List.mem_cons_self, headRelated⟩
      · obtain ⟨result, resultMember, isRelated⟩ := inductionHypothesis inRest
        exact ⟨result, List.mem_cons_of_mem _ resultMember, isRelated⟩

theorem exists_left_of_mem
    {related : α → β → Prop}
    {items : List α}
    {results : List β}
    (allRelated : List.Forall₂ related items results)
    {result : β}
    (member : result ∈ results) :
    ∃ item, item ∈ items ∧ related item result :=
  exists_right_of_mem allRelated.flip member

theorem exists_item_of_mem_mapM
    {compute : α → Except ε β}
    {items : List α}
    {results : List β}
    (traversed : items.mapM compute = .ok results)
    {result : β}
    (member : result ∈ results) :
    ∃ item, item ∈ items ∧ compute item = .ok result :=
  exists_left_of_mem (mapM_eq_ok.mp traversed) member

theorem exists_result_of_mem_mapM
    {compute : α → Except ε β}
    {items : List α}
    {results : List β}
    (traversed : items.mapM compute = .ok results)
    {item : α}
    (member : item ∈ items) :
    ∃ result, result ∈ results ∧ compute item = .ok result :=
  exists_right_of_mem (mapM_eq_ok.mp traversed) member

/--
What holds of every result of a traversal holds, item by item, of
all that was traversed.
-/
theorem forall_mem_mapM_iff
    {compute : α → Except ε β}
    {items : List α}
    {results : List β}
    {ofResult : β → Prop}
    {ofItem : α → Prop}
    (traversed : items.mapM compute = .ok results)
    (agree :
      ∀ item ∈ items, ∀ result, compute item = .ok result →
        (ofResult result ↔ ofItem item)) :
    (∀ result ∈ results, ofResult result) ↔ ∀ item ∈ items, ofItem item := by
  constructor
  · intro allResults item member
    obtain ⟨result, resultMember, computed⟩ :=
      exists_result_of_mem_mapM traversed member
    exact (agree item member result computed).mp
      (allResults result resultMember)
  · intro allItems result member
    obtain ⟨item, itemMember, computed⟩ :=
      exists_item_of_mem_mapM traversed member
    exact (agree item itemMember result computed).mpr (allItems item itemMember)

theorem mapM_eq_nil_iff
    {compute : α → Except ε β}
    {items : List α}
    {results : List β}
    (traversed : items.mapM compute = .ok results) :
    results = [] ↔ items = [] := by
  have sameLength := (mapM_eq_ok.mp traversed).length_eq
  rw [← List.length_eq_zero_iff, ← List.length_eq_zero_iff, sameLength]

/-- Whether a computation succeeds, and the cause if it does not. -/
def verdict
    (computation : Except ε α) :
    Except ε Unit :=
  computation.map fun _ => ()

@[simp] theorem verdict_error
    (cause : ε) :
    verdict (.error cause : Except ε α) = .error cause :=
  rfl

/--
The verdict on a sequence whose second step is judged alike for
every value of the first.
-/
theorem verdict_bind
    {first : Except ε α}
    {next : α → Except ε β}
    {judged : Except ε Unit}
    (judgedAlike : ∀ value, first = .ok value → verdict (next value) = judged) :
    verdict (first >>= next) = verdict first >>= fun _ => judged := by
  cases first with
  | error cause =>
      rfl
  | ok value =>
      exact judgedAlike value rfl

theorem verdict_bind_pure
    (computation : Except ε α)
    (change : α → β) :
    verdict (computation >>= fun value => pure (change value)) =
      verdict computation := by
  cases computation <;> rfl

/-- A traversal fails where its first failing item does. -/
theorem verdict_mapM
    (compute : α → Except ε β)
    (items : List α) :
    verdict (items.mapM compute) =
      items.forM fun item => verdict (compute item) := by
  induction items with
  | nil =>
      rfl
  | cons item rest inductionHypothesis =>
      simp only [List.mapM_cons]
      apply verdict_bind
      intro value computed
      rw [← inductionHypothesis]
      cases rest.mapM compute <;> rfl

/-- Two ways to judge items that agree on each of them agree on all together. -/
theorem forM_congr_of_mem
    {judge judgeToo : α → Except ε Unit}
    {items : List α}
    (judgedAlike : ∀ item ∈ items, judge item = judgeToo item) :
    items.forM judge = items.forM judgeToo := by
  induction items with
  | nil =>
      rfl
  | cons item rest inductionHypothesis =>
      obtain ⟨headAlike, restAlike⟩ := List.forall_mem_cons.mp judgedAlike
      simp only [List.forM_eq_forM, List.forM_cons, headAlike]
        at inductionHypothesis ⊢
      rw [inductionHypothesis restAlike]

/-- Items that are all judged well are judged well together. -/
theorem forM_eq_ok
    {judge : α → Except ε Unit}
    {items : List α}
    (judgedWell : ∀ item ∈ items, judge item = .ok ()) :
    items.forM judge = .ok () := by
  induction items with
  | nil =>
      rfl
  | cons item rest inductionHypothesis =>
      obtain ⟨headWell, restWell⟩ := List.forall_mem_cons.mp judgedWell
      simp only [List.forM_eq_forM, List.forM_cons, headWell]
        at inductionHypothesis ⊢
      exact inductionHypothesis restWell

/-- What judges all items well judges each of them well. -/
theorem judged_of_forM_eq_ok
    {judge : α → Except ε Unit}
    {items : List α}
    (judgedWell : items.forM judge = .ok ()) :
    ∀ item ∈ items, judge item = .ok () := by
  induction items with
  | nil =>
      nofun
  | cons item rest inductionHypothesis =>
      simp only [List.forM_eq_forM, List.forM_cons]
        at judgedWell inductionHypothesis
      obtain ⟨_, headWell, restWell⟩ := bind_eq_ok.mp judgedWell
      exact List.forall_mem_cons.mpr ⟨headWell, inductionHypothesis restWell⟩

/--
Items that are not judged well together fail for the cause of one of them.
-/
theorem exists_mem_of_forM_eq_error
    {judge : α → Except ε Unit}
    {items : List α}
    {cause : ε}
    (failed : items.forM judge = .error cause) :
    ∃ item ∈ items, judge item = .error cause := by
  induction items with
  | nil =>
      cases failed
  | cons item rest inductionHypothesis =>
      simp only [List.forM_eq_forM, List.forM_cons]
        at failed inductionHypothesis
      cases headJudged : judge item with
      | error headCause =>
          rw [headJudged] at failed
          cases failed
          exact ⟨item, List.mem_cons_self, headJudged⟩
      | ok =>
          rw [headJudged] at failed
          obtain ⟨later, member, laterFailed⟩ := inductionHypothesis failed
          exact ⟨later, List.mem_cons_of_mem item member, laterFailed⟩

/-- Lists of items are judged one after the other as all of their items are. -/
theorem forM_flatMap
    {judge : β → Except ε Unit}
    {parts : α → List β}
    (items : List α) :
    (items.flatMap parts).forM judge = items.forM fun item =>
      (parts item).forM judge := by
  induction items with
  | nil =>
      rfl
  | cons item rest inductionHypothesis =>
      simp only [List.forM_eq_forM, List.flatMap_cons, List.forM_append,
        List.forM_cons]
        at inductionHypothesis ⊢
      rw [inductionHypothesis]

theorem verdict_eq_error_iff
    {computation : Except ε α}
    {cause : ε} :
    verdict computation = .error cause ↔ computation = .error cause := by
  cases computation <;> simp [verdict, Except.map]

theorem verdict_eq_ok_iff
    {computation : Except ε α} :
    verdict computation = .ok () ↔ ∃ value, computation = .ok value := by
  cases computation <;> simp [verdict, Except.map]

/-- Two computations with one verdict fail with one cause, or both succeed. -/
theorem both_of_verdict_eq
    {first : Except ε α}
    {second : Except ε β}
    (same : verdict first = verdict second) :
    (∃ cause, first = .error cause ∧ second = .error cause) ∨
      ∃ left right, first = .ok left ∧ second = .ok right := by
  cases first with
  | error cause =>
      cases second with
      | error other =>
          simp only [verdict_error, Except.error.injEq] at same
          exact .inl ⟨cause, rfl, by rw [same]⟩
      | ok right =>
          cases same
  | ok left =>
      cases second with
      | error other =>
          cases same
      | ok right =>
          exact .inr ⟨left, right, rfl, rfl⟩

end PolyQuery.Failing
