import PolyQuery.QueryError

namespace PolyQuery.Stateful

/-!
# Running stateful computations

A run of a sequence is the run of its first step and, if that succeeds, the run
of the next one from the state that the first step left. So what every step
leaves true of the state, a sequence leaves true.
-/

variable {σ α β : Type}

@[simp] theorem runFrom_pure
    (value : α)
    (state : σ) :
    (pure value : Stateful σ α).runFrom state = (.ok value, state) :=
  rfl

@[simp] theorem runFrom_ofExcept
    (result : Except QueryError α)
    (state : σ) :
    (ofExcept result : Stateful σ α).runFrom state = (result, state) :=
  rfl

@[simp] theorem runFrom_get
    (state : σ) :
    (get : Stateful σ σ).runFrom state = (.ok state, state) :=
  rfl

@[simp] theorem runFrom_modify
    (change : σ → σ)
    (state : σ) :
    (modify change : Stateful σ PUnit).runFrom state =
      (.ok PUnit.unit, change state) :=
  rfl

/--
A sequence goes on with the value and the state that its first step ends with.
-/
theorem runFrom_bind
    (first : Stateful σ α)
    (next : α → Stateful σ β)
    (state : σ) :
    (first >>= next).runFrom state =
      match first.runFrom state with
      | (.ok value, changed) => (next value).runFrom changed
      | (.error cause, changed) => (.error cause, changed) := by
  simp only [runFrom, ExceptT.run_bind, StateT.run_bind]
  cases first.run.run state with
  | mk result changed =>
      cases result <;> rfl

/-- A sequence that succeeds does so step by step. -/
theorem runFrom_bind_eq_ok
    {first : Stateful σ α}
    {next : α → Stateful σ β}
    {state after : σ}
    {result : β}
    (ran : (first >>= next).runFrom state = (.ok result, after)) :
    ∃ value between, first.runFrom state = (.ok value, between) ∧
      (next value).runFrom between = (.ok result, after) := by
  rw [runFrom_bind] at ran
  cases started : first.runFrom state with
  | mk outcome between =>
      rw [started] at ran
      cases outcome with
      | error cause => cases ran
      | ok value => exact ⟨value, between, rfl, ran⟩

/-- A sequence that fails does so at its first step, or behind it. -/
theorem runFrom_bind_eq_error
    {first : Stateful σ α}
    {next : α → Stateful σ β}
    {state after : σ}
    {cause : QueryError}
    (failed : (first >>= next).runFrom state = (.error cause, after)) :
    first.runFrom state = (.error cause, after) ∨
      ∃ value between, first.runFrom state = (.ok value, between) ∧
        (next value).runFrom between = (.error cause, after) := by
  rw [runFrom_bind] at failed
  cases started : first.runFrom state with
  | mk outcome between =>
      rw [started] at failed
      cases outcome with
      | error other =>
          cases failed
          exact .inl rfl
      | ok value => exact .inr ⟨value, between, rfl, failed⟩

@[simp] theorem runFrom_map
    (change : α → β)
    (action : Stateful σ α)
    (state : σ) :
    (change <$> action).runFrom state =
      ((action.runFrom state).1.map change, (action.runFrom state).2) := by
  simp only [runFrom, ExceptT.run_map, StateT.run_map]
  cases action.run.run state with
  | mk result changed =>
      cases result <;> rfl

@[simp] theorem runFrom_set
    (replacement state : σ) :
    (set replacement : Stateful σ PUnit).runFrom state =
      (.ok PUnit.unit, replacement) :=
  rfl

@[simp] theorem runFrom_throw
    (cause : QueryError)
    (state : σ) :
    (throw cause : Stateful σ α).runFrom state = (.error cause, state) :=
  rfl

theorem runFrom_bind_pure
    (action : Stateful σ α)
    (answer : α → β)
    (state : σ) :
    (action >>= fun value => pure (answer value)).runFrom state =
      ((action.runFrom state).1.map answer, (action.runFrom state).2) := by
  rw [bind_pure_comp, runFrom_map]

/-- A computation fails alike whatever is made of its answer. -/
theorem runFrom_bind_pure_eq_error
    {action : Stateful σ α}
    {answer : α → β}
    {state after : σ}
    {cause : QueryError} :
    (action >>= fun value => pure (answer value)).runFrom state =
        (.error cause, after) ↔
      action.runFrom state = (.error cause, after) := by
  rw [runFrom_bind_pure]
  cases action.runFrom state with
  | mk result changed =>
      cases result <;> simp [Except.map]

/-- A computation succeeds whatever is made of its answer. -/
theorem runFrom_bind_pure_eq_ok
    {action : Stateful σ α}
    {answer : α → β}
    {state after : σ}
    {result : β} :
    (action >>= fun value => pure (answer value)).runFrom state =
        (.ok result, after) ↔
      ∃ value,
        action.runFrom state = (.ok value, after) ∧ answer value = result := by
  rw [runFrom_bind_pure]
  cases action.runFrom state with
  | mk outcome changed =>
      cases outcome with
      | error cause =>
          simp [Except.map]
      | ok value =>
          constructor
          · intro same
            cases same
            exact ⟨value, rfl, rfl⟩
          · rintro ⟨_, same, rfl⟩
            cases same
            rfl

/--
Steps taken in turn that fail do so at one of them, from the state that
those before it left.
-/
theorem runFrom_foldlM_error
    {step : β → α → Stateful σ β}
    {items : List α}
    {start : β}
    {state after : σ}
    {cause : QueryError}
    (failed : (items.foldlM step start).runFrom state = (.error cause, after)) :
    ∃ done item value reached,
      items[done]? = some item ∧
        ((items.take done).foldlM step start).runFrom state =
            (.ok value, reached) ∧
          (step value item).runFrom reached = (.error cause, after) := by
  induction items generalizing start state with
  | nil =>
      cases failed
  | cons item rest inductionHypothesis =>
      rw [List.foldlM_cons] at failed
      rcases runFrom_bind_eq_error failed with
          stepped | ⟨value, changed, stepped, further⟩
      · exact ⟨0, item, start, state, rfl, rfl, stepped⟩
      · obtain ⟨done, later, reachedValue, reached, isLater, ran,
            laterFailed⟩ :=
          inductionHypothesis further
        refine ⟨done + 1, later, reachedValue, reached, isLater, ?_,
          laterFailed⟩
        rw [List.take_succ_cons, List.foldlM_cons, runFrom_bind, stepped]
        exact ran

/--
A computation leaves a property of its state true, whether it succeeds or fails.
-/
def Keeps
    (action : Stateful σ α)
    (property : σ → Prop) :
    Prop :=
  ∀ state, property state → property (action.runFrom state).2

theorem keeps_pure
    (value : α)
    (property : σ → Prop) :
    Keeps (pure value : Stateful σ α) property :=
  fun _ held => held

theorem keeps_ofExcept
    (result : Except QueryError α)
    (property : σ → Prop) :
    Keeps (ofExcept result) property :=
  fun _ held => held

theorem keeps_get
    (property : σ → Prop) :
    Keeps (get : Stateful σ σ) property :=
  fun _ held => held

/-- A sequence leaves a property true if each of its steps does. -/
theorem keeps_bind
    {first : Stateful σ α}
    {next : α → Stateful σ β}
    {property : σ → Prop}
    (firstKeeps : Keeps first property)
    (nextKeeps : ∀ value, Keeps (next value) property) :
    Keeps (first >>= next) property := by
  intro state held
  have heldAfter := firstKeeps state held
  rw [runFrom_bind]
  cases ran : first.runFrom state with
  | mk result changed =>
      rw [ran] at heldAfter
      cases result with
      | error cause =>
          exact heldAfter
      | ok value =>
          exact nextKeeps value changed heldAfter

theorem keeps_foldlM
    {step : β → α → Stateful σ β}
    {items : List α}
    {property : σ → Prop}
    (stepKeeps : ∀ value, ∀ item ∈ items, Keeps (step value item) property)
    (start : β) :
    Keeps (items.foldlM step start) property := by
  induction items generalizing start with
  | nil =>
      exact keeps_pure start property
  | cons item rest inductionHypothesis =>
      rw [List.foldlM_cons]
      apply keeps_bind (stepKeeps start item List.mem_cons_self)
      intro value
      apply inductionHypothesis
      exact fun value later member =>
        stepKeeps value later (List.mem_cons_of_mem item member)

end PolyQuery.Stateful
