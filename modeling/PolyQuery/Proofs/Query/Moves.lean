import PolyQuery.Proofs.Query.Walk

namespace PolyQuery.Paginator

/-!
# Moves of a paginator

A move makes for a page, or for none and then answers none and changes nothing.
If it makes for a page, the paginator is put at that page first and fetches it
afterwards. So a move that fails leaves the paginator at the page that it made
for, and everything else of the paginator as it was.

Moves are made one after the other, whether they succeed or fail. Over an
executor whose counts are unsigned 64-bit integers the total is one too, and the
page stays near the first one.
-/

variable {σ : Type}

/-- The paginator at another page. -/
def movedTo
    (paginator : Paginator)
    (page : Nat) :
    Paginator :=
  { paginator with request := { paginator.request with page := page } }

/--
The page that a move makes for: its own, or a neighbour unless there is none.
-/
def Move.target?
    (paginator : Paginator) :
    Move →
    Option Nat
  | .fetch => some paginator.request.page
  | .next =>
      if paginator.request.isUnbounded || paginator.isExhausted then
        none
      else
        some (paginator.request.page + 1)
  | .previous =>
      if paginator.request.page ≤ 1 || paginator.request.isUnbounded then
        none
      else
        some (paginator.request.page - 1)

/-- How far a move goes if it makes for a page. -/
def Move.shift : Move → Int
  | .fetch => 0
  | .next => 1
  | .previous => -1

/-- Going to a page is fetching from there. -/
theorem runFrom_goTo
    (executor : Executor σ)
    (page : Nat)
    (paginator : Paginator)
    (state : σ) :
    (goTo executor page).runFrom (paginator, state) =
      (((fetch executor).runFrom (paginator.movedTo page, state)).1.map some,
        ((fetch executor).runFrom (paginator.movedTo page, state)).2) := by
  rw [goTo, Stateful.runFrom_bind, Stateful.runFrom_modify]
  exact Stateful.runFrom_bind_pure (fetch executor) some
    (paginator.movedTo page, state)

namespace Move

variable
  {executor : Executor σ}
  {move : Move}
  {paginator : Paginator}
  {state : σ}

/-- A move that makes for no page answers none and changes nothing. -/
theorem run_of_untargeted
    (untargeted : move.target? paginator = none) :
    (move.run executor).runFrom (paginator, state) =
      (.ok none, (paginator, state)) := by
  cases move with
  | fetch =>
      cases untargeted
  | next =>
      have stays :
          (paginator.request.isUnbounded || paginator.isExhausted) = true := by
        simpa only [target?, ite_eq_left_iff, reduceCtorEq, imp_false, not_not]
          using untargeted
      simp only [run, Paginator.next, Stateful.runFrom_bind,
        Stateful.runFrom_get, stays]
      rfl
  | previous =>
      have stays :
          (decide (paginator.request.page ≤ 1) ||
            paginator.request.isUnbounded) = true := by
        simpa only [target?, Bool.or_eq_true, decide_eq_true_eq,
          ite_eq_left_iff, reduceCtorEq, imp_false, not_not] using untargeted
      simp only [run, Paginator.previous, Stateful.runFrom_bind,
        Stateful.runFrom_get, stays]
      rfl

/-- A move that makes for a page goes there. -/
theorem run_of_target
    {page : Nat}
    (targeted : move.target? paginator = some page) :
    (move.run executor).runFrom (paginator, state) =
      (goTo executor page).runFrom (paginator, state) := by
  cases move with
  | fetch =>
      cases targeted
      rfl
  | next =>
      simp only [target?, Option.ite_none_left_eq_some] at targeted
      obtain ⟨goesOn, isNext⟩ := targeted
      cases isNext
      simp only [run, Paginator.next, Stateful.runFrom_bind,
        Stateful.runFrom_get, goesOn]
      rfl
  | previous =>
      simp only [target?, Option.ite_none_left_eq_some] at targeted
      obtain ⟨goesOn, isPrevious⟩ := targeted
      cases isPrevious
      simp only [run, Paginator.previous, Stateful.runFrom_bind,
        Stateful.runFrom_get, goesOn]
      rfl

/--
A move makes for the page that its shift leads to, and for none
before the first one.
-/
theorem target_eq
    {page : Nat}
    (targeted : move.target? paginator = some page) :
    (page : Int) = paginator.request.page + move.shift := by
  cases move with
  | fetch =>
      cases targeted
      simp [shift]
  | next =>
      simp only [target?, Option.ite_none_left_eq_some] at targeted
      cases targeted.2
      simp [shift]
  | previous =>
      simp only [target?, Option.ite_none_left_eq_some, Bool.or_eq_true,
        decide_eq_true_eq, not_or, Nat.not_le] at targeted
      obtain ⟨⟨behind, -⟩, isPrevious⟩ := targeted
      cases isPrevious
      simp only [shift]
      omega

end Move

/--
How a total comes to be known: it was known, the rows show
it, or it was counted.
-/
inductive Totalled
    (executor : Executor σ)
    (paginator : Paginator)
    (items : List Document) :
    Nat →
    Prop where
  | known
      {total : Nat}
      (isKnown : paginator.total = some total) :
      Totalled executor paginator items total
  | shown
      (unknown : paginator.total = none) :
      Totalled executor paginator items items.length
  | counted
      {query : Query}
      {before after : σ}
      {total : Nat}
      (unknown : paginator.total = none)
      (isCounted : (executor.count query).runFrom before = (.ok total, after)) :
      Totalled executor paginator items total

/-- A total that is known is found again. -/
theorem Totalled.eq_of_known
    {executor : Executor σ}
    {paginator : Paginator}
    {items : List Document}
    {found total : Nat}
    (totalled : Totalled executor paginator items found)
    (known : paginator.total = some total) :
    found = total := by
  cases totalled with
  | known isKnown =>
      exact Option.some.inj (isKnown.symm.trans known)
  | shown unknown =>
      cases unknown.symm.trans known
  | counted unknown =>
      cases unknown.symm.trans known

section Fetches

variable
  {executor : Executor σ}
  {paginator after : Paginator}
  {state left : σ}

/--
Looking for the total leaves the paginator alone, and finds it
in one of three ways.
-/
theorem findTotal_ends
    {query : Query}
    {items : List Document}
    {result : Except QueryError Nat}
    (ran :
      (findTotal executor query items.length).runFrom (paginator, state) =
        (result, (after, left))) :
    after = paginator ∧
      ∀ total,
        result = .ok total → Totalled executor paginator items total := by
  rw [findTotal, Stateful.runFrom_bind, Stateful.runFrom_get] at ran
  dsimp only at ran
  cases known : paginator.total with
  | some total =>
      rw [known] at ran
      cases ran
      refine ⟨rfl, fun found same => ?_⟩
      cases same
      exact .known known
  | none =>
      rw [known] at ran
      by_cases shows : showsTotal paginator.request items.length = true
      · rw [if_pos shows] at ran
        cases ran
        refine ⟨rfl, fun found same => ?_⟩
        cases same
        exact .shown known
      · rw [if_neg shows, runFrom_executing] at ran
        cases counted : (executor.count query).runFrom state with
        | mk answer reached =>
            rw [counted] at ran
            cases ran
            refine ⟨rfl, fun total same => ?_⟩
            subst same
            exact .counted known counted

/--
What a successful fetch answers, and what it leaves of the paginator:
the total alone is new.
-/
structure Fetched
    (executor : Executor σ)
    (paginator : Paginator)
    (fetched : Page)
    (after : Paginator) :
    Prop where
  page_eq : fetched.page = paginator.request.page
  pageSize_eq : fetched.pageSize = paginator.request.pageSize
  after_eq : after = { paginator with total := some fetched.total }
  served :
    ∃ query before later,
      (executor.fetch query).runFrom before = (.ok fetched.items, later)
  totalled : Totalled executor paginator fetched.items fetched.total

/-- A fetch that fails leaves the paginator as it was. -/
theorem fetch_ends
    {result : Except QueryError Page}
    (ran :
      (fetch executor).runFrom (paginator, state) = (result, (after, left))) :
    (∃ cause, result = .error cause ∧ after = paginator) ∨
      ∃ fetched,
        result = .ok fetched ∧ Fetched executor paginator fetched after := by
  rw [fetch, Stateful.runFrom_bind, Stateful.runFrom_get] at ran
  dsimp only at ran
  rw [Stateful.runFrom_bind, Stateful.runFrom_ofExcept] at ran
  cases built :
      paginator.builder.paginate paginator.request
        paginator.pagination.orderByIdentifier with
  | error cause =>
      rw [built] at ran
      cases ran
      exact .inl ⟨cause, rfl, rfl⟩
  | ok query =>
      rw [built] at ran
      dsimp only at ran
      rw [Stateful.runFrom_bind, runFrom_executing] at ran
      cases served : (executor.fetch query).runFrom state with
      | mk answer reached =>
          rw [served] at ran
          cases answer with
          | error cause =>
              cases ran
              exact .inl ⟨cause, rfl, rfl⟩
          | ok items =>
              dsimp only at ran
              rw [Stateful.runFrom_bind] at ran
              cases searched :
                  (findTotal executor query items.length).runFrom
                    (paginator, reached) with
              | mk found place =>
                  obtain ⟨between, later⟩ := place
                  obtain ⟨rfl, totalled⟩ := findTotal_ends searched
                  rw [searched] at ran
                  cases found with
                  | error cause =>
                      cases ran
                      exact .inl ⟨cause, rfl, rfl⟩
                  | ok total =>
                      cases ran
                      refine .inr
                        ⟨_, rfl, rfl, rfl, rfl, ⟨query, state, reached, served⟩,
                          ?_⟩
                      exact totalled total rfl

/--
How a move ends: at no page, or at the one it made for, with or
without what it fetched.
-/
theorem Move.run_ends
    {move : Move}
    {result : Except QueryError (Option Page)}
    (ran :
      (move.run executor).runFrom (paginator, state) =
        (result, (after, left))) :
    (move.target? paginator = none ∧ result = .ok none ∧ after = paginator) ∨
      ∃ page, move.target? paginator = some page ∧
        ((∃ cause, result = .error cause ∧ after = paginator.movedTo page) ∨
          ∃ fetched, result = .ok (some fetched) ∧
            Fetched executor (paginator.movedTo page) fetched after) := by
  cases aimed : move.target? paginator with
  | none =>
      rw [run_of_untargeted aimed] at ran
      cases ran
      exact .inl ⟨rfl, rfl, rfl⟩
  | some page =>
      rw [run_of_target aimed, runFrom_goTo] at ran
      cases fetchRan :
          (Paginator.fetch executor).runFrom
            (paginator.movedTo page, state) with
      | mk answer place =>
          obtain ⟨reached, later⟩ := place
          rw [fetchRan] at ran
          cases ran
          refine .inr ⟨page, rfl, ?_⟩
          rcases fetch_ends fetchRan with
              ⟨cause, rfl, same⟩ | ⟨fetched, rfl, isFetched⟩
          · exact .inl ⟨cause, rfl, same⟩
          · exact .inr ⟨fetched, rfl, isFetched⟩

end Fetches

/--
Where moves lead that are made one after the other, whether
they succeed or fail.
-/
def journey
    (executor : Executor σ) :
    List Move →
    Paginator × σ →
    Paginator × σ
  | [], place => place
  | move :: rest, place =>
      journey executor rest ((move.run executor).runFrom place).2

theorem journey_append
    (executor : Executor σ)
    (front rest : List Move)
    (place : Paginator × σ) :
    journey executor (front ++ rest) place =
      journey executor rest (journey executor front place) := by
  induction front generalizing place with
  | nil =>
      rfl
  | cons move front inductionHypothesis =>
      exact inductionHypothesis _

/-- The moves of a journey that made for a page. -/
def attempts
    (executor : Executor σ) :
    List Move →
    Paginator × σ →
    List Move
  | [], _ => []
  | move :: rest, place =>
      let others := attempts executor rest ((move.run executor).runFrom place).2
      if (move.target? place.1).isSome then move :: others else others

/--
The page of a journey's end is as far from the first as the
attempts go together.
-/
theorem page_journey
    (executor : Executor σ)
    (moves : List Move)
    (place : Paginator × σ) :
    ((journey executor moves place).1.request.page : Int) =
      place.1.request.page +
        ((attempts executor moves place).map Move.shift).sum := by
  induction moves generalizing place with
  | nil =>
      simp [journey, attempts]
  | cons move rest inductionHypothesis =>
      obtain ⟨paginator, state⟩ := place
      cases ran : (move.run executor).runFrom (paginator, state) with
      | mk result reached =>
          obtain ⟨after, left⟩ := reached
          have further := inductionHypothesis (after, left)
          simp only [journey, attempts, ran]
          rcases Move.run_ends ran with
            ⟨untargeted, -, rfl⟩ | ⟨page, targeted,
              ⟨cause, -, rfl⟩ | ⟨fetched, -, isFetched⟩⟩
          · rw [further, untargeted]
            rfl
          · have shifted := Move.target_eq targeted
            rw [further, targeted]
            simp only [movedTo, Option.isSome_some, if_true, List.map_cons,
              List.sum_cons]
            omega
          · have shifted := Move.target_eq targeted
            have isThere : after.request.page = page := by
              rw [isFetched.after_eq]
              rfl
            rw [further, targeted]
            simp only [Option.isSome_some, if_true, List.map_cons,
              List.sum_cons]
            omega

end PolyQuery.Paginator
