import PolyQuery.Proofs.Query.Moves
import PolyQuery.Proofs.Query.StoredPages

namespace PolyQuery.Paginator

/-!
# Failed moves

A move puts the paginator at the page that it makes for before it fetches that
page, and nothing puts it back. So a move to a neighbour that fails has moved
all the same, and repeating it makes for the page behind the one that was not
fetched. What it was to do is done by a fetch. The total, in contrast, is only
kept of fetches that succeed, and a failure loses none.
-/

variable {σ : Type}

/-- A total that is known stays what it is, whether a move succeeds or fails. -/
theorem total_of_run
    {executor : Executor σ}
    {move : Move}
    {paginator after : Paginator}
    {state left : σ}
    {result : Except QueryError (Option Page)}
    {total : Nat}
    (known : paginator.total = some total)
    (ran :
      (move.run executor).runFrom (paginator, state) =
        (result, (after, left))) :
    after.total = some total := by
  rcases Move.run_ends ran with
    ⟨-, -, rfl⟩ | ⟨page, -, ⟨cause, -, rfl⟩ | ⟨fetched, -, isFetched⟩⟩
  · exact known
  · exact known
  · rw [isFetched.after_eq]
    exact congrArg some (isFetched.totalled.eq_of_known known)

theorem total_journey
    {executor : Executor σ}
    {total : Nat}
    (moves : List Move)
    (place : Paginator × σ)
    (known : place.1.total = some total) :
    (journey executor moves place).1.total = some total := by
  induction moves generalizing place with
  | nil =>
      exact known
  | cons move rest inductionHypothesis =>
      exact inductionHypothesis _ (total_of_run known rfl)

/--
A move that fails was made for a page, and ends there without
anything else changed.
-/
theorem stranded_of_error
    {executor : Executor σ}
    {move : Move}
    {paginator stranded : Paginator}
    {state left : σ}
    {cause : QueryError}
    (failed :
      (move.run executor).runFrom (paginator, state) =
        (.error cause, (stranded, left))) :
    ∃ target,
      move.target? paginator = some target ∧
        stranded = paginator.movedTo target := by
  rcases Move.run_ends failed with
    ⟨-, succeeds, -⟩ | ⟨target, targeted,
      ⟨other, -, same⟩ | ⟨fetched, succeeds, -⟩⟩
  · cases succeeds
  · exact ⟨target, targeted, same⟩
  · cases succeeds

/-- At the page that a move made for, a fetch does what the move does. -/
theorem fetch_of_target
    {move : Move}
    {paginator : Paginator}
    {target : Nat}
    (executor : Executor σ)
    (targeted : move.target? paginator = some target)
    (state : σ) :
    (Move.run executor .fetch).runFrom (paginator.movedTo target, state) =
      (move.run executor).runFrom (paginator, state) := by
  have itself : Move.target? (paginator.movedTo target) .fetch = some target :=
    rfl
  rw [Move.run_of_target targeted, Move.run_of_target itself, runFrom_goTo,
    runFrom_goTo]
  rfl

/--
A move that fails has moved all the same.

After any moves, of which any may have failed, the page is as far from the first
as those moves go together that made for a page, and a total that was known is
still known. A move that fails leaves the paginator at the page that it made for
and otherwise as it was. To fetch from there does what the move was to do, from
whatever state of the executor; to repeat the move makes for the page twice as
far away, if for any.
-/
theorem failed_move_has_moved
    (executor : Executor σ)
    (place : Paginator × σ) :
    (∀ moves,
      ((journey executor moves place).1.request.page : Int) =
          place.1.request.page +
            ((attempts executor moves place).map Move.shift).sum ∧
        ∀ total,
          place.1.total = some total →
            (journey executor moves place).1.total = some total) ∧
    ∀ (move : Move) (cause : QueryError) (stranded : Paginator) (left : σ),
      (move.run executor).runFrom place = (.error cause, (stranded, left)) →
      ∃ target : Nat,
        move.target? place.1 = some target ∧
        (target : Int) = place.1.request.page + move.shift ∧
        stranded = place.1.movedTo target ∧
        (∀ later,
          (Move.run executor .fetch).runFrom (stranded, later) =
            (move.run executor).runFrom (place.1, later)) ∧
        ∀ again,
          move.target? stranded = some again →
          (again : Int) = place.1.request.page + 2 * move.shift := by
  constructor
  · intro moves
    exact ⟨page_journey executor moves place,
      fun total => total_journey moves place⟩
  · intro move cause stranded left failed
    obtain ⟨target, targeted, rfl⟩ := stranded_of_error failed
    have shifted := Move.target_eq targeted
    refine ⟨target, targeted, shifted, rfl, fetch_of_target executor targeted,
      ?_⟩
    intro again targetedAgain
    have shiftedAgain := Move.target_eq targetedAgain
    change (again : Int) = target + move.shift at shiftedAgain
    omega

/--
An executor of three rows that fails to answer the second time
it is asked for some.
-/
def interrupted : Executor Nat where
  fetch query := do
    let fetches ← get
    set (fetches + 1)
    if fetches = 1 then
      throw (.unsupportedClause "second fetch")
    else
      return [[("number", .ofNat (query.offset.getD 0))]]
  count _ := return 3

/--
The second page is asked for and fails; asking for the next
one answers the third.
-/
theorem failed_move_has_moved_past_page :
    ∃ cause stranded left third afterThird second afterSecond,
      (Move.run interrupted .next).runFrom
          (journey interrupted [.fetch] (start namedPersons 1 1 {}, 0)) =
        (.error cause, (stranded, left)) ∧
      stranded.request.page = 2 ∧
      (Move.run interrupted .next).runFrom (stranded, left) =
        (.ok (some third), afterThird) ∧
      third.page = 3 ∧
      (Move.run interrupted .fetch).runFrom (stranded, left) =
        (.ok (some second), afterSecond) ∧
      (Move.run interrupted .next).runFrom
          ((journey interrupted [.fetch] (start namedPersons 1 1 {}, 0)).1,
            left) =
        (.ok (some second), afterSecond) ∧
      second.page = 2 := by
  obtain ⟨target, -, -, -, fetches, -⟩ :=
    (failed_move_has_moved interrupted
      (journey interrupted [.fetch] (start namedPersons 1 1 {}, 0))).2 .next
      _ _ _ rfl
  exact ⟨_, _, _, _, _, _, _, rfl, rfl, rfl, rfl, rfl, (fetches _).symm, rfl⟩

/--
A builder that asks for the names near a number, which no store can answer.
-/
def unanswerable : Builder :=
  (({} : Builder).model personSchema).constrainBy "name" "near" (.ofInt 1)

/--
From the second page back to the first: the move fails and is at the first page.
Repeated, it answers that there is no page before, and the first one was never
fetched.
-/
theorem failed_previous_ends_at_first :
    (Move.run Store.executor .previous).runFrom
        (start unanswerable 2 1 {}, threePersons) =
      (.error (.invalidFilterOperator "near"),
        (start unanswerable 1 1 {}, threePersons)) ∧
    (Move.run Store.executor .previous).runFrom
        (start unanswerable 1 1 {}, threePersons) =
      (.ok none, (start unanswerable 1 1 {}, threePersons)) ∧
    (start unanswerable 2 1 {}).request ≠ (start unanswerable 1 1 {}).request :=
  ⟨rfl, rfl, by decide⟩

end PolyQuery.Paginator
