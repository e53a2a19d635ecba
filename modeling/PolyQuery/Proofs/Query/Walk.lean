import Mathlib.Algebra.Order.Floor.Div
import PolyQuery.Proofs.Computation.Stateful
import PolyQuery.Query.Paginator

namespace PolyQuery

/-!
# Walks over pages

An executor serves a list if it fetches the stretches of the list that windows
ask for and counts its length. Over such an executor every move of a paginator
succeeds, every page is the stretch of its position, and the total is counted
once at most.
-/

variable {σ : Type}

/-- An executor that also counts how often it was asked for a count. -/
def Executor.counting
    (executor : Executor σ) :
    Executor (σ × Nat) where
  fetch query := do
    let (state, counts) ← get
    let (result, state) := (executor.fetch query).runFrom state
    set (state, counts)
    Stateful.ofExcept result
  count query := do
    let (state, counts) ← get
    let (result, state) := (executor.count query).runFrom state
    set (state, counts + 1)
    Stateful.ofExcept result

/-- The rows of a list that stand on a page. -/
def PageRequest.rowsOf
    (request : PageRequest)
    (full : List Document) :
    List Document :=
  (full.drop ((request.page - 1) * request.pageSize)).take request.pageSize

theorem PageRequest.isUnbounded_eq_false
    {request : PageRequest}
    (bounded : 0 < request.pageSize) :
    request.isUnbounded = false := by
  simp only [isUnbounded, decide_eq_false_iff_not]
  omega

/-- The page of a list that a request asks for. -/
def PageRequest.pageOf
    (request : PageRequest)
    (full : List Document) :
    Page :=
  {
    items := request.rowsOf full
    total := full.length
    page := request.page
    pageSize := request.pageSize
  }

namespace Paginator

/-- A move of a walk. -/
inductive Move where
  | fetch
  | next
  | previous

/-- Make a move: the page that it answers, if any. -/
def Move.run
    (executor : Executor σ) :
    Move →
    Stateful (Paginator × σ) (Option Page)
  | .fetch => do
      let fetched ← Paginator.fetch executor
      return some fetched
  | .next => Paginator.next executor
  | .previous => Paginator.previous executor

/--
What holds of a walk over the pages of a list between two moves.

Either nothing is known of the total and nothing was counted, or the total is
that of the list and was counted once at most.
-/
structure Walking
    (start : Paginator)
    (full : List Document)
    (paginator : Paginator)
    (counts : Nat) :
    Prop where
  builder_eq : paginator.builder = start.builder
  pagination_eq : paginator.pagination = start.pagination
  pageSize_eq : paginator.request.pageSize = start.request.pageSize
  onPage : 1 ≤ paginator.request.page
  counted :
    paginator.total = none ∧ counts = 0 ∨
      paginator.total = some full.length ∧ counts ≤ 1

theorem runFrom_executing
    {α : Type}
    (action : Stateful σ α)
    (paginator : Paginator)
    (state : σ) :
    (executing action).runFrom (paginator, state) =
      ((action.runFrom state).1, (paginator, (action.runFrom state).2)) :=
  rfl

@[simp] theorem counting_fetch
    (executor : Executor σ)
    (query : Query)
    (state : σ)
    (counts : Nat) :
    (executor.counting.fetch query).runFrom (state, counts) =
      (((executor.fetch query).runFrom state).1,
        (((executor.fetch query).runFrom state).2, counts)) :=
  rfl

@[simp] theorem counting_count
    (executor : Executor σ)
    (query : Query)
    (state : σ)
    (counts : Nat) :
    (executor.counting.count query).runFrom (state, counts) =
      (((executor.count query).runFrom state).1,
        (((executor.count query).runFrom state).2, counts + 1)) :=
  rfl

section Serving

variable
  {executor : Executor σ}
  {start paginator : Paginator}
  {state : σ}
  {full : List Document}
  {counts : Nat}

theorem Walking.move
    {page : Nat}
    (walking : Walking start full paginator counts)
    (onPage : 1 ≤ page) :
    Walking start full
      { paginator with request := { paginator.request with page := page } }
      counts where
  builder_eq := walking.builder_eq
  pagination_eq := walking.pagination_eq
  pageSize_eq := walking.pageSize_eq
  onPage := onPage
  counted := walking.counted

/-- So many pages of a list from a position on. -/
def pagesFrom
    (full : List Document)
    (pageSize position pages : Nat) :
    List Page :=
  (List.range' position pages).map fun number =>
    PageRequest.pageOf ⟨number, pageSize⟩ full

theorem flatMap_pagesFrom
    (full : List Document)
    (pageSize pages : Nat) :
    (pagesFrom full pageSize 1 pages).flatMap Page.items =
      full.take (pages * pageSize) := by
  rw [pagesFrom, List.flatMap_map]
  induction pages with
  | zero =>
      simp
  | succ pages inductionHypothesis =>
      rw [List.range'_concat, List.flatMap_append, inductionHypothesis,
        Nat.add_mul, Nat.one_mul, List.take_add]
      simp [PageRequest.pageOf, PageRequest.rowsOf]

end Serving

end Paginator

end PolyQuery
