import PolyQuery.Query.Builder

namespace PolyQuery

/-!
# Paginator

Walks the pages of one query. It keeps the builder, so that every page is a
fresh query, the page it is at and the total once it is known. The total needs
no count when the whole result, or a first page that is not full, was fetched.

A move to another page that fails leaves the paginator at that page.
-/

/-- What runs queries. -/
structure Executor
    (σ : Type) where
  fetch : Query → Stateful σ (List Document)
  count : Query → Stateful σ Nat

/-- A walk over the pages of a query. -/
structure Paginator where
  builder : Builder
  pagination : Pagination
  request : PageRequest
  total : Option Nat

namespace Paginator

variable {σ : Type}

/-- A walk that begins at a page. -/
def start
    (builder : Builder)
    (page : Int)
    (pageSize : Int)
    (pagination : Pagination) :
    Paginator :=
  {
    builder := builder
    pagination := pagination
    request := .ofNumbers page pageSize pagination
    total := none
  }

/-- Run an action of the executor inside a walk. -/
def executing
    {α : Type}
    (action : Stateful σ α) :
    Stateful (Paginator × σ) α := do
  let (paginator, state) ← get
  let (result, state) := action.runFrom state
  set (paginator, state)
  Stateful.ofExcept result

/-- Whether so many fetched rows show the total by themselves. -/
def showsTotal
    (request : PageRequest)
    (fetched : Nat) :
    Bool :=
  request.isUnbounded || (request.page = 1 && fetched < request.pageSize)

/--
The total, counted only if it is neither known nor shown by the fetched rows.
-/
def findTotal
    (executor : Executor σ)
    (query : Query)
    (fetched : Nat) :
    Stateful (Paginator × σ) Nat := do
  let (paginator, _) ← get
  match paginator.total with
  | some total => return total
  | none =>
      if showsTotal paginator.request fetched then
        return fetched
      else
        executing (executor.count query)

/-- Fetch the page that the walk is at. -/
def fetch
    (executor : Executor σ) :
    Stateful (Paginator × σ) Page := do
  let (paginator, _) ← get
  let query ←
    Stateful.ofExcept
      (paginator.builder.paginate paginator.request
        paginator.pagination.orderByIdentifier)
  let items ← executing (executor.fetch query)
  let total ← findTotal executor query items.length
  modify fun (paginator, state) =>
    ({ paginator with total := some total }, state)
  return {
    items := items
    total := total
    page := paginator.request.page
    pageSize := paginator.request.pageSize
  }

/-- Go to a page and fetch it. -/
def goTo
    (executor : Executor σ)
    (page : Nat) :
    Stateful (Paginator × σ) (Option Page) := do
  modify fun (paginator, state) =>
    ({ paginator with request := { paginator.request with page := page } },
      state)
  let fetched ← fetch executor
  return some fetched

/--
Whether the known total ends with the page that the walk is at, or before it.
-/
def isExhausted
    (paginator : Paginator) :
    Bool :=
  match paginator.total with
  | some total =>
      total ≤ saturatingMul paginator.request.page paginator.request.pageSize
  | none => false

/-- Fetch the next page, if there may be one. -/
def next
    (executor : Executor σ) :
    Stateful (Paginator × σ) (Option Page) := do
  let (paginator, _) ← get
  if paginator.request.isUnbounded || paginator.isExhausted then
    return none
  else
    goTo executor (paginator.request.page + 1)

/-- Fetch the page before, if there is one. -/
def previous
    (executor : Executor σ) :
    Stateful (Paginator × σ) (Option Page) := do
  let (paginator, _) ← get
  if paginator.request.page ≤ 1 || paginator.request.isUnbounded then
    return none
  else
    goTo executor (paginator.request.page - 1)

end Paginator

end PolyQuery
