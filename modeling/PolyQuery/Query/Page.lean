import PolyQuery.Config
import PolyQuery.Json.Basic

namespace PolyQuery

/-!
# Pages

A position in a result that is cut into pages, and a page with what is known
about its neighbours. A page size of zero stands for the whole result. Numbers
are unsigned 64-bit integers; an offset never passes the greatest signed one.
-/

/-- A page number, counted from one, and a page size. -/
structure PageRequest where
  page : Nat
  pageSize : Nat
  deriving DecidableEq

namespace PageRequest

/--
A request from the caller's numbers.

Pages start at one, a negative size takes the default and a size above the
maximum takes the maximum.
-/
def ofNumbers
    (page : Int)
    (pageSize : Int)
    (pagination : Pagination) :
    PageRequest :=
  let size :=
    if 0 ≤ pageSize then pageSize.toNat else pagination.defaultPageSize
  {
    page := (max page 1).toNat
    pageSize :=
      match pagination.maxPageSize with
      | some largest => if largest < size then largest else size
      | none => size
  }

/-- Whether the page is the whole result. -/
def isUnbounded
    (request : PageRequest) :
    Bool :=
  request.pageSize = 0

/-- The number of rows on the page, unless it is the whole result. -/
def limit
    (request : PageRequest) :
    Option Nat :=
  if request.isUnbounded then
    none
  else
    some request.pageSize

/-- The number of rows before the page, unless it is the whole result. -/
def offset
    (request : PageRequest) :
    Option Nat :=
  if request.isUnbounded then
    none
  else
    some (min ((request.page - 1) * request.pageSize) signedMax.toNat)

end PageRequest

/-- A product that stops at the greatest unsigned 64-bit integer. -/
def saturatingMul
    (left : Nat)
    (right : Nat) :
    Nat :=
  min (left * right) unsignedMax

/-- A fetched page. -/
structure Page where
  items : List Document
  total : Nat
  page : Nat
  pageSize : Nat

namespace Page

/-- The number of pages of the whole result. -/
def pages
    (page : Page) :
    Nat :=
  if page.pageSize = 0 then
    if 0 < page.total then 1 else 0
  else
    page.total / page.pageSize +
      (if page.total % page.pageSize = 0 then 0 else 1)

/-- Whether there is a page before this one. -/
def hasPrevious
    (page : Page) :
    Bool :=
  1 < page.page && 0 < page.pageSize

/-- Whether there is a page after this one. -/
def hasNext
    (page : Page) :
    Bool :=
  page.page < page.pages

/-- The number of the page before this one. -/
def previousNumber?
    (page : Page) :
    Option Nat :=
  if page.hasPrevious then
    some (page.page - 1)
  else
    none

/-- The number of the page after this one. -/
def nextNumber?
    (page : Page) :
    Option Nat :=
  if page.hasNext then
    some (page.page + 1)
  else
    none

end Page

end PolyQuery
