import PolyQuery.Proofs.Document.Answers
import PolyQuery.Proofs.Query.Calls
import PolyQuery.Proofs.Query.Walk

namespace PolyQuery

open Failing

/-!
# Pages of the document store

The document store serves the listing of a builder that answers several rows:
the query of a page differs from the query without a window in its limit and its
offset only. So a walk over its pages visits every row exactly once.
-/

namespace Builder

/-- The query of a page of an entity. -/
def pageQuery
    (builder : Builder)
    (schema : Schema)
    (orderByIdentifier : Bool)
    (request : PageRequest) :
    Query :=
  (builder.windowed request orderByIdentifier).freeze .select schema none

theorem paginate_eq
    {builder : Builder}
    {schema : Schema}
    (known : builder.requireSchema = .ok schema)
    (orderByIdentifier : Bool)
    (request : PageRequest) :
    builder.paginate request orderByIdentifier =
      .ok (builder.pageQuery schema orderByIdentifier request) := by
  have sameSchema :
      (builder.windowed request orderByIdentifier).requireSchema =
        .ok schema := by
    rw [windowed_eq]
    exact known
  simp only [paginate, select, sameSchema]
  rfl

theorem rowLimit_pageQuery
    {builder : Builder}
    (several : builder.single = false)
    (schema : Schema)
    (orderByIdentifier : Bool)
    (request : PageRequest) :
    (builder.pageQuery schema orderByIdentifier request).rowLimit =
      request.limit := by
  simp [pageQuery, windowed_eq, freeze, Query.rowLimit, several]

theorem offset_pageQuery
    (builder : Builder)
    (schema : Schema)
    (orderByIdentifier : Bool)
    (request : PageRequest) :
    (builder.pageQuery schema orderByIdentifier request).offset =
      request.offset := by
  simp [pageQuery, windowed_eq, freeze]

end Builder

namespace PageRequest

/--
An offset that is cut at the greatest signed integer drops as
much as the whole one.
-/
theorem drop_offset
    {α : Type}
    {request : PageRequest}
    {rows : List α}
    (isBounded : request.isUnbounded = false)
    (representable : rows.length < 2 ^ 63) :
    rows.drop (request.offset.getD 0) =
      rows.drop ((request.page - 1) * request.pageSize) := by
  have largest : signedMax.toNat = 2 ^ 63 - 1 := rfl
  have offset_eq :
      request.offset.getD 0 =
        min ((request.page - 1) * request.pageSize) (2 ^ 63 - 1) := by
    simp [offset, isBounded, largest]
  rw [offset_eq]
  -- Beyond the greatest signed integer there are no rows left to drop.
  rcases Nat.le_total ((request.page - 1) * request.pageSize) (2 ^ 63 - 1) with
      fits | far
  · rw [Nat.min_eq_left fits]
  · rw [Nat.min_eq_right far, List.drop_eq_nil_of_le (by omega),
      List.drop_eq_nil_of_le (by omega)]

end PageRequest

namespace Store

/-- The store as what runs queries. -/
def executor : Executor StoreState where
  fetch := fetch
  count := count

section PageQueries

variable
  {builder : Builder}
  {schema : Schema}
  {orderByIdentifier : Bool}

/--
Neither the window nor the order of a page changes which documents are filtered.
-/
theorem filtered_pageQuery
    (store : Store)
    (request : PageRequest) :
    store.filtered (builder.pageQuery schema orderByIdentifier request) =
      store.filtered (builder.freeze .select schema none) := by
  rw [Builder.pageQuery, Builder.windowed_eq]
  rfl

theorem stretch_pageQuery
    {request : PageRequest}
    {rows : List Document}
    (several : builder.single = false)
    (isBounded : request.isUnbounded = false)
    (representable : rows.length < 2 ^ 63) :
    stretch (builder.pageQuery schema orderByIdentifier request) rows =
      request.rowsOf rows := by
  have limit_eq : request.limit = some request.pageSize := by
    simp [PageRequest.limit, isBounded]
  simp only [stretch, Builder.rowLimit_pageQuery several,
    Builder.offset_pageQuery, limit_eq]
  rw [PageRequest.drop_offset isBounded representable, PageRequest.rowsOf]

end PageQueries

end Store

namespace Paginator

variable
  {builder : Builder}
  {pagination : Pagination}
  {page pageSize : Int}
  {size : Nat}
  {state : StoreState}
  {query : Query}
  {rows : List Document}

/-- An entity with a name. -/
def personSchema : Schema :=
  {
    name := "person"
    storageName := none
    fields :=
      [⟨"id", none, true, none, none⟩, ⟨"name", none, false, none, none⟩]
  }

/-- A builder of the persons with a name, in no order of its own. -/
def namedPersons : Builder :=
  (({} : Builder).model personSchema).constrainBy "name" "like" (.string "%")

/-- A store with three persons of whom one has no name. -/
def threePersons : StoreState :=
  ([("person", {
      name := "person"
      documents := [
        [("_id", .ofInt 3), ("name", .string "Ada")],
        [("_id", .ofInt 1), ("name", .null)],
        [("_id", .ofInt 2), ("name", .string "Eve")]]
    })],
    {
      objectIds := 0
      uuids := 0
      microseconds := 0
      sequences := []
    })

/-- The two persons with a name, in the order of their identifiers. -/
def namedRows : List Document :=
  [[("id", .ofInt 2), ("name", .string "Eve")],
    [("id", .ofInt 3), ("name", .string "Ada")]]

end Paginator

end PolyQuery
