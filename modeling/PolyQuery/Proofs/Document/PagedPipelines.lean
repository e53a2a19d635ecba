import PolyQuery.Proofs.Query.StoredPages

namespace PolyQuery

open Failing

/-!
# Pages of pipelines

A pipeline that matches and sorts lists the rows of a select with the same
filter and the same sort document. Cut to a page, it answers the rows of that
page as the select does: the two offsets are cut at different numbers, but at
such as no collection has so many documents.
-/

namespace Pipeline

/-- The stages that filter as a select does and then sort as it does. -/
def selecting
    (filter : Document)
    (sort : Option Document) :
    List Json :=
  .object [("$match", .object filter)] ::
    (sort.map fun spec => .object [("$sort", .object spec)]).toList

/--
The stages of two pipelines in turn are those of the first, then
those of the second.
-/
theorem run_append
    (first second : List Json)
    (documents : List Document) :
    run (first ++ second) documents = run first documents >>= run second := by
  induction first generalizing documents with
  | nil =>
      rfl
  | cons described rest inductionHypothesis =>
      simp only [List.cons_append, run]
      split
      next operator argument =>
        cases stage operator argument documents with
        | error cause =>
            rfl
        | ok passed =>
            exact inductionHypothesis passed
      next =>
        rfl

/-- What a stage keeps by a filter follows what it kept before. -/
theorem passing_eq
    (filter : Document)
    (kept documents : List Document) :
    passing filter kept documents =
      (Collection.matching filter documents).map (kept ++ ·) := by
  induction documents generalizing kept with
  | nil =>
      rw [passing, Collection.matching, Except.map, List.append_nil]
  | cons document rest inductionHypothesis =>
      rw [passing, Collection.matching]
      cases document.matches filter with
      | error cause =>
          rfl
      | ok holds =>
          -- The error of a later document is the same whether this one is kept
          -- or not.
          cases holds <;>
            simp only [bind, Except.bind, inductionHypothesis] <;>
            cases Collection.matching filter rest <;>
            simp [Except.map, pure, Except.pure]

/--
A stage that matches keeps the documents that a find with its filter finds.
-/
theorem stage_match
    (filter : Document)
    (documents : List Document) :
    stage "$match" (.object filter) documents =
      Collection.matching filter documents := by
  have kept :
      stage "$match" (.object filter) documents = passing filter [] documents :=
    rfl
  rw [kept, passing_eq]
  cases Collection.matching filter documents <;> rfl

/-- Matched documents in the order of a sort document, if there is one. -/
def arrangedBy
    (sort : Option Document)
    (documents : List Document) :
    List Document :=
  match sort with
  | some spec =>
      Document.sort (Document.orderBy (SortKey.ofDocument spec)) documents
  | none => documents

theorem run_matching_sorting
    (filter : Document)
    (sort : Option Document)
    (documents : List Document) :
    run (selecting filter sort) documents =
      (Collection.matching filter documents).map (arrangedBy sort) := by
  rw [selecting, run, stage_match]
  cases Collection.matching filter documents with
  | error cause =>
      rfl
  | ok found =>
      cases sort <;> rfl

theorem run_selecting
    (query : Query)
    (filter : Document)
    (documents : List Document) :
    run (selecting filter (DocumentCompiler.window query).sort) documents =
      (Collection.matching filter documents).map (Store.arranged query) :=
  run_matching_sorting filter (DocumentCompiler.window query).sort documents

theorem countArgument_ofNat
    {count : Nat}
    (representable : count ≤ unsignedMax)
    (operator : String) :
    countArgument operator (.ofNat count) = .ok count := by
  have inRange : (0 : Int) ≤ count ∧ (count : Int) ≤ unsignedMax :=
    ⟨Int.natCast_nonneg count, Int.ofNat_le.mpr representable⟩
  simp [countArgument, Json.unsigned?, Json.ofNat, Number.unsigned?, inRange]

/--
The stages of a page cut what leaves a pipeline, the offset being saturated.
-/
theorem run_paginate
    {page size : Nat}
    (bounded : 0 < size)
    (representable : size ≤ unsignedMax)
    (pipeline : List Json)
    (documents : List Document) :
    run (paginate pipeline (some page) (some size)) documents =
      (run pipeline documents).map fun passed =>
        (passed.drop (saturatingMul (max page 1 - 1) size)).take size := by
  have skipped : saturatingMul (max page 1 - 1) size ≤ unsignedMax :=
    Nat.min_le_right _ _
  rw [paginate, if_neg (Nat.ne_of_gt bounded), run_append]
  cases run pipeline documents with
  | error cause =>
      rfl
  | ok passed =>
      change run _ passed = .ok _
      rw [run, stage, countArgument_ofNat skipped]
      change run _ (passed.drop _) = .ok _
      rw [run, stage, countArgument_ofNat representable]
      rfl

end Pipeline

/--
An offset that is cut at the greatest unsigned integer drops as
much as the whole one.
-/
theorem PageRequest.drop_saturatingMul
    {α : Type}
    {request : PageRequest}
    {rows : List α}
    (onPage : 1 ≤ request.page)
    (representable : rows.length < 2 ^ 63) :
    rows.drop (saturatingMul (max request.page 1 - 1) request.pageSize) =
      rows.drop ((request.page - 1) * request.pageSize) := by
  rw [Nat.max_eq_left onPage, saturatingMul]
  rcases Nat.le_total ((request.page - 1) * request.pageSize) unsignedMax with
      fits | far
  · rw [Nat.min_eq_left fits]
  · have beyond : rows.length ≤ unsignedMax := by
      unfold unsignedMax
      omega
    rw [Nat.min_eq_right far, List.drop_eq_nil_of_le beyond,
      List.drop_eq_nil_of_le (Nat.le_trans beyond far)]

/--
Pages with the rows of their positions are, one after the other,
the first rows of all.
-/
theorem PageRequest.exists_pages_of_rowsOf
    {serve : Nat → Except QueryError (List Document)}
    {full : List Document}
    {size : Nat}
    (serves :
      ∀ number, 1 ≤ number →
        serve number = .ok (PageRequest.rowsOf ⟨number, size⟩ full))
    (count : Nat) :
    ∃ pages,
      (List.range' 1 count).mapM serve = .ok pages ∧
        pages.flatten = full.take (count * size) := by
  refine ⟨(Paginator.pagesFrom full size 1 count).map Page.items,
    mapM_eq_ok.mpr ?_, ?_⟩
  · rw [Paginator.pagesFrom, List.map_map]
    refine List.forall₂_map_right_iff.mpr
      (List.forall₂_same.mpr fun number member => ?_)
    exact serves number (List.mem_range'_1.mp member).1
  · rw [← List.flatMap_def]
    exact Paginator.flatMap_pagesFrom full size count

namespace Store

/--
An absent collection is as good as an empty one for a pipeline
that empty ones pass.
-/
theorem aggregate_eq
    {pipeline : List Json}
    {page size : Option Nat}
    (emptyPasses :
      Pipeline.run (Pipeline.paginate pipeline page size) [] = .ok [])
    (store : Store)
    (schema : Schema) :
    store.aggregate schema pipeline page size =
      (Pipeline.run (Pipeline.paginate pipeline page size)
          (store.collection schema.storage).documents).map
        fun documents =>
          documents.map (DocumentCompiler.fromStore ObjectId.codec schema) := by
  unfold aggregate collection
  cases store.get? schema.storage with
  | none =>
      rw [Option.getD_none, emptyPasses]
      rfl
  | some present =>
      rfl

section Selecting

variable
  {query : Query}
  {filter : Document}
  {store : Store}
  {found : List Document}

theorem arranged_nil
    (query : Query) :
    arranged query [] = [] := by
  unfold arranged
  split <;> rfl

/-- Without a projection a caller sees the whole of a stored document. -/
theorem presented_whole
    (whole : query.projection = []) :
    presented query =
      DocumentCompiler.fromStore ObjectId.codec query.schema := by
  funext document
  simp [presented, DocumentCompiler.window, whole,
    DocumentCompiler.targetMapping?]

/-- A find that filters some documents says what the filter of its query is. -/
theorem filtered_of_compile
    {name : String}
    {window : Window}
    (store : Store)
    (isSelect : query.kind = .select)
    (compiled :
      DocumentCompiler.compile ObjectId.codec query =
        .ok (.find name filter window)) :
    window = DocumentCompiler.window query ∧
      filtered store query =
        Collection.matching filter
          (store.collection query.schema.storage).documents := by
  rw [DocumentCompiler.compile, isSelect] at compiled
  obtain ⟨_, accepted, rest⟩ := bind_eq_ok.mp compiled
  obtain ⟨_, isFilter, same⟩ := bind_eq_ok.mp rest
  cases same
  refine ⟨rfl, ?_⟩
  rw [filtered, accepted, isFilter]
  rfl

variable
  (whole : query.projection = [])
  (matched :
    Collection.matching filter
      (store.collection query.schema.storage).documents = .ok found)

include whole matched

/--
Without a page, a pipeline lists the rows of the select whose
filter and order it has.
-/
theorem aggregate_selecting :
    store.aggregate query.schema
        (Pipeline.selecting filter (DocumentCompiler.window query).sort) none
        none =
      .ok (listing query found) := by
  have unpaged :
      ∀ documents,
        Pipeline.run
            (Pipeline.paginate
              (Pipeline.selecting filter (DocumentCompiler.window query).sort)
              none none) documents =
          (Collection.matching filter documents).map (arranged query) :=
    Pipeline.run_selecting query filter
  have emptyPasses := unpaged []
  rw [Collection.matching, Except.map, arranged_nil] at emptyPasses
  rw [aggregate_eq emptyPasses, unpaged, matched, listing,
    presented_whole whole]
  rfl

/-- Cut to a page, a pipeline answers the rows of that page. -/
theorem aggregate_page
    (request : PageRequest)
    (onPage : 1 ≤ request.page)
    (bounded : 0 < request.pageSize)
    (representable : request.pageSize ≤ unsignedMax)
    (few : (store.collection query.schema.storage).documents.length < 2 ^ 63) :
    store.aggregate query.schema
        (Pipeline.selecting filter (DocumentCompiler.window query).sort)
        (some request.page) (some request.pageSize) =
      .ok (request.rowsOf (listing query found)) := by
  have fewer : (arranged query found).length < 2 ^ 63 := by
    rw [← List.length_map, ← listing, length_listing]
    exact Nat.lt_of_le_of_lt (Collection.length_matching_le matched) few
  have emptyPasses :
      Pipeline.run
          (Pipeline.paginate
            (Pipeline.selecting filter (DocumentCompiler.window query).sort)
            (some request.page) (some request.pageSize)) [] =
        .ok [] := by
    rw [Pipeline.run_paginate bounded representable, Pipeline.run_selecting,
      Collection.matching, Except.map, Except.map, arranged_nil, List.drop_nil,
      List.take_nil]
  rw [aggregate_eq emptyPasses, Pipeline.run_paginate bounded representable,
    Pipeline.run_selecting, matched, Except.map, Except.map,
    PageRequest.drop_saturatingMul onPage fewer, Except.map, List.map_take,
    List.map_drop, PageRequest.rowsOf, listing, presented_whole whole]

end Selecting

section Pages

variable
  {builder : Builder}
  {schema : Schema}
  {state : StoreState}
  {size : Nat}
  {found : List Document}

/--
A page that is not ordered by the identifier has the listing of the query
without a window.
-/
theorem listing_pageQuery_unordered
    (request : PageRequest) :
    listing (builder.pageQuery schema false request) found =
      listing (builder.freeze .select schema none) found := by
  rw [Builder.pageQuery, Builder.windowed_eq]
  rfl

/-- The query of a page fetches the rows of the page. -/
theorem fetch_page
    (page : Nat)
    (several : builder.single = false)
    (bounded : 0 < size)
    (isFiltered :
      state.1.filtered (builder.freeze .select schema none) = .ok found)
    (few :
      (listing (builder.freeze .select schema none) found).length < 2 ^ 63) :
    (fetch (builder.pageQuery schema false ⟨page, size⟩)).runFrom state =
      (.ok (PageRequest.rowsOf ⟨page, size⟩
        (listing (builder.freeze .select schema none) found)), state) := by
  have isBounded : PageRequest.isUnbounded ⟨page, size⟩ = false :=
    PageRequest.isUnbounded_eq_false bounded
  rw [fetch_eq rfl, filtered_pageQuery, isFiltered, Except.map,
    listing_pageQuery_unordered, stretch_pageQuery several isBounded few]

end Pages

end Store

namespace Builder

/--
The two ways to a page serve the same rows.

Let a select of several rows without a projection be compiled to a find and run
without error. For every page and every size, an unsigned 64-bit integer, the
query of the page fetches the rows that the pipeline with the filter and the
sort document of the find answers for this page. The pages up to any number are,
one after the other, the first rows of the pipeline that is not cut.
-/
theorem pages_served_alike
    {builder : Builder}
    {query : Query}
    {name : String}
    {filter : Document}
    {window : Window}
    {state : StoreState}
    {rows : List Document}
    {page size : Nat}
    (several : builder.single = false)
    (whole : builder.projection = [])
    (selected : builder.select = .ok query)
    (compiled :
      DocumentCompiler.compile ObjectId.codec query =
        .ok (.find name filter window))
    (runs : ((Store.fetch query).runFrom state).1 = .ok rows)
    (few : (state.1.collection query.schema.storage).documents.length < 2 ^ 63)
    (onPage : 1 ≤ page)
    (bounded : 0 < size)
    (representable : size ≤ unsignedMax) :
    ∃ paged items full,
      builder.paginate ⟨page, size⟩ false = .ok paged ∧
      (Store.fetch paged).runFrom state = (.ok items, state) ∧
      state.1.aggregate query.schema (Pipeline.selecting filter window.sort)
          (some page) (some size) =
        .ok items ∧
      state.1.aggregate query.schema (Pipeline.selecting filter window.sort)
          none none =
        .ok full ∧
      ∀ count, ∃ pages,
        ((List.range' 1 count).mapM fun number =>
            state.1.aggregate query.schema
              (Pipeline.selecting filter window.sort)
              (some number) (some size)) =
          .ok pages ∧
        pages.flatten = full.take (count * size) := by
  obtain ⟨schema, known, isQuery⟩ := bind_eq_ok.mp selected
  cases isQuery
  obtain ⟨rfl, isFiltered⟩ := Store.filtered_of_compile state.1 rfl compiled
  rw [Store.fetch_eq rfl, isFiltered] at runs
  obtain ⟨found, matched, -⟩ := map_eq_ok.mp runs
  have fewer :
      (Store.listing (builder.freeze .select schema none) found).length <
        2 ^ 63 := by
    rw [Store.length_listing]
    exact Nat.lt_of_le_of_lt (Collection.length_matching_le matched) few
  have filteredFound :
      state.1.filtered (builder.freeze .select schema none) = .ok found := by
    rw [isFiltered, matched]
  have fetched := Store.fetch_page page several bounded filteredFound fewer
  have answered :
      ∀ number, 1 ≤ number →
        state.1.aggregate schema
            (Pipeline.selecting filter
              (DocumentCompiler.window
                (builder.freeze .select schema none)).sort)
            (some number) (some size) =
          .ok (PageRequest.rowsOf ⟨number, size⟩
            (Store.listing (builder.freeze .select schema none) found)) :=
    fun number isPage =>
      Store.aggregate_page whole matched ⟨number, size⟩ isPage bounded
        representable few
  exact ⟨_, _, _, paginate_eq known false _, fetched, answered page onPage,
    Store.aggregate_selecting whole matched,
    PageRequest.exists_pages_of_rowsOf answered⟩

/-- The persons with a name, the greatest name first. -/
def personsDownwards : Builder :=
  Paginator.namedPersons.orderBy (.field "name") .descending

/--
A page of one row, and one so far behind the last row that both offsets are cut.
-/
theorem pages_served_alike_far_behind :
    ∃ query name filter window rows,
      personsDownwards.single = false ∧
      personsDownwards.projection = [] ∧
      personsDownwards.select = .ok query ∧
      DocumentCompiler.compile ObjectId.codec query =
        .ok (.find name filter window) ∧
      ((Store.fetch query).runFrom Paginator.threePersons).1 = .ok rows ∧
      (Paginator.threePersons.1.collection
        query.schema.storage).documents.length < 2 ^ 63 ∧
      signedMax.toNat < (unsignedMax - 1) * signedMax.toNat ∧
      ∃ second behind,
        personsDownwards.paginate ⟨2, 1⟩ false = .ok second ∧
        (Store.fetch second).runFrom Paginator.threePersons =
          (.ok [[("id", .ofInt 3), ("name", .string "Ada")]],
            Paginator.threePersons) ∧
        Paginator.threePersons.1.aggregate query.schema
            (Pipeline.selecting filter window.sort) (some 2) (some 1) =
          .ok [[("id", .ofInt 3), ("name", .string "Ada")]] ∧
        personsDownwards.paginate ⟨unsignedMax, signedMax.toNat⟩ false =
          .ok behind ∧
        (Store.fetch behind).runFrom Paginator.threePersons =
          (.ok [], Paginator.threePersons) ∧
        Paginator.threePersons.1.aggregate query.schema
            (Pipeline.selecting filter window.sort)
            (some unsignedMax) (some signedMax.toNat) =
          .ok [] ∧
        Paginator.threePersons.1.aggregate query.schema
            (Pipeline.selecting filter window.sort) none none =
          .ok Paginator.namedRows ∧
        ∀ count, ∃ pages,
          ((List.range' 1 count).mapM fun number =>
              Paginator.threePersons.1.aggregate query.schema
                (Pipeline.selecting filter window.sort) (some number)
                (some 1)) =
            .ok pages ∧
          pages.flatten = Paginator.namedRows.take (count * 1) := by
  have several : personsDownwards.single = false := rfl
  have whole : personsDownwards.projection = [] := rfl
  have selected :
      personsDownwards.select =
        .ok (personsDownwards.freeze .select Paginator.personSchema none) :=
    rfl
  have compiled :
      ∃ name filter window,
        DocumentCompiler.compile ObjectId.codec
            (personsDownwards.freeze .select Paginator.personSchema none) =
          .ok (.find name filter window) :=
    ⟨_, _, _, rfl⟩
  have succeeds :
      ∃ rows,
        ((Store.fetch
          (personsDownwards.freeze .select Paginator.personSchema none)).runFrom
          Paginator.threePersons).1 = .ok rows :=
    ⟨_, rfl⟩
  have few :
      (Paginator.threePersons.1.collection
        Paginator.personSchema.storage).documents.length < 2 ^ 63 := by
    decide
  have representable : signedMax.toNat ≤ unsignedMax := by decide
  obtain ⟨name, filter, window, isFind⟩ := compiled
  obtain ⟨rows, runs⟩ := succeeds
  obtain ⟨second, items, full, isSecond, secondFetched, secondAggregated,
      listed, pages⟩ :=
    pages_served_alike several whole selected isFind runs few
      (by decide : 1 ≤ 2) Nat.zero_lt_one (by decide)
  obtain ⟨behind, noItems, _, isBehind, behindFetched, behindAggregated, -⟩ :=
    pages_served_alike several whole selected isFind runs few
      (by decide : 1 ≤ unsignedMax) (by decide) representable
  have isItems :
      ((Store.fetch second).runFrom Paginator.threePersons).1 =
        .ok [[("id", .ofInt 3), ("name", .string "Ada")]] := by
    cases isSecond
    decide +kernel
  have isNone :
      ((Store.fetch behind).runFrom Paginator.threePersons).1 = .ok [] := by
    cases isBehind
    decide +kernel
  have isFull :
      Paginator.threePersons.1.aggregate Paginator.personSchema
          (Pipeline.selecting filter window.sort) none none =
        .ok Paginator.namedRows := by
    cases isFind
    decide +kernel
  rw [secondFetched] at isItems
  rw [behindFetched] at isNone
  cases isItems
  cases isNone
  cases listed.symm.trans isFull
  exact ⟨_, name, filter, window, rows, several, whole, selected, isFind, runs,
    few, by decide, second, behind, isSecond, secondFetched, secondAggregated,
    isBehind, behindFetched, behindAggregated, listed, pages⟩

end Builder

end PolyQuery
