import Mathlib.Data.Nat.Digits.Lemmas
import PolyQuery.Proofs.Computation.Alike
import PolyQuery.Proofs.Document.EqualRows
import PolyQuery.Proofs.Document.StableSorting
import PolyQuery.Proofs.Query.StoredPages

namespace PolyQuery

open Failing

/-!
# Pages in the default order

A builder without an order of its own is paged in the order of the identifier.
That order tells any two documents with identifiers of twelve bytes apart, so
the pages do not depend on the order in which a collection got its documents.
The order is asked for by the name of the primary field, which for this has to
stand for the identifier.
-/

/-- Digits of one length are told apart by the number that they stand for. -/
theorem HexDigit.eq_of_toNat_eq
    {first second : List HexDigit}
    (sameLength : first.length = second.length)
    (sameNumber : toNat first = toNat second) :
    first = second := by
  have toNat_eq :
      ∀ digits : List HexDigit,
        toNat digits = Nat.ofDigits 16 (digits.map Fin.val).reverse := by
    intro digits
    rw [Nat.ofDigits_eq_foldr, List.foldr_reverse, List.foldl_map, toNat]
    simp only [Nat.add_comm, Nat.cast_id]
  have below :
      ∀ digits : List HexDigit, ∀ digit ∈ (digits.map Fin.val).reverse,
        digit < 16 := by
    simp
  rw [toNat_eq, toNat_eq] at sameNumber
  have sameValues :=
    Nat.ofDigits_inj_of_len_eq (by decide) (by simpa using sameLength)
      (below first) (below second) sameNumber
  exact List.map_injective_iff.mpr Fin.val_injective
    (List.reverse_injective sameValues)

theorem ObjectId.eq_of_toNat_eq
    {left right : ObjectId}
    (sameNumber : HexDigit.toNat left.digits = HexDigit.toNat right.digits) :
    left = right := by
  obtain ⟨leftDigits, leftLength⟩ := left
  obtain ⟨rightDigits, rightLength⟩ := right
  have sameDigits : leftDigits = rightDigits :=
    HexDigit.eq_of_toNat_eq (leftLength.trans rightLength.symm) sameNumber
  subst sameDigits
  rfl

namespace Document

/-- The identifier of twelve bytes under which a document is stored. -/
def objectId?
    (document : Document) :
    Option ObjectId :=
  (document.get? idKey).bind ObjectId.ofJson?

/-- The number that the identifier of a document stands for. -/
def identifierNumber
    (document : Document) :
    Nat :=
  match document.objectId? with
  | some identifier => HexDigit.toNat identifier.digits
  | none => 0

/--
Upwards by the identifier, documents are ordered as the numbers of their
identifiers are.
-/
theorem orderBy_identifier
    {left right : Document}
    (leftIdentified : left.objectId?.isSome)
    (rightIdentified : right.objectId?.isSome) :
    orderBy (SortKey.ofDocument [(idKey, .ofInt 1)]) left right =
      compareOn identifierNumber left right := by
  have plain : IsPlainKey idKey := by decide
  obtain ⟨leftId, isLeft⟩ := Option.isSome_iff_exists.mp leftIdentified
  obtain ⟨rightId, isRight⟩ := Option.isSome_iff_exists.mp rightIdentified
  obtain ⟨leftStored, leftFound, leftRead⟩ := Option.bind_eq_some_iff.mp isLeft
  obtain ⟨rightStored, rightFound, rightRead⟩ :=
    Option.bind_eq_some_iff.mp isRight
  have ordered :
      Json.sortOrder (some leftStored) (some rightStored) =
        leftId.order rightId := by
    cases leftStored <;> cases rightStored <;>
      first | cases leftRead | cases rightRead | skip
    simp [Json.sortOrder, Json.isAbsent, Json.isNull, Json.order?, leftRead,
      rightRead]
  have upwards : (Json.ofInt 1).signed? ≠ some (-1) := by decide
  simp only [SortKey.ofDocument, List.map_cons, List.map_nil, orderBy, upwards,
    decide_false, Bool.false_eq_true, if_false, lookup?_of_plain plain,
    leftFound, rightFound, ordered, compareOn, identifierNumber, isLeft,
    isRight, ObjectId.order]
  split
  next equal => exact equal.symm
  next => rfl

/--
Sorting by a consistent order that tells documents apart forgets how they stood.
-/
theorem sort_eq_of_perm
    {order : Document → Document → Ordering}
    [Std.TransCmp order]
    {documents others : List Document}
    (perm : documents.Perm others)
    (apart :
      ∀ left ∈ documents, ∀ right ∈ documents,
        order left right = .eq → left = right) :
    sort order documents = sort order others := by
  rw [sort_eq_mergeSort, sort_eq_mergeSort]
  refine List.Perm.eq_of_pairwise ?_ (mergeSort_sorted _) (mergeSort_sorted _)
    ?_
  · intro left right leftMember rightMember leftFirst rightFirst
    have rightAmong : right ∈ documents :=
      perm.mem_iff.mpr ((List.mergeSort_perm others _).mem_iff.mp rightMember)
    exact apart left ((List.mergeSort_perm documents _).mem_iff.mp leftMember)
      right rightAmong (Std.OrientedCmp.isLE_antisymm leftFirst rightFirst)
  · exact (List.mergeSort_perm documents _).trans
      (perm.trans (List.mergeSort_perm others _).symm)

end Document

namespace Collection

/--
Documents that are all stored under identifiers of twelve bytes,
no two under the same.
-/
structure ToldApart
    (documents : List Document) :
    Prop where
  identified : ∀ document ∈ documents, document.objectId?.isSome
  distinct : (documents.map Document.objectId?).Nodup

theorem ToldApart.sublist
    {fewer documents : List Document}
    (toldApart : ToldApart documents)
    (sublist : fewer.Sublist documents) :
    ToldApart fewer where
  identified := fun document member =>
    toldApart.identified document (sublist.subset member)
  distinct := toldApart.distinct.sublist (sublist.map _)

theorem ToldApart.perm
    {documents others : List Document}
    (toldApart : ToldApart documents)
    (perm : documents.Perm others) :
    ToldApart others where
  identified := fun document member =>
    toldApart.identified document (perm.mem_iff.mpr member)
  distinct := (perm.map _).nodup_iff.mp toldApart.distinct

theorem ToldApart.eq_of_identifierNumber_eq
    {documents : List Document}
    (toldApart : ToldApart documents)
    {left right : Document}
    (leftMember : left ∈ documents)
    (rightMember : right ∈ documents)
    (sameNumber : left.identifierNumber = right.identifierNumber) :
    left = right := by
  refine List.inj_on_of_nodup_map toldApart.distinct leftMember rightMember ?_
  obtain ⟨leftId, isLeft⟩ :=
    Option.isSome_iff_exists.mp (toldApart.identified left leftMember)
  obtain ⟨rightId, isRight⟩ :=
    Option.isSome_iff_exists.mp (toldApart.identified right rightMember)
  simp only [Document.identifierNumber, isLeft, isRight] at sameNumber
  rw [isLeft, isRight, ObjectId.eq_of_toNat_eq sameNumber]

/--
Documents that are told apart are sorted by the identifier however they stood.
-/
theorem ToldApart.sort_eq_of_perm
    {documents others : List Document}
    (toldApart : ToldApart documents)
    (perm : documents.Perm others) :
    Document.sort (Document.orderBy (SortKey.ofDocument [(idKey, .ofInt 1)]))
        documents =
      Document.sort (Document.orderBy (SortKey.ofDocument [(idKey, .ofInt 1)]))
        others := by
  have byNumber :
      ∀ stored : List Document, ToldApart stored →
        Document.sort
            (Document.orderBy (SortKey.ofDocument [(idKey, .ofInt 1)])) stored =
          Document.sort (compareOn Document.identifierNumber) stored :=
    fun stored storedApart =>
      Document.sort_congr fun left leftMember right rightMember =>
        Document.orderBy_identifier (storedApart.identified left leftMember)
          (storedApart.identified right rightMember)
  rw [byNumber documents toldApart, byNumber others (toldApart.perm perm)]
  refine Document.sort_eq_of_perm perm
    fun left leftMember right rightMember equal => ?_
  exact toldApart.eq_of_identifierNumber_eq leftMember rightMember
    (compare_eq_iff_eq.mp equal)

/-- Whether a filter can be evaluated for a document and holds of it. -/
def satisfies
    (filter : Document)
    (document : Document) :
    Bool :=
  (document.matches filter).toOption.getD false

/-- A filter that finds documents can be evaluated for each of them. -/
theorem evaluated_of_matching
    {filter : Document}
    {documents found : List Document}
    (matched : matching filter documents = .ok found) :
    ∀ document ∈ documents,
      document.matches filter = .ok (satisfies filter document) := by
  induction documents generalizing found with
  | nil =>
      nofun
  | cons document rest inductionHypothesis =>
      obtain ⟨holds, headEvaluated, continued⟩ := bind_eq_ok.mp matched
      obtain ⟨others, restMatched, -⟩ := bind_eq_ok.mp continued
      refine List.forall_mem_cons.mpr ⟨?_, inductionHypothesis restMatched⟩
      rw [satisfies, headEvaluated]
      rfl

/--
A filter finds the same documents however they stand, or
fails however they stand.
-/
theorem matching_alike_of_perm
    {documents others : List Document}
    (perm : documents.Perm others)
    (filter : Document) :
    Alike (fun _ _ => True)
      (fun found foundToo => found.Perm foundToo ∧ found.Sublist documents)
      (matching filter documents) (matching filter others) := by
  by_cases evaluated :
      ∀ document ∈ documents,
        document.matches filter = .ok (satisfies filter document)
  · have evaluatedToo :
        ∀ document ∈ others,
          document.matches filter = .ok (satisfies filter document) :=
      fun document member => evaluated document (perm.mem_iff.mpr member)
    rw [matching_eq_filter evaluated, matching_eq_filter evaluatedToo]
    exact .ok ⟨perm.filter _, List.filter_sublist⟩
  · cases matched : matching filter documents with
    | ok found =>
        exact absurd (evaluated_of_matching matched) evaluated
    | error cause =>
        cases matchedToo : matching filter others with
        | ok found =>
            exact absurd (fun document member =>
              evaluated_of_matching matchedToo document
                (perm.mem_iff.mp member)) evaluated
        | error causeToo =>
            exact .error trivial

end Collection

namespace Store

section Reordered

variable
  {store other : Store}
  {query : Query}
  (toldApart :
    Collection.ToldApart (store.collection query.schema.storage).documents)
  (perm :
    (store.collection query.schema.storage).documents.Perm
      (other.collection query.schema.storage).documents)

include toldApart perm

/--
A query filters the same documents of stores that hold the same, and
they are told apart.
-/
theorem filtered_alike_of_perm :
    Alike (fun _ _ => True)
      (fun found foundToo => found.Perm foundToo ∧ Collection.ToldApart found)
      (store.filtered query) (other.filtered query) := by
  refine Alike.after (fun _ => trivial) fun _ _ => ?_
  refine Alike.after (fun _ => trivial) fun filter _ => ?_
  exact (Collection.matching_alike_of_perm perm filter).imp fun _ _ related =>
    ⟨related.1, toldApart.sublist related.2⟩

/-- Both stores count alike. -/
theorem counted_alike_of_perm :
    Alike (fun _ _ => True) Eq ((store.filtered query).map List.length)
      ((other.filtered query).map List.length) :=
  (filtered_alike_of_perm toldApart perm).map fun _ _ related =>
    related.1.length_eq

/-- In the order of the identifier, both stores answer the same rows. -/
theorem fetched_alike_of_perm
    {name : String}
    (byName : query.order = [⟨.field name, .ascending⟩])
    (named : DocumentCompiler.fieldKey query.schema name = idKey) :
    Alike (fun _ _ => True) Eq
      ((store.filtered query).map fun found =>
        stretch query (listing query found))
      ((other.filtered query).map fun found =>
        stretch query (listing query found)) := by
  have isSort :
      (DocumentCompiler.window query).sort = some [(idKey, .ofInt 1)] := by
    simp only [DocumentCompiler.window, byName, List.map_cons, List.map_nil,
      DocumentCompiler.targetKey, named]
    rfl
  refine (filtered_alike_of_perm toldApart perm).map
    fun found foundToo related => ?_
  rw [listing, listing, arranged, arranged, isSort]
  dsimp only
  rw [related.2.sort_eq_of_perm related.1]

end Reordered

end Store

namespace Paginator

variable {σ : Type}

/-- The total beside so many fetched rows, given what a count answers. -/
def totalBeside
    (paginator : Paginator)
    (fetched : Nat)
    (counted : Except QueryError Nat) :
    Except QueryError Nat :=
  match paginator.total with
  | some total => .ok total
  | none =>
      if showsTotal paginator.request fetched then .ok fetched else counted

section Reading

variable
  {executor : Executor σ}
  {paginator : Paginator}
  {query : Query}
  {state : σ}
  {rows : Except QueryError (List Document)}
  {counted : Except QueryError Nat}
  (counts : (executor.count query).runFrom state = (counted, state))

include counts

theorem findTotal_of_reading
    (fetched : Nat) :
    (findTotal executor query fetched).runFrom (paginator, state) =
      (paginator.totalBeside fetched counted, (paginator, state)) := by
  simp only [findTotal, totalBeside, Stateful.runFrom_bind,
    Stateful.runFrom_get]
  cases paginator.total with
  | some total =>
      rfl
  | none =>
      by_cases shown : showsTotal paginator.request fetched
      · simp only [shown, if_true, Stateful.runFrom_pure]
      · simp only [shown, Bool.false_eq_true, if_false, runFrom_executing,
          counts]

/-- The page of an executor that leaves its state as it is. -/
theorem fetch_of_reading
    (built :
      paginator.builder.paginate paginator.request
          paginator.pagination.orderByIdentifier =
        .ok query)
    (fetches : (executor.fetch query).runFrom state = (rows, state)) :
    ((fetch executor).runFrom (paginator, state)).1 = do
      let items ← rows
      let total ← paginator.totalBeside items.length counted
      return {
        items := items
        total := total
        page := paginator.request.page
        pageSize := paginator.request.pageSize
      } := by
  cases rows with
  | error cause =>
      simp only [fetch, Stateful.runFrom_bind, Stateful.runFrom_get, built,
        Stateful.runFrom_ofExcept, runFrom_executing, fetches]
      rfl
  | ok items =>
      simp only [fetch, Stateful.runFrom_bind, Stateful.runFrom_get, built,
        Stateful.runFrom_ofExcept, runFrom_executing, fetches,
        findTotal_of_reading counts]
      change _ = paginator.totalBeside items.length counted >>= _
      cases paginator.totalBeside items.length counted <;> rfl

end Reading

/-- Pages with the same rows and the same count have the same total. -/
theorem totalBeside_alike
    {first second : Except QueryError Nat}
    (paginator : Paginator)
    (fetched : Nat)
    (alike : Alike (fun _ _ => True) Eq first second) :
    Alike (fun _ _ => True) Eq (paginator.totalBeside fetched first)
      (paginator.totalBeside fetched second) := by
  unfold totalBeside
  split
  · exact .ok rfl
  · split
    · exact .ok rfl
    · exact alike

/--
Stores that hold the same answer the same page if its query is
ordered by the identifier.
-/
theorem fetch_alike_of_perm
    {paginator : Paginator}
    {query : Query}
    {state other : StoreState}
    {name : String}
    (built :
      paginator.builder.paginate paginator.request
          paginator.pagination.orderByIdentifier =
        .ok query)
    (isSelect : query.kind = .select)
    (byName : query.order = [⟨.field name, .ascending⟩])
    (named : DocumentCompiler.fieldKey query.schema name = idKey)
    (toldApart :
      Collection.ToldApart (state.1.collection query.schema.storage).documents)
    (perm :
      (state.1.collection query.schema.storage).documents.Perm
        (other.1.collection query.schema.storage).documents) :
    Alike (fun _ _ => True) Eq
      ((fetch Store.executor).runFrom (paginator, state)).1
      ((fetch Store.executor).runFrom (paginator, other)).1 := by
  have fetches :
      ∀ reached : StoreState,
        (Store.executor.fetch query).runFrom reached =
          ((reached.1.filtered query).map fun found =>
            Store.stretch query (Store.listing query found), reached) :=
    fun reached => Store.fetch_eq isSelect reached
  have counts :
      ∀ reached : StoreState,
        (Store.executor.count query).runFrom reached =
          ((reached.1.filtered query).map List.length, reached) :=
    fun reached => Store.count_eq query reached
  rw [fetch_of_reading (counts state) built (fetches state),
    fetch_of_reading (counts other) built (fetches other)]
  refine Alike.bind (Store.fetched_alike_of_perm toldApart perm byName named) ?_
  rintro items _ rfl
  refine (totalBeside_alike paginator items.length
    (Store.counted_alike_of_perm toldApart perm)).bind ?_
  rintro total _ rfl
  exact .ok rfl

/--
Pages in the default order do not depend on the order of insertion.

Let a builder without an order of its own be paged in the order of the
identifier, over two stores whose collections hold the same documents, each
under an identifier of twelve bytes of its own. If the name of the primary field
stands for the identifier, then a page that can be fetched from one store can be
fetched from the other one, with the same items in the same order and the same
total.
-/
theorem default_order_forgets_insertion
    {paginator : Paginator}
    {schema : Schema}
    {key : Field}
    {state other : StoreState}
    (known : paginator.builder.schema = some schema)
    (isKey : schema.primaryKey? = some key)
    (named : DocumentCompiler.fieldKey schema key.name = idKey)
    (unordered : paginator.builder.order = [])
    (byIdentifier : paginator.pagination.orderByIdentifier = true)
    (toldApart :
      Collection.ToldApart (state.1.collection schema.storage).documents)
    (perm :
      (state.1.collection schema.storage).documents.Perm
        (other.1.collection schema.storage).documents)
    (fetched : Page) :
    ((fetch Store.executor).runFrom (paginator, state)).1 = .ok fetched ↔
      ((fetch Store.executor).runFrom (paginator, other)).1 = .ok fetched := by
  have required : paginator.builder.requireSchema = .ok schema := by
    rw [Builder.requireSchema, known]
  have built :=
    Builder.paginate_eq required paginator.pagination.orderByIdentifier
      paginator.request
  have byName :
      (paginator.builder.pageQuery schema paginator.pagination.orderByIdentifier
        paginator.request).order = [⟨.field key.name, .ascending⟩] := by
    simp [Builder.pageQuery, Builder.freeze, Builder.windowed_eq,
      Builder.stableOrder, Builder.hasOrder, known, isKey, unordered,
      byIdentifier]
  exact (fetch_alike_of_perm built rfl byName named toldApart perm).eq_ok_iff
    fetched

/-- A person under the identifier that a number stands for. -/
def numbered
    (number : Nat)
    (name : String) :
    Document :=
  [(idKey, (ObjectId.ofNat number).toJson), ("name", .string name)]

/-- A store with some persons. -/
def storing
    (documents : List Document) :
    StoreState :=
  ([("person", { name := "person", documents := documents })],
    {
      objectIds := 0
      uuids := 0
      microseconds := 0
      sequences := []
    })

/-- Two persons, the one with the smaller identifier inserted first. -/
def upwards : StoreState :=
  storing [numbered 1 "Ada", numbered 2 "Eve"]

/-- The same two persons, inserted the other way round. -/
def downwards : StoreState :=
  storing [numbered 2 "Eve", numbered 1 "Ada"]

theorem toldApart_upwards :
    Collection.ToldApart (upwards.1.collection "person").documents := by
  have identified :
      ∀ number name,
        (numbered number name).objectId? = some (ObjectId.ofNat number) := by
    intro number name
    simp [Document.objectId?, numbered, ObjectId.ofJson?_toJson]
  have differ : ObjectId.ofNat 1 ≠ ObjectId.ofNat 2 := by decide
  change Collection.ToldApart [numbered 1 "Ada", numbered 2 "Eve"]
  exact ⟨by simp [identified], by simp [identified, differ]⟩

theorem upwards_perm_downwards :
    (upwards.1.collection "person").documents.Perm
      (downwards.1.collection "person").documents :=
  .swap _ _ _

/-- A walk from the first page, of one person, in no order of its own. -/
def onePerPage : Paginator :=
  start namedPersons 1 1 {}

/--
The first page has one person, the same whichever of the two was inserted first.
-/
theorem default_order_forgets_insertion_of_two :
    onePerPage.builder.schema = some personSchema ∧
      personSchema.primaryKey? = some ⟨"id", none, true, none, none⟩ ∧
      DocumentCompiler.fieldKey personSchema "id" = idKey ∧
      onePerPage.builder.order = [] ∧
      onePerPage.pagination.orderByIdentifier = true ∧
      Collection.ToldApart
        (upwards.1.collection personSchema.storage).documents ∧
      (upwards.1.collection personSchema.storage).documents.Perm
        (downwards.1.collection personSchema.storage).documents ∧
      ∃ fetched,
        fetched.items.length = 1 ∧
        ((fetch Store.executor).runFrom (onePerPage, upwards)).1 = .ok fetched ∧
        ((fetch Store.executor).runFrom (onePerPage, downwards)).1 =
          .ok fetched := by
  have known : onePerPage.builder.schema = some personSchema := rfl
  have isKey : personSchema.primaryKey? = some ⟨"id", none, true, none, none⟩ :=
    rfl
  have named : DocumentCompiler.fieldKey personSchema "id" = idKey := by decide
  have unordered : onePerPage.builder.order = [] := rfl
  have byIdentifier : onePerPage.pagination.orderByIdentifier = true := rfl
  have toldApart :
      Collection.ToldApart
        (upwards.1.collection personSchema.storage).documents :=
    toldApart_upwards
  have perm :
      (upwards.1.collection personSchema.storage).documents.Perm
        (downwards.1.collection personSchema.storage).documents :=
    upwards_perm_downwards
  have succeeds :
      ∃ fetched,
        fetched.items.length = 1 ∧
        ((fetch Store.executor).runFrom (onePerPage, upwards)).1 =
          .ok fetched :=
    ⟨_, rfl, rfl⟩
  obtain ⟨fetched, isOne, fetches⟩ := succeeds
  have fetchesToo :=
    (default_order_forgets_insertion known isKey named unordered byIdentifier
      toldApart perm fetched).mp fetches
  exact ⟨known, isKey, named, unordered, byIdentifier, toldApart, perm, fetched,
    isOne, fetches, fetchesToo⟩

/-- An entity with an ordinary field before the primary one of the same name. -/
def twinSchema : Schema :=
  {
    name := "person"
    storageName := none
    fields :=
      [⟨"id", some "number", false, none, none⟩, ⟨"id", none, true, none, none⟩]
  }

/--
A walk over the pages of an entity whose primary field has the
name of an earlier one.
-/
def onePerPageOfTwins : Paginator :=
  start (({} : Builder).model twinSchema) 1 1 {}

/--
Where the name of the primary field stands for another one, pages
follow the insertion.
-/
theorem shadowed_key_follows_insertion :
    onePerPageOfTwins.builder.schema = some twinSchema ∧
      twinSchema.primaryKey? = some ⟨"id", none, true, none, none⟩ ∧
      onePerPageOfTwins.builder.order = [] ∧
      onePerPageOfTwins.pagination.orderByIdentifier = true ∧
      Collection.ToldApart (upwards.1.collection twinSchema.storage).documents ∧
      (upwards.1.collection twinSchema.storage).documents.Perm
        (downwards.1.collection twinSchema.storage).documents ∧
      ∃ first second,
        ((fetch Store.executor).runFrom (onePerPageOfTwins, upwards)).1 =
          .ok first ∧
        ((fetch Store.executor).runFrom (onePerPageOfTwins, downwards)).1 =
          .ok second ∧
        first.items ≠ second.items := by
  refine ⟨rfl, rfl, rfl, rfl, toldApart_upwards, upwards_perm_downwards, _, _,
    rfl, rfl, ?_⟩
  decide

end Paginator

end PolyQuery
