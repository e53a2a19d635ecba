import PolyQuery.Proofs.Document.OrderTerms
import PolyQuery.Proofs.Document.PlainKeys

namespace PolyQuery

/-!
# Documents in the order of a query

A store arranges documents by the entries of the sort document. Where the first
and the last term for each key ask for one direction, that is the order that
the terms ask for. Where they do not, two documents with nothing but that key
come out in the order of its last term.
-/

namespace DocumentCompiler

/-- The keys that a query orders by with their directions, in call order. -/
def orderKeys
    (query : Query) :
    Entries Direction :=
  query.order.map fun term =>
    (targetKey query.schema term.target, term.direction)

/-- The number that stands for a direction in a sort document. -/
def directionMark : Direction → Json
  | .ascending => .ofInt 1
  | .descending => .ofInt (-1)

theorem signed?_directionMark
    (direction : Direction) :
    (directionMark direction).signed? = some (-1) ↔
      direction = .descending := by
  cases direction <;> decide

end DocumentCompiler

namespace Document

open DocumentCompiler (orderKeys)

/--
A sort document orders as its entries do, in which minus one is
the downward direction.
-/
theorem orderBy_eq_lexicographic
    {spec : Document}
    {entries : Entries Direction}
    (alike :
      Entries.Alike Eq
        (fun value direction => (value.signed? = some (-1)) ↔
          direction = .descending)
        spec entries)
    (left right : Document) :
    orderBy (SortKey.ofDocument spec) left right =
      lexicographic Json.sortOrder entries left right := by
  induction alike with
  | nil =>
      rfl
  | @cons entry other rest others headAlike _ inductionHypothesis =>
      obtain ⟨key, value⟩ := entry
      obtain ⟨keyToo, direction⟩ := other
      obtain ⟨rfl, downwards⟩ := headAlike
      have directed :
          orderBy (SortKey.ofDocument ((key, value) :: rest)) left right =
            (orderUnder Json.sortOrder key direction left right).then
              (orderBy (SortKey.ofDocument rest) left right) := by
        cases direction with
        | ascending =>
            have upwards : value.signed? ≠ some (-1) :=
              fun isDown => nomatch downwards.mp isDown
            simp only [SortKey.ofDocument, List.map_cons, orderBy, orderUnder,
              upwards, decide_false, Bool.false_eq_true, if_false]
            cases Json.sortOrder _ _ <;> rfl
        | descending =>
            simp only [SortKey.ofDocument, List.map_cons, orderBy, orderUnder,
              downwards.mpr rfl, decide_true, if_true]
            cases Json.sortOrder _ _ <;> rfl
      rw [directed, inductionHypothesis, lexicographic]

/-- The document that holds a truth value under one key. -/
def flagged
    (key : String)
    (truth : Bool) :
    Document :=
  [(key, .bool truth)]

section Flagged

variable
  {key : String}
  (plain : IsPlainKey key)

include plain

theorem lookup?_flagged
    (truth : Bool)
    (path : String) :
    (flagged key truth).lookup? path =
      if path = key then some (.bool truth) else none := by
  by_cases isKey : path = key
  · rw [if_pos isKey, isKey, lookup?_of_plain plain]
    simp [flagged]
  · obtain ⟨rest, isCons, single⟩ := Path.segments_eq_cons path
    rw [if_neg isKey, lookup?, isCons, Path.get?]
    by_cases isRoot : Path.rootOf path = key
    · -- The path goes on into a truth value, where there is nothing.
      have goesOn : rest ≠ [] := by
        intro isNil
        exact isKey ((Path.rootOf_of_plain (single.mp isNil)).symm.trans isRoot)
      obtain ⟨segment, others, rfl⟩ := List.exists_cons_of_ne_nil goesOn
      simp [flagged, isRoot, Path.get?]
    · simp [flagged, Ne.symm isRoot]

/--
Two documents with nothing but a key stand as the first entry for it asks.
-/
theorem lexicographic_flagged
    (entries : Entries Direction) :
    lexicographic Json.sortOrder entries (flagged key false)
        (flagged key true) =
      match entries.get? key with
      | some .ascending => .lt
      | some .descending => .gt
      | none => .eq := by
  induction entries with
  | nil =>
      rfl
  | cons entry rest inductionHypothesis =>
      obtain ⟨name, direction⟩ := entry
      unfold lexicographic orderUnder
      rw [inductionHypothesis, lookup?_flagged plain, lookup?_flagged plain]
      by_cases isKey : name = key
      · have less :
            Json.sortOrder (some (.bool false)) (some (.bool true)) = .lt := by
          decide
        cases direction <;> simp [isKey, less]
      · cases direction <;> simp [isKey, Json.sortOrder, Json.isAbsent]

theorem comparable_flagged
    (keys : List String) :
    ComparableUnder keys [flagged key false, flagged key true] := by
  have compared :
      ∀ path ∈ keys,
        Json.Comparable ((flagged key false).lookup? path)
          ((flagged key true).lookup? path) := by
    intro path _
    rw [lookup?_flagged plain, lookup?_flagged plain]
    by_cases isKey : path = key
    · rw [if_pos isKey, if_pos isKey]
      exact .inr (.inr ⟨.bool false, .bool true, rfl, rfl, rfl⟩)
    · rw [if_neg isKey, if_neg isKey]
      exact .inl rfl
  exact .cons (by simpa using compared) (List.pairwise_singleton _ _)

end Flagged

end Document

namespace Store

open DocumentCompiler (orderKeys)

/--
Documents are arranged by the entries that the order terms leave
in the sort document.
-/
theorem arranged_eq_sort
    (query : Query)
    (documents : List Document) :
    arranged query documents =
      Document.sort
        (Document.lexicographic Json.sortOrder
          (Entries.ofList (orderKeys query)))
        documents := by
  have isSort :
      (DocumentCompiler.window query).sort =
        DocumentCompiler.targetMapping? (query.order.map fun term =>
          (DocumentCompiler.targetKey query.schema term.target,
            DocumentCompiler.directionMark term.direction)) :=
    rfl
  have alike :
      Entries.Alike Eq
        (fun value direction => (value.signed? = some (-1)) ↔
          direction = .descending)
        (query.order.map fun term =>
          (DocumentCompiler.targetKey query.schema term.target,
            DocumentCompiler.directionMark term.direction))
        (orderKeys query) := by
    apply List.forall₂_map_left_iff.mpr
    apply List.forall₂_map_right_iff.mpr
    apply List.forall₂_same.mpr
    exact fun term _ =>
      ⟨rfl, DocumentCompiler.signed?_directionMark term.direction⟩
  rw [arranged, isSort, DocumentCompiler.targetMapping?,
    Entries.isEmpty_eq_of_forall₂ alike]
  split
  next spec isSpec =>
    have isMapping := (Option.ite_none_left_eq_some.mp isSpec).2
    cases isMapping
    refine congrArg (Document.sort · documents) ?_
    funext left right
    exact Document.orderBy_eq_lexicographic (alike.ofList Entries.oneToOne_eq)
      left right
  next isNone =>
    have noTerms : orderKeys query = [] := by
      simpa using isNone
    rw [noTerms]
    exact (Document.sort_lexicographic_nil documents).symm

/-- Whether the order terms of a query let one document stand before another. -/
def termsAllow
    (query : Query)
    (left right : Document) :
    Bool :=
  (Document.lexicographic Json.sortOrder (orderKeys query) left right).isLE

/-- Whether the terms do so if each key has the direction of its last term. -/
def lastTermsAllow
    (query : Query)
    (left right : Document) :
    Bool :=
  (Document.lexicographic Json.sortOrder (Entries.ofList (orderKeys query))
    left right).isLE

theorem arranged_eq_mergeSort
    {query : Query}
    {documents : List Document}
    (comparable : Document.ComparableUnder (orderKeys query).keys documents) :
    arranged query documents = documents.mergeSort (lastTermsAllow query) := by
  have within :
      (Entries.ofList (orderKeys query)).keys ⊆ (orderKeys query).keys := by
    intro key member
    obtain ⟨entry, entryMember, rfl⟩ := List.mem_map.mp member
    exact List.mem_map_of_mem (Entries.mem_of_mem_ofList entryMember)
  rw [arranged_eq_sort, Document.sort_lexicographic (comparable.mono within)]
  rfl

theorem lastTermsAllow_of_endsAgree
    {query : Query}
    (agree : (orderKeys query).EndsAgree) :
    lastTermsAllow query = termsAllow query := by
  funext left right
  rw [lastTermsAllow, agree.ofList_eq_fill, Document.lexicographic_fill]
  rfl

theorem mergeSort_pair
    (allowed : Document → Document → Bool)
    (first second : Document) :
    [first, second].mergeSort allowed =
      if allowed first second then [first, second] else [second, first] := by
  simp [List.mergeSort, List.MergeSort.Internal.splitInTwo, List.merge]

/--
Two documents with nothing but a key stand in the direction of its last term.
-/
theorem terms_differ_on_flagged
    {query : Query}
    {key : String}
    (plain : IsPlainKey key)
    (differ :
      (orderKeys query).get? key ≠ Entries.get? (orderKeys query).reverse key) :
    termsAllow query (Document.flagged key false) (Document.flagged key true) ≠
      lastTermsAllow query (Document.flagged key false)
        (Document.flagged key true) := by
  rw [termsAllow, lastTermsAllow, Document.lexicographic_flagged plain,
    Document.lexicographic_flagged plain, Entries.get?_ofList]
  have bothOrNone :
      Entries.get? (orderKeys query).reverse key = none ↔
        (orderKeys query).get? key = none :=
    Entries.get?_reverse_eq_none_iff
  revert differ bothOrNone
  generalize (orderKeys query).get? key = first
  generalize Entries.get? (orderKeys query).reverse key = last
  rcases first with _ | ⟨_ | _⟩ <;> rcases last with _ | ⟨_ | _⟩ <;> simp

/--
Documents are arranged in the order of the terms, each key in the direction of
its last term. So the terms are followed where the first and the last term for
each key agree, and where they do not there are documents on which they are not.
-/
theorem arranged_by_terms
    (query : Query) :
    (∀ documents, Document.ComparableUnder (orderKeys query).keys documents →
        arranged query documents = documents.mergeSort (lastTermsAllow query)) ∧
      ((orderKeys query).EndsAgree →
        ∀ documents, Document.ComparableUnder (orderKeys query).keys documents →
          arranged query documents = documents.mergeSort (termsAllow query)) ∧
      ∀ key, IsPlainKey key →
        (orderKeys query).get? key ≠
            Entries.get? (orderKeys query).reverse key →
          ∃ documents,
            Document.ComparableUnder (orderKeys query).keys documents ∧
            arranged query documents ≠
              documents.mergeSort (termsAllow query) := by
  refine ⟨fun documents => arranged_eq_mergeSort,
    fun agree documents comparable => ?_,
    fun key plain differ => ?_⟩
  · rw [arranged_eq_mergeSort comparable, lastTermsAllow_of_endsAgree agree]
  · have comparable := Document.comparable_flagged plain (orderKeys query).keys
    refine ⟨[Document.flagged key false, Document.flagged key true], comparable,
      ?_⟩
    have differently := terms_differ_on_flagged plain differ
    rw [arranged_eq_mergeSort comparable, mergeSort_pair, mergeSort_pair]
    intro same
    have apart : Document.flagged key false ≠ Document.flagged key true := by
      simp [Document.flagged]
    revert differently same
    cases termsAllow query _ _ <;> cases lastTermsAllow query _ _ <;>
      simp [apart, apart.symm]

/-- A select of all rows of an entity with two fields, in some order. -/
def ordering
    (order : List OrderTerm) :
    Query where
  kind := .select
  schema := {
    name := "t"
    storageName := none
    fields := [
      { name := "id", column := none, primary := true, onInsert := none,
        onUpdate := none },
      { name := "a", column := none, primary := false, onInsert := none,
        onUpdate := none }]
  }
  values := none
  order := order

/--
An order by one field in one direction, by the identifier,
and by the field again.
-/
def repeatedTerms : List OrderTerm :=
  [⟨.field "a", .descending⟩, ⟨.field "id", .ascending⟩,
    ⟨.field "a", .descending⟩]

/-- An order by one field in one direction and then in the other. -/
def turnedTerms : List OrderTerm :=
  [⟨.field "a", .ascending⟩, ⟨.field "a", .descending⟩]

/-- Repeating a term does no harm, turning it round does. -/
theorem arranged_by_terms_of_repeated :
    arranged (ordering repeatedTerms)
      [Document.flagged "a" false, Document.flagged "a" true] =
        [Document.flagged "a" false, Document.flagged "a" true].mergeSort
          (termsAllow (ordering repeatedTerms)) ∧
      ∃ documents,
        Document.ComparableUnder (orderKeys (ordering turnedTerms)).keys
            documents ∧
          arranged (ordering turnedTerms) documents ≠
            documents.mergeSort (termsAllow (ordering turnedTerms)) := by
  have plain : IsPlainKey "a" := by decide
  refine ⟨?_, ?_⟩
  · exact (arranged_by_terms (ordering repeatedTerms)).2.1 (by decide) _
      (Document.comparable_flagged plain _)
  · exact (arranged_by_terms (ordering turnedTerms)).2.2 "a" plain (by decide)

/--
Of a field that is asked for upwards and then downwards, the
greater value comes first.
-/
theorem later_direction_decides :
    Document.ComparableUnder (orderKeys (ordering turnedTerms)).keys
        [Document.flagged "a" false, Document.flagged "a" true] ∧
      arranged (ordering turnedTerms)
          [Document.flagged "a" false, Document.flagged "a" true] ≠
        [Document.flagged "a" false, Document.flagged "a" true].mergeSort
          (termsAllow (ordering turnedTerms)) := by
  have plain : IsPlainKey "a" := by decide
  have comparable :=
    Document.comparable_flagged plain (orderKeys (ordering turnedTerms)).keys
  refine ⟨comparable, ?_⟩
  rw [arranged_eq_mergeSort comparable, mergeSort_pair, mergeSort_pair]
  decide

end Store

end PolyQuery
