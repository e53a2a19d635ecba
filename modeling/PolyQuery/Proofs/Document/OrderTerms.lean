import PolyQuery.Proofs.AlikeEntries
import PolyQuery.Proofs.Document.Answers
import PolyQuery.Proofs.Document.StableSorting

namespace PolyQuery

/-!
# Order terms and the sort document

A select is ordered by a list of terms, and its sort document holds their keys.
A key that several terms name stands in the document once, in the place of its
first term and in the direction of its last one. So a store sorts by the terms
exactly if no key is named in one direction first and in the other one last.
-/

namespace Entries

variable {α : Type}

/--
Entries with distinct names are told apart by their names in order
and by their values.
-/
theorem eq_of_get?_eq
    {first second : Entries α}
    (distinct : first.Distinct)
    (sameKeys : first.keys = second.keys)
    (sameValues : ∀ key, first.get? key = second.get? key) :
    first = second := by
  induction first generalizing second with
  | nil =>
      exact (List.map_eq_nil_iff.mp sameKeys.symm).symm
  | cons entry rest inductionHypothesis =>
      cases second with
      | nil =>
          cases sameKeys
      | cons other others =>
          obtain ⟨name, value⟩ := entry
          obtain ⟨otherName, otherValue⟩ := other
          obtain ⟨sameName, sameRest⟩ := List.cons.inj sameKeys
          obtain ⟨notAgain, restDistinct⟩ := List.nodup_cons.mp distinct
          subst sameName
          have sameValue : value = otherValue := by
            simpa using sameValues name
          subst sameValue
          refine congrArg (List.cons _)
            (inductionHypothesis restDistinct sameRest fun key => ?_)
          by_cases isName : name = key
          · subst isName
            have notAgainToo : name ∉ keys others := by rwa [keys, ← sameRest]
            rw [get?_eq_none_iff.mpr notAgain, get?_eq_none_iff.mpr notAgainToo]
          · simpa [isName] using sameValues key

/-- Storing pairs and filling with them name the same keys. -/
theorem keys_insertAll_eq_keys_fill
    {entries others : Entries α}
    (sameKeys : entries.keys = others.keys)
    (pairs : Entries α) :
    (entries.insertAll pairs).keys = (others.fill pairs).keys := by
  induction pairs generalizing entries others with
  | nil =>
      exact sameKeys
  | cons pair rest inductionHypothesis =>
      refine inductionHypothesis
        (?_ : (entries.insert _ _).keys = (others.insertIfAbsent _ _).keys)
      rw [insert, insertIfAbsent, keys_alter, keys_alter, sameKeys]

/-- Of every name the first value is the last one. -/
def EndsAgree
    (pairs : Entries α) :
    Prop :=
  ∀ key ∈ pairs.keys, pairs.get? key = Entries.get? pairs.reverse key

instance
    [DecidableEq α]
    (pairs : Entries α) :
    Decidable pairs.EndsAgree :=
  inferInstanceAs (Decidable (∀ key ∈ pairs.keys, _))

/--
Where first and last values agree, it does not matter which of them are kept.
-/
theorem EndsAgree.ofList_eq_fill
    {pairs : Entries α}
    (agree : pairs.EndsAgree) :
    ofList pairs = fill [] pairs := by
  have distinct : Distinct (ofList pairs) :=
    distinct_insertAll (show Distinct [] from List.nodup_nil) pairs
  refine eq_of_get?_eq distinct (keys_insertAll_eq_keys_fill rfl pairs)
    fun key => ?_
  rw [get?_ofList, get?_fill, get?_nil, Option.none_or]
  by_cases member : key ∈ pairs.keys
  · exact (agree key member).symm
  · have absent := get?_eq_none_iff.mpr member
    rw [absent, get?_reverse_eq_none_iff.mpr absent]

end Entries

namespace Document

/-- The order of two documents by their values under a key, in a direction. -/
def orderUnder
    (values : Option Json → Option Json → Ordering)
    (key : String)
    (direction : Direction)
    (left right : Document) :
    Ordering :=
  let order := values (left.lookup? key) (right.lookup? key)
  match direction with
  | .ascending => order
  | .descending => order.swap

/--
The order by several keys: the first under which two documents differ decides.
-/
def lexicographic
    (values : Option Json → Option Json → Ordering) :
    Entries Direction →
    Document →
    Document →
    Ordering
  | [], _, _ => .eq
  | (key, direction) :: rest, left, right =>
      (orderUnder values key direction left right).then
        (lexicographic values rest left right)

section Lexicographic

variable
  {values : Option Json → Option Json → Ordering}
  {left right : Document}

theorem lexicographic_append
    (first second : Entries Direction) :
    lexicographic values (first ++ second) left right =
      (lexicographic values first left right).then
        (lexicographic values second left right) := by
  induction first with
  | nil =>
      rfl
  | cons entry rest inductionHypothesis =>
      obtain ⟨key, direction⟩ := entry
      rw [List.cons_append, lexicographic, lexicographic, inductionHypothesis,
        Ordering.then_assoc]

/--
Documents that a lexicographic order does not tell apart have equal
values under its keys.
-/
theorem values_eq_of_lexicographic_eq
    {entries : Entries Direction}
    (equal : lexicographic values entries left right = .eq)
    {key : String}
    (member : key ∈ entries.keys) :
    values (left.lookup? key) (right.lookup? key) = .eq := by
  induction entries with
  | nil =>
      cases member
  | cons entry rest inductionHypothesis =>
      obtain ⟨name, direction⟩ := entry
      obtain ⟨headEqual, restEqual⟩ := Ordering.then_eq_eq.mp equal
      rcases List.mem_cons.mp member with isHead | inRest
      · subst isHead
        cases direction with
        | ascending =>
            exact headEqual
        | descending =>
            exact Ordering.swap_eq_eq.mp headEqual
      · exact inductionHypothesis restEqual inRest

/-- Of the terms for one key only the first one can decide. -/
theorem lexicographic_fill
    (entries pairs : Entries Direction) :
    lexicographic values (entries.fill pairs) left right =
      lexicographic values (entries ++ pairs) left right := by
  induction pairs generalizing entries with
  | nil =>
      rw [List.append_nil]
      rfl
  | cons pair rest inductionHypothesis =>
      obtain ⟨key, direction⟩ := pair
      have step :
          entries.fill ((key, direction) :: rest) =
            (entries.insertIfAbsent key direction).fill rest :=
        rfl
      rw [step, inductionHypothesis]
      by_cases member : key ∈ entries.keys
      · -- Where the earlier keys do not decide, this one does not either.
        obtain ⟨stored, found⟩ :=
          Option.isSome_iff_exists.mp (Entries.contains_iff_mem_keys.mpr member)
        have unchanged : entries.insertIfAbsent key direction = entries :=
          Entries.alter_of_get? found rfl
        rw [unchanged, lexicographic_append, lexicographic_append,
          lexicographic]
        cases earlier : lexicographic values entries left right with
        | eq =>
            have equal := values_eq_of_lexicographic_eq earlier member
            have undecided :
                orderUnder values key direction left right = .eq := by
              cases direction <;> simp [orderUnder, equal]
            rw [undecided]
            rfl
        | lt | gt =>
            rfl
      · have joined :
            entries.insertIfAbsent key direction =
              entries ++ [(key, direction)] :=
          Entries.alter_of_not_mem member fun existing =>
            existing.getD direction
        rw [joined, List.append_assoc]
        rfl

/--
A lexicographic order of documents is consistent if the
order of their values is.
-/
theorem transCmp_lexicographic
    (consistent : Std.TransCmp values)
    (entries : Entries Direction) :
    Std.TransCmp (lexicographic values entries) := by
  induction entries with
  | nil =>
      exact { eq_swap := rfl, isLE_trans := fun _ _ => rfl }
  | cons entry rest inductionHypothesis =>
      obtain ⟨key, direction⟩ := entry
      have ascending : Std.TransCmp (orderUnder values key .ascending) :=
        transCmp_through consistent fun document : Document =>
          document.lookup? key
      have head : Std.TransCmp (orderUnder values key direction) := by
        cases direction with
        | ascending =>
            exact ascending
        | descending =>
            have swapped :
                orderUnder values key .descending =
                  fun left right =>
                    orderUnder values key .ascending right left := by
              funext left right
              exact ascending.eq_swap.symm
            rw [swapped]
            exact Std.TransCmp.opposite
      exact inferInstanceAs (Std.TransCmp (compareLex _ _))

theorem lexicographic_congr
    {others : Option Json → Option Json → Ordering}
    {entries : Entries Direction}
    (alike :
      ∀ key ∈ entries.keys,
        values (left.lookup? key) (right.lookup? key) =
          others (left.lookup? key) (right.lookup? key)) :
    lexicographic values entries left right =
      lexicographic others entries left right := by
  induction entries with
  | nil =>
      rfl
  | cons entry rest inductionHypothesis =>
      obtain ⟨headAlike, restAlike⟩ := List.forall_mem_cons.mp alike
      have headOrdered :
          orderUnder values entry.1 entry.2 left right =
            orderUnder others entry.1 entry.2 left right := by
        simp only [orderUnder, headAlike]
      rw [lexicographic, lexicographic, headOrdered,
        inductionHypothesis restAlike]

end Lexicographic

/-- Any two of some documents compare under each of some keys. -/
def ComparableUnder
    (keys : List String)
    (documents : List Document) :
    Prop :=
  documents.Pairwise fun left right =>
    ∀ key ∈ keys, Json.Comparable (left.lookup? key) (right.lookup? key)

theorem ComparableUnder.mono
    {keys fewer : List String}
    {documents : List Document}
    (comparable : ComparableUnder keys documents)
    (within : fewer ⊆ keys) :
    ComparableUnder fewer documents :=
  comparable.imp fun compared key member => compared key (within member)

/-- The order of values by their ranks. -/
def rankOrder
    (left right : Option Json) :
    Ordering :=
  (Json.rank left).order (Json.rank right)

instance : Std.TransCmp rankOrder :=
  transCmp_through inferInstance Json.rank

/--
Two documents are ordered under each of some keys as the ranks
of their values are.
-/
def RankedUnder
    (keys : List String)
    (left right : Document) :
    Prop :=
  ∀ key ∈ keys,
    Json.sortOrder (left.lookup? key) (right.lookup? key) =
      rankOrder (left.lookup? key) (right.lookup? key)

/--
Any two of documents that compare are ordered as the ranks of their values are.
-/
theorem ComparableUnder.ranked
    {keys : List String}
    {documents : List Document}
    (comparable : ComparableUnder keys documents)
    {left right : Document}
    (leftMember : left ∈ documents)
    (rightMember : right ∈ documents) :
    RankedUnder keys left right := by
  have onward : documents.Pairwise (RankedUnder keys) :=
    comparable.imp fun compared key member =>
      Json.sortOrder_eq_order_rank (compared key member)
  have backward : documents.Pairwise (flip (RankedUnder keys)) :=
    comparable.imp fun compared key member =>
      Json.sortOrder_eq_order_rank (compared key member).symm
  have self : ∀ document ∈ documents, RankedUnder keys document document := by
    intro document _ key _
    rw [Json.sortOrder_self]
    exact Std.ReflCmp.compare_self.symm
  exact onward.forall_of_forall_of_flip self backward leftMember rightMember

/-- Documents that compare are sorted as the library's stable sort puts them. -/
theorem sort_lexicographic
    {entries : Entries Direction}
    {documents : List Document}
    (comparable : ComparableUnder entries.keys documents) :
    sort (lexicographic Json.sortOrder entries) documents =
      documents.mergeSort fun left right =>
        (lexicographic Json.sortOrder entries left right).isLE := by
  have consistent : Std.TransCmp (lexicographic rankOrder entries) :=
    transCmp_lexicographic inferInstance entries
  have rankedAlike :
      ∀ left ∈ documents, ∀ right ∈ documents,
        lexicographic Json.sortOrder entries left right =
          lexicographic rankOrder entries left right :=
    fun left leftMember right rightMember =>
      lexicographic_congr (comparable.ranked leftMember rightMember)
  rw [sort_congr rankedAlike, sort_eq_mergeSort]
  have mergedAlike :=
    List.map_mergeSort (f := id)
      (r := fun left right => (lexicographic rankOrder entries left right).isLE)
      (s :=
        fun left right =>
          (lexicographic Json.sortOrder entries left right).isLE)
      (l := documents) fun left leftMember right rightMember => by
        simp only [id, rankedAlike left leftMember right rightMember]
  simpa using mergedAlike

/-- Without keys to sort by, documents stand as they stood. -/
theorem sort_lexicographic_nil
    (documents : List Document) :
    sort (lexicographic Json.sortOrder []) documents = documents := by
  have comparable :
      ComparableUnder (Entries.keys ([] : Entries Direction)) documents :=
    List.pairwise_of_forall fun _ _ _ member => nomatch member
  rw [sort_lexicographic comparable]
  exact List.mergeSort_of_pairwise (List.pairwise_of_forall fun _ _ => rfl)

end Document

end PolyQuery
