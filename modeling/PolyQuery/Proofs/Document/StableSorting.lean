import Mathlib.Data.List.Sort
import PolyQuery.Document.Order

namespace PolyQuery

/-!
# Stable sorting

Sorting by a consistent order is determined by two properties: the result is in
order, and documents that count as equal stand as they stood. So documents are
sorted exactly as the library's stable sort puts them.

The order of values is consistent wherever they compare. There it is the order
of their ranks, which put the kinds of values one after the other.
-/

section Stability

variable
  {α : Type}
  {order : α → α → Ordering}
  [Std.TransCmp order]

/--
Lists in order with the same items are equal if in both of
them equals stand alike.
-/
theorem eq_of_sorted_of_stable
    {first second : List α}
    (firstSorted : first.Pairwise fun left right => (order left right).isLE)
    (secondSorted : second.Pairwise fun left right => (order left right).isLE)
    (perm : first.Perm second)
    (stable :
      ∀ item,
        first.filter (fun other => order item other = .eq) =
          second.filter fun other => order item other = .eq) :
    first = second := by
  induction first generalizing second with
  | nil =>
      exact (List.nil_perm.mp perm).symm
  | cons head rest inductionHypothesis =>
      cases second with
      | nil =>
          exact absurd perm.eq_nil (List.cons_ne_nil head rest)
      | cons other others =>
          obtain ⟨headFirst, restSorted⟩ := List.pairwise_cons.mp firstSorted
          obtain ⟨otherFirst, othersSorted⟩ :=
            List.pairwise_cons.mp secondSorted
          -- Each of the two heads stands in the other list, so neither comes
          -- after the other.
          have headLE : (order head other).isLE := by
            rcases List.mem_cons.mp (perm.mem_iff.mpr List.mem_cons_self) with
                isHead | inRest
            · rw [isHead]
              exact Std.ReflCmp.isLE_rfl
            · exact headFirst other inRest
          have otherLE : (order other head).isLE := by
            rcases List.mem_cons.mp (perm.mem_iff.mp List.mem_cons_self) with
                isOther | inOthers
            · rw [isOther]
              exact Std.ReflCmp.isLE_rfl
            · exact otherFirst head inOthers
          have equals : order head other = .eq :=
            Std.OrientedCmp.isLE_antisymm headLE otherLE
          have sameHead : head = other := by
            have heads := stable head
            rw [List.filter_cons_of_pos
              (by simpa using Std.ReflCmp.compare_self),
              List.filter_cons_of_pos (by simpa using equals)] at heads
            exact (List.cons.inj heads).1
          subst sameHead
          refine congrArg (List.cons head) ?_
          refine inductionHypothesis restSorted othersSorted perm.cons_inv
            fun item => ?_
          have whole := stable item
          simp only [List.filter_cons] at whole
          split at whole
          · exact (List.cons.inj whole).2
          · exact whole

theorem isLE_total
    (left right : α) :
    ((order left right).isLE || (order right left).isLE) = true := by
  have swapped : order right left = (order left right).swap :=
    Std.OrientedCmp.eq_swap
  rw [swapped]
  cases order left right <;> rfl

/-- The library's sort puts items in order. -/
theorem mergeSort_sorted
    (items : List α) :
    (items.mergeSort fun left right => (order left right).isLE).Pairwise
      fun left right => (order left right).isLE = true :=
  List.pairwise_mergeSort (fun _ _ _ => Std.TransCmp.isLE_trans) isLE_total
    items

omit [Std.TransCmp order] in
/-- Items ordered by something of them are ordered consistently if that is. -/
theorem transCmp_through
    {β : Type}
    (consistent : Std.TransCmp order)
    (view : β → α) :
    Std.TransCmp fun left right => order (view left) (view right) where
  eq_swap := consistent.eq_swap
  isLE_trans := consistent.isLE_trans

/-- Items that all count as equal to one are in order, however they stand. -/
theorem pairwise_filter_eq
    (items : List α)
    (item : α) :
    (items.filter fun other => order item other = .eq).Pairwise
      fun left right => (order left right).isLE = true := by
  refine List.pairwise_of_forall_mem_list
    fun left leftMember right rightMember => ?_
  have leftEqual : order item left = .eq := by
    simpa using (List.mem_filter.mp leftMember).2
  have rightEqual : order item right = .eq := by
    simpa using (List.mem_filter.mp rightMember).2
  rw [Std.TransCmp.eq_trans (Std.OrientedCmp.eq_symm leftEqual) rightEqual]
  rfl

/-- The library's sort leaves items that count as equal as they stand. -/
theorem filter_mergeSort
    (items : List α)
    (item : α) :
    (items.mergeSort fun left right => (order left right).isLE).filter
        (fun other => order item other = .eq) =
      items.filter fun other => order item other = .eq := by
  have kept :
      (items.filter fun other => order item other = .eq).Sublist
        (items.mergeSort fun left right => (order left right).isLE) :=
    List.sublist_mergeSort (fun _ _ _ => Std.TransCmp.isLE_trans) isLE_total
      (pairwise_filter_eq items item) List.filter_sublist
  have among := kept.filter fun other => decide (order item other = .eq)
  simp only [List.filter_filter, Bool.and_self] at among
  refine (among.eq_of_length ?_).symm
  exact ((List.mergeSort_perm items _).filter _).length_eq.symm

end Stability

namespace Document

/--
Sorted documents, the last first, with further ones put in one after the other.
-/
def sortedAfter
    (order : Document → Document → Ordering)
    (sorted documents : List Document) :
    List Document :=
  documents.foldl (fun sorted document => insertSorted order document sorted)
    sorted

section Sorting

variable
  (order : Document → Document → Ordering)
  (document : Document)
  (sorted documents : List Document)

theorem sortedAfter_cons :
    sortedAfter order sorted (document :: documents) =
      sortedAfter order (insertSorted order document sorted) documents :=
  rfl

theorem sort_eq_reverse :
    sort order documents = (sortedAfter order [] documents).reverse :=
  rfl

theorem insertSorted_perm :
    (insertSorted order document sorted).Perm (document :: sorted) := by
  induction sorted with
  | nil =>
      exact .refl _
  | cons last rest inductionHypothesis =>
      rw [insertSorted]
      split
      · exact (inductionHypothesis.cons last).trans (.swap document last rest)
      · exact .refl _

theorem sortedAfter_perm :
    (sortedAfter order sorted documents).Perm (documents ++ sorted) := by
  induction documents generalizing sorted with
  | nil =>
      exact .refl _
  | cons document rest inductionHypothesis =>
      refine (inductionHypothesis (insertSorted order document sorted)).trans ?_
      exact ((insertSorted_perm order document sorted).append_left rest).trans
        List.perm_middle

/-- Sorting keeps the documents. -/
theorem sort_perm :
    (sort order documents).Perm documents := by
  have inserted := sortedAfter_perm order [] documents
  rw [List.append_nil] at inserted
  exact (List.reverse_perm _).trans inserted

variable {order document sorted documents}

theorem insertSorted_congr
    {other : Document → Document → Ordering}
    (alike : ∀ last ∈ sorted, order document last = other document last) :
    insertSorted order document sorted =
      insertSorted other document sorted := by
  induction sorted with
  | nil =>
      rfl
  | cons last rest inductionHypothesis =>
      obtain ⟨lastAlike, restAlike⟩ := List.forall_mem_cons.mp alike
      rw [insertSorted, insertSorted, lastAlike, inductionHypothesis restAlike]

/-- Only the order of the documents that are sorted matters. -/
theorem sort_congr
    {other : Document → Document → Ordering}
    (alike :
      ∀ left ∈ documents, ∀ right ∈ documents,
        order left right = other left right) :
    sort order documents = sort other documents := by
  -- What is sorted already are documents of the list as well.
  have sortedAlike :
      ∀ rest sorted : List Document, rest ⊆ documents → sorted ⊆ documents →
        sortedAfter order sorted rest = sortedAfter other sorted rest := by
    intro rest
    induction rest with
    | nil =>
        intro sorted _ _
        rfl
    | cons document rest inductionHypothesis =>
        intro sorted within sortedWithin
        obtain ⟨documentWithin, restWithin⟩ := List.cons_subset.mp within
        have insertedWithin :
            insertSorted order document sorted ⊆ documents := by
          intro inserted member
          rcases List.mem_cons.mp
              ((insertSorted_perm order document sorted).mem_iff.mp member)
            with isDocument | inSorted
          · exact isDocument ▸ documentWithin
          · exact sortedWithin inSorted
        have insertedAlike :
            insertSorted order document sorted =
              insertSorted other document sorted :=
          insertSorted_congr fun last member =>
            alike document documentWithin last (sortedWithin member)
        rw [sortedAfter_cons, sortedAfter_cons, ← insertedAlike]
        exact inductionHypothesis _ restWithin insertedWithin
  exact congrArg List.reverse
    (sortedAlike documents [] (List.Subset.refl _) (List.nil_subset _))

variable [Std.TransCmp order]

theorem insertSorted_sorted
    (descending :
      sorted.Pairwise fun later earlier => (order earlier later).isLE) :
    (insertSorted order document sorted).Pairwise
      fun later earlier => (order earlier later).isLE := by
  induction sorted with
  | nil =>
      exact List.pairwise_singleton _ document
  | cons last rest inductionHypothesis =>
      obtain ⟨lastLatest, restDescending⟩ := List.pairwise_cons.mp descending
      rw [insertSorted]
      split
      next precedes =>
        refine List.pairwise_cons.mpr ⟨?_, inductionHypothesis restDescending⟩
        intro other member
        rcases List.mem_cons.mp
            ((insertSorted_perm order document rest).mem_iff.mp member)
          with isDocument | inRest
        · rw [isDocument, precedes]
          rfl
        · exact lastLatest other inRest
      next notBefore =>
        have lastLE : (order last document).isLE := by
          by_contra notLE
          exact notBefore (Std.OrientedCmp.lt_of_not_isLE notLE)
        refine List.pairwise_cons.mpr ⟨?_, descending⟩
        intro other member
        rcases List.mem_cons.mp member with isLast | inRest
        · exact isLast ▸ lastLE
        · exact Std.TransCmp.isLE_trans (lastLatest other inRest) lastLE

/-- Among those that count as equal to an item, the new document comes last. -/
theorem filter_insertSorted
    (item : Document) :
    (insertSorted order document sorted).filter
        (fun other => order item other = .eq) =
      (document :: sorted).filter fun other => order item other = .eq := by
  induction sorted with
  | nil =>
      rfl
  | cons last rest inductionHypothesis =>
      rw [insertSorted]
      split
      next precedes =>
        by_cases documentEqual : order item document = .eq
        · have lastDiffers : order item last ≠ .eq := by
            rw [Std.TransCmp.congr_left documentEqual, precedes]
            nofun
          rw [List.filter_cons, inductionHypothesis]
          simp [List.filter_cons, lastDiffers]
        · rw [List.filter_cons, inductionHypothesis]
          simp [List.filter_cons, documentEqual]
      next =>
        rfl

/--
Documents are sorted by a consistent order as the library's
stable sort puts them.
-/
theorem sort_eq_mergeSort :
    sort order documents = documents.mergeSort fun left right =>
      (order left right).isLE := by
  have sortedAfter_sorted :
      ∀ rest sorted : List Document,
        (sorted.Pairwise fun later earlier =>
          (order earlier later).isLE = true) →
          (sortedAfter order sorted rest).Pairwise fun later earlier =>
            (order earlier later).isLE = true := by
    intro rest
    induction rest with
    | nil =>
        exact fun _ descending => descending
    | cons document rest inductionHypothesis =>
        exact fun sorted descending =>
          inductionHypothesis _ (insertSorted_sorted descending)
  have filter_sortedAfter :
      ∀ (item : Document) (rest sorted : List Document),
        (sortedAfter order sorted rest).filter
            (fun other => order item other = .eq) =
          (rest.reverse ++ sorted).filter fun other =>
            order item other = .eq := by
    intro item rest
    induction rest with
    | nil =>
        exact fun _ => rfl
    | cons document rest inductionHypothesis =>
        intro sorted
        rw [sortedAfter_cons, inductionHypothesis, List.filter_append,
          filter_insertSorted, ← List.filter_append, List.reverse_cons,
          List.append_assoc]
        rfl
  refine eq_of_sorted_of_stable (List.pairwise_reverse.mpr ?_)
    (mergeSort_sorted documents)
    ((sort_perm order documents).trans (List.mergeSort_perm documents _).symm)
    fun item => ?_
  · exact sortedAfter_sorted documents [] .nil
  · rw [filter_mergeSort, sort_eq_reverse, List.filter_reverse,
      filter_sortedAfter, List.append_nil, ← List.filter_reverse,
      List.reverse_reverse]

end Sorting

end Document

namespace Json

/--
Where a value stands among all values: its kind, and its place within the kind.
-/
structure Rank where
  kind : Nat
  amount : Int := 0
  text : String := ""

/-- The order of ranks: by kind, then by place. -/
def Rank.order : Rank → Rank → Ordering :=
  compareLex (compareOn Rank.kind)
    (compareLex (compareOn Rank.amount) (compareOn Rank.text))

instance : Std.TransCmp Rank.order :=
  inferInstanceAs (Std.TransCmp (compareLex _ _))

/--
The rank of a value. What is missing or null comes first,
what has no order last.
-/
def rank : Option Json → Rank
  | none => { kind := 0 }
  | some .null => { kind := 0 }
  | some (.bool truth) => { kind := 1, amount := truth.toNat }
  | some (.number numeral) =>
      match numeral.binary64? with
      | some double => { kind := 2, amount := double.signedCode }
      | none => { kind := 5 }
  | some (.string text) => { kind := 3, text := text }
  | some (.object members) =>
      match ObjectId.ofJson? (.object members) with
      | some identifier =>
          { kind := 4, amount := HexDigit.toNat identifier.digits }
      | none => { kind := 5 }
  | some (.array _) => { kind := 5 }

/-- Two values compare: one of them is missing or null, or they are ordered. -/
def Comparable
    (left right : Option Json) :
    Prop :=
  isAbsent left = true ∨ isAbsent right = true ∨
    ∃ first second,
      left = some first ∧ right = some second ∧ (order? first second).isSome

theorem rank_of_absent
    {value : Option Json}
    (absent : isAbsent value = true) :
    rank value = { kind := 0 } := by
  rcases value with _ | value
  · rfl
  · cases value <;> first | rfl | cases absent

theorem kind_rank_pos
    {value : Option Json}
    (present : isAbsent value = false) :
    0 < (rank value).kind := by
  rcases value with _ | value
  · cases present
  · cases value with
    | null =>
        cases present
    | number numeral =>
        rw [rank]
        split <;> exact Nat.zero_lt_succ _
    | object members =>
        rw [rank]
        split <;> exact Nat.zero_lt_succ _
    | _ =>
        exact Nat.zero_lt_succ _

theorem Rank.order_of_lt
    {left right : Rank}
    (less : left.kind < right.kind) :
    left.order right = .lt := by
  simp [Rank.order, compareLex, compareOn, Nat.compare_eq_lt.mpr less]

/--
Ordered values are of one kind, in which they are ordered as their ranks are.
-/
theorem order_rank_of_order?
    {left right : Json}
    {decided : Ordering}
    (ordered : order? left right = some decided) :
    (rank (some left)).order (rank (some right)) = decided := by
  have sameKind :
      ∀ (kind : Nat) (first second : Int),
        Rank.order { kind := kind, amount := first }
            { kind := kind, amount := second } =
          compare first second := by
    intro kind first second
    simp [Rank.order, compareLex, compareOn]
  cases left <;> cases right <;> simp only [order?, reduceCtorEq] at ordered
  case bool.bool first second =>
    cases first <;> cases second <;> cases ordered <;> rfl
  case number.number first second =>
    split at ordered
    next firstDouble secondDouble isFirst isSecond =>
      cases ordered
      simp only [rank, isFirst, isSecond, sameKind]
      rfl
    next =>
      cases ordered
  case string.string first second =>
    cases ordered
    simp [rank, Rank.order, compareLex, compareOn]
  case object.object first second =>
    split at ordered
    next firstId secondId isFirst isSecond =>
      cases ordered
      simp only [rank, isFirst, isSecond, sameKind, ObjectId.order]
      simp only [compare, compareOfLessAndEq, Int.ofNat_lt, Int.natCast_inj]
    next =>
      cases ordered

theorem isSome_order?_comm
    (left right : Json) :
    (order? left right).isSome = (order? right left).isSome := by
  cases left <;> cases right <;> try rfl
  case number.number first second =>
    simp only [order?]
    cases first.binary64? <;> cases second.binary64? <;> rfl
  case object.object first second =>
    simp only [order?]
    cases ObjectId.ofJson? (.object first) <;>
      cases ObjectId.ofJson? (.object second) <;> rfl

theorem Comparable.symm
    {left right : Option Json}
    (comparable : Comparable left right) :
    Comparable right left := by
  rcases comparable with
      leftAbsent | rightAbsent | ⟨first, second, isLeft, isRight, ordered⟩
  · exact .inr (.inl leftAbsent)
  · exact .inl rightAbsent
  · exact .inr
      (.inr
        ⟨second, first, isRight, isLeft,
          isSome_order?_comm first second ▸ ordered⟩)

/-- Where values compare, their order is that of their ranks. -/
theorem sortOrder_eq_order_rank
    {left right : Option Json}
    (comparable : Comparable left right) :
    sortOrder left right = (rank left).order (rank right) := by
  unfold sortOrder
  cases leftAbsent : isAbsent left <;> cases rightAbsent : isAbsent right
  · obtain ⟨first, second, rfl, rfl, ordered⟩ :=
      (comparable.resolve_left (by simp [leftAbsent])).resolve_left
        (by simp [rightAbsent])
    obtain ⟨decided, isDecided⟩ := Option.isSome_iff_exists.mp ordered
    simp [isDecided, order_rank_of_order? isDecided]
  · have greater : (rank right).order (rank left) = .lt :=
      Rank.order_of_lt
        (by simpa [rank_of_absent rightAbsent] using kind_rank_pos leftAbsent)
    simp [Std.OrientedCmp.gt_of_lt greater]
  · have less : (rank left).order (rank right) = .lt :=
      Rank.order_of_lt
        (by simpa [rank_of_absent leftAbsent] using kind_rank_pos rightAbsent)
    simp [less]
  · rw [rank_of_absent leftAbsent, rank_of_absent rightAbsent]
    simp [Std.ReflCmp.compare_self]

/-- A value counts as equal to itself, whether it compares or not. -/
theorem sortOrder_self
    (value : Option Json) :
    sortOrder value value = .eq := by
  unfold sortOrder
  split
  · rfl
  · rcases value with _ | value
    · rfl
    · cases isOrdered : order? value value with
      | none =>
          simp [isOrdered]
      | some decided =>
          simp [isOrdered, ← order_rank_of_order? isOrdered,
            Std.ReflCmp.compare_self]

end Json

end PolyQuery
