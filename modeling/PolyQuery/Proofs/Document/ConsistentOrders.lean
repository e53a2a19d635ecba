import PolyQuery.Proofs.Document.OrderTerms

namespace PolyQuery

/-!
# Consistent orders

A list can be sorted by an order in which nothing comes before what it comes
after, however many steps lie between. The order of values is of this form among
values that compare. Values that do not compare count as equal, though, so one
of another kind can stand between two values that are the wrong way round. Such
three values are the only ones that break the order, and documents are ordered
consistently by keys exactly if no three of them have such values under a key.
-/

namespace Json

/-- The kinds of values that have an order. -/
inductive OrderedKind where
  | number
  | string
  | truth
  | identifier

/-- The kind of a value that has an order. -/
def orderedKind? : Json → Option OrderedKind
  | .number numeral => numeral.binary64?.map fun _ => .number
  | .string _ => some .string
  | .bool _ => some .truth
  | .object members =>
      (ObjectId.ofJson? (.object members)).map fun _ => .identifier
  | _ => none

/--
Values are ordered exactly if they are of one kind, and of
one that has an order.
-/
theorem isSome_order?_iff
    (left right : Json) :
    (order? left right).isSome = true ↔
      ∃ kind,
        orderedKind? left = some kind ∧ orderedKind? right = some kind := by
  cases left <;> cases right <;> simp only [order?, orderedKind?]
  case number.number first second =>
    cases first.binary64? <;> cases second.binary64? <;> simp
  case object.object first second =>
    cases ObjectId.ofJson? (.object first) <;>
      cases ObjectId.ofJson? (.object second) <;> simp
  all_goals simp

variable {first second third left right : Option Json}

/--
What compares with a value that is there compares with all that
this one compares with.
-/
theorem Comparable.trans
    (given : isAbsent second = false)
    (before : Comparable first second)
    (behind : Comparable second third) :
    Comparable first third := by
  rcases before with
      firstAbsent | secondAbsent | ⟨start, middle, rfl, rfl, ordered⟩
  · exact .inl firstAbsent
  · exact absurd secondAbsent (by simp [given])
  · rcases behind with
        secondAbsent | thirdAbsent | ⟨_, last, same, rfl, orderedToo⟩
    · exact absurd secondAbsent (by simp [given])
    · exact .inr (.inl thirdAbsent)
    · cases same
      obtain ⟨kind, startKind, middleKind⟩ :=
        (isSome_order?_iff start middle).mp ordered
      obtain ⟨kindToo, middleKindToo, lastKind⟩ :=
        (isSome_order?_iff middle last).mp orderedToo
      have sameKind : kindToo = kind :=
        Option.some.inj (middleKindToo.symm.trans middleKind)
      subst sameKind
      exact
        .inr (.inr ⟨start, last, rfl, rfl,
          (isSome_order?_iff start last).mpr ⟨kindToo, startKind, lastKind⟩⟩)

/-- Values that do not compare count as equal. -/
theorem sortOrder_of_not_comparable
    (apart : ¬Comparable left right) :
    sortOrder left right = .eq := by
  simp only [Comparable, not_or, Bool.not_eq_true] at apart
  obtain ⟨leftGiven, rightGiven, notOrdered⟩ := apart
  obtain _ | left := left
  · cases leftGiven
  · obtain _ | right := right
    · cases rightGiven
    · have unordered : order? left right = none := by
        by_contra isOrdered
        exact notOrdered
          ⟨left, right, rfl, rfl, Option.isSome_iff_ne_none.mpr isOrdered⟩
      simp [sortOrder, leftGiven, rightGiven, unordered]

/-- The order of values the other way round is the reverse. -/
theorem sortOrder_swap
    (left right : Option Json) :
    sortOrder right left = (sortOrder left right).swap := by
  by_cases comparable : Comparable left right
  · rw [sortOrder_eq_order_rank comparable,
      sortOrder_eq_order_rank comparable.symm]
    exact Std.OrientedCmp.eq_swap
  · have apart : ¬Comparable right left :=
      fun compares => comparable compares.symm
    rw [sortOrder_of_not_comparable comparable,
      sortOrder_of_not_comparable apart]
    rfl

/-- What is missing or null comes before all that is there. -/
theorem sortOrder_of_absent
    (leftGiven : isAbsent left = false)
    (rightAbsent : isAbsent right = true) :
    sortOrder left right = .gt := by
  simp [sortOrder, leftGiven, rightAbsent]

/-- What comes after another value is there, and compares with it. -/
theorem comparable_of_after
    (after : sortOrder left right = .gt) :
    isAbsent left = false ∧ Comparable left right := by
  constructor
  · by_contra leftAbsent
    rw [Bool.not_eq_false] at leftAbsent
    cases rightAbsent : isAbsent right <;>
      simp [sortOrder, leftAbsent, rightAbsent] at after
  · by_contra apart
    rw [sortOrder_of_not_comparable apart] at after
    cases after

/--
A value that comes after another one, with one in between that
compares with neither.
-/
structure Crossed
    (first second third : Option Json) :
    Prop where
  after : sortOrder first third = .gt
  firstApart : ¬Comparable first second
  thirdApart : ¬Comparable second third

/-- Three values break the order exactly if they are crossed. -/
theorem crossed_iff :
    Crossed first second third ↔
      sortOrder first second ≠ .gt ∧ sortOrder second third ≠ .gt ∧
        sortOrder first third = .gt := by
  constructor
  · intro crossed
    refine ⟨?_, ?_, crossed.after⟩
    · rw [sortOrder_of_not_comparable crossed.firstApart]
      exact nofun
    · rw [sortOrder_of_not_comparable crossed.thirdApart]
      exact nofun
  · rintro ⟨firstBefore, secondBefore, after⟩
    obtain ⟨firstGiven, outer⟩ := comparable_of_after after
    have secondGiven : isAbsent second = false := by
      by_contra secondAbsent
      exact firstBefore
        (sortOrder_of_absent firstGiven (by simpa using secondAbsent))
    have thirdGiven : isAbsent third = false := by
      by_contra thirdAbsent
      exact secondBefore
        (sortOrder_of_absent secondGiven (by simpa using thirdAbsent))
    have firstApart : ¬Comparable first second := by
      intro compares
      have behind : Comparable second third :=
        compares.symm.trans firstGiven outer
      rw [sortOrder_eq_order_rank compares] at firstBefore
      rw [sortOrder_eq_order_rank behind] at secondBefore
      rw [sortOrder_eq_order_rank outer] at after
      have before :=
        Std.TransCmp.isLE_trans (Ordering.isLE_iff_ne_gt.mpr firstBefore)
          (Ordering.isLE_iff_ne_gt.mpr secondBefore)
      exact Ordering.isLE_iff_ne_gt.mp before after
    exact {
      after := after
      firstApart := firstApart
      thirdApart :=
        fun compares => firstApart (outer.trans thirdGiven compares.symm)
    }

end Json

/-- The order of two documents by one key. -/
def SortKey.order
    (key : SortKey)
    (left right : Document) :
    Ordering :=
  let order := Json.sortOrder (left.lookup? key.path) (right.lookup? key.path)
  if key.descending then order.swap else order

namespace Document

/-- The first key decides, the others where it does not. -/
theorem orderBy_cons
    (key : SortKey)
    (rest : List SortKey)
    (left right : Document) :
    orderBy (key :: rest) left right =
      (key.order left right).then (orderBy rest left right) := by
  simp only [orderBy, SortKey.order]
  cases key.descending <;>
    cases Json.sortOrder (left.lookup? key.path) (right.lookup? key.path) <;>
      rfl

/-- No three of some documents have crossed values under a path. -/
def Uncrossed
    (documents : List Document)
    (path : String) :
    Prop :=
  ∀ first ∈ documents, ∀ second ∈ documents, ∀ third ∈ documents,
    ¬Json.Crossed (first.lookup? path) (second.lookup? path)
      (third.lookup? path)

/-- The order of some documents by keys. -/
def orderAmong
    (documents : List Document)
    (keys : List SortKey)
    (left right : {document // document ∈ documents}) :
    Ordering :=
  orderBy keys left.val right.val

variable
  {documents : List Document}
  {path : String}

/--
Documents that are not crossed under a path are ordered consistently by it.
-/
theorem Uncrossed.transCmp
    (uncrossed : Uncrossed documents path)
    (descending : Bool) :
    Std.TransCmp fun left right : {document // document ∈ documents} =>
      SortKey.order ⟨path, descending⟩ left.val right.val := by
  have ascending :
      Std.TransCmp fun left right : {document // document ∈ documents} =>
        Json.sortOrder (left.val.lookup? path) (right.val.lookup? path) :=
    { eq_swap := Json.sortOrder_swap _ _
      isLE_trans := by
        intro first second third firstLE secondLE
        rw [Ordering.isLE_iff_ne_gt] at firstLE secondLE ⊢
        intro after
        exact
          uncrossed first first.property second second.property third
            third.property (Json.crossed_iff.mpr ⟨firstLE, secondLE, after⟩) }
  cases descending with
  | false =>
      exact ascending
  | true =>
      have swapped :
          (fun left right : {document // document ∈ documents} =>
              SortKey.order ⟨path, true⟩ left.val right.val) =
            fun left right =>
              Json.sortOrder (right.val.lookup? path)
                (left.val.lookup? path) := by
        funext left right
        exact (Json.sortOrder_swap _ _).symm
      rw [swapped]
      exact @Std.TransCmp.opposite _ _ ascending

/--
Documents that are crossed under none of the paths of keys are
ordered consistently.
-/
theorem transCmp_orderAmong
    {keys : List SortKey}
    (uncrossed : ∀ key ∈ keys, Uncrossed documents key.path) :
    Std.TransCmp (orderAmong documents keys) := by
  induction keys with
  | nil =>
      exact { eq_swap := rfl, isLE_trans := fun _ _ => rfl }
  | cons key rest inductionHypothesis =>
      obtain ⟨headUncrossed, restUncrossed⟩ := List.forall_mem_cons.mp uncrossed
      have head := headUncrossed.transCmp key.descending
      have tail := inductionHypothesis restUncrossed
      have joined :
          orderAmong documents (key :: rest) =
            compareLex
              (fun left right : {document // document ∈ documents} =>
                SortKey.order key left.val right.val)
              (orderAmong documents rest) := by
        funext left right
        exact orderBy_cons key rest left.val right.val
      rw [joined]
      exact inferInstance

/--
Documents that are ordered consistently by a path are not crossed under it.
-/
theorem uncrossed_of_transCmp
    (consistent : Std.TransCmp (orderAmong documents [⟨path, false⟩])) :
    Uncrossed documents path := by
  have single :
      ∀ left right : {document // document ∈ documents},
        orderAmong documents [⟨path, false⟩] left right =
          Json.sortOrder (left.val.lookup? path) (right.val.lookup? path) := by
    intro left right
    rw [orderAmong, orderBy_cons]
    exact Ordering.then_eq
  intro first firstMember second secondMember third thirdMember crossed
  obtain ⟨firstBefore, secondBefore, after⟩ := Json.crossed_iff.mp crossed
  rw [← single ⟨first, firstMember⟩ ⟨second, secondMember⟩] at firstBefore
  rw [← single ⟨second, secondMember⟩ ⟨third, thirdMember⟩] at secondBefore
  rw [← single ⟨first, firstMember⟩ ⟨third, thirdMember⟩] at after
  have before :=
    consistent.isLE_trans (Ordering.isLE_iff_ne_gt.mpr firstBefore)
      (Ordering.isLE_iff_ne_gt.mpr secondBefore)
  exact Ordering.isLE_iff_ne_gt.mp before after

/--
Which values and documents are ordered consistently.

The other way round values are ordered in reverse. Of three values, what comes
after the third does not come before what is not after it, unless they are
crossed. Some documents are ordered consistently by all keys over some paths
exactly if no three of them are crossed under one of the paths.
-/
theorem ordered_consistently_iff_uncrossed
    (documents : List Document)
    (paths : List String) :
    (∀ left right : Option Json,
      Json.sortOrder right left = (Json.sortOrder left right).swap) ∧
      (∀ first second third : Option Json,
        (Json.sortOrder first second ≠ .gt → Json.sortOrder second third ≠ .gt →
            Json.sortOrder first third ≠ .gt) ↔
          ¬Json.Crossed first second third) ∧
        ((∀ keys : List SortKey, (∀ key ∈ keys, key.path ∈ paths) →
            Std.TransCmp (orderAmong documents keys)) ↔
          ∀ path ∈ paths, Uncrossed documents path) := by
  refine ⟨Json.sortOrder_swap, ?_, ?_, ?_⟩
  · intro first second third
    rw [Json.crossed_iff]
    simp only [not_and]
  · intro consistent path member
    refine uncrossed_of_transCmp (consistent [⟨path, false⟩] ?_)
    exact List.forall_mem_singleton.mpr member
  · intro uncrossed keys within
    exact transCmp_orderAmong fun key member =>
      uncrossed key.path (within key member)

/-- Two numbers with a text between them. -/
def mixed : List Document :=
  [[("a", .ofInt 2)], [("a", .string "x")], [("a", .ofInt 1)]]

/--
The text counts as equal to both numbers, so that the greater one
stays before the other.
-/
theorem text_between_numbers_breaks_order :
    ¬(∀ first second third : Option Json,
        Json.sortOrder first second ≠ .gt → Json.sortOrder second third ≠ .gt →
          Json.sortOrder first third ≠ .gt) ∧
      Document.sort (orderBy [⟨"a", false⟩]) mixed = mixed ∧
        Json.sortOrder (some (.ofInt 1)) (some (.ofInt 2)) = .lt := by
  refine ⟨fun transitive => ?_, ?_, ?_⟩
  · exact
      transitive (some (.ofInt 2)) (some (.string "x")) (some (.ofInt 1))
        (by decide +kernel) (by decide +kernel) (by decide +kernel)
  · decide +kernel
  · decide +kernel

end Document

end PolyQuery
