import PolyQuery.Proofs.Document.Evaluation
import PolyQuery.Proofs.Entries

namespace PolyQuery

/-!
# Nested values

A value is nested deeper than everything inside it, and equal values are nested
alike. So no operator tells two objects apart that are nested deeper than its
operand, unless one of them is an identifier: it finds both unequal to
the operand and to all in it, and out of any order with it. An operator
document is such an object itself, and so is an object around it. As only the
first of these equals the document, no operator document means equality.
-/

namespace Json

mutual

/-- How many lists and objects a value has around its innermost part. -/
def depth : Json → Nat
  | .array items => depthOfItems items + 1
  | .object members => depthOfMembers members + 1
  | _ => 0

/-- The depth of the deepest item. -/
def depthOfItems : List Json → Nat
  | [] => 0
  | item :: rest => max (depth item) (depthOfItems rest)

/-- The depth of the deepest member. -/
def depthOfMembers : List (String × Json) → Nat
  | [] => 0
  | (_, value) :: rest => max (depth value) (depthOfMembers rest)

end

theorem depth_le_depthOfItems
    {item : Json}
    {items : List Json}
    (member : item ∈ items) :
    item.depth ≤ depthOfItems items := by
  induction items with
  | nil =>
      cases member
  | cons first rest inductionHypothesis =>
      rw [depthOfItems]
      rcases List.mem_cons.mp member with isFirst | inRest
      · rw [isFirst]
        exact Nat.le_max_left _ _
      · exact Nat.le_trans (inductionHypothesis inRest) (Nat.le_max_right _ _)

theorem depth_le_depthOfMembers
    {entry : String × Json}
    {members : List (String × Json)}
    (member : entry ∈ members) :
    entry.2.depth ≤ depthOfMembers members := by
  induction members with
  | nil =>
      cases member
  | cons first rest inductionHypothesis =>
      rw [depthOfMembers]
      rcases List.mem_cons.mp member with isFirst | inRest
      · rw [isFirst]
        exact Nat.le_max_left _ _
      · exact Nat.le_trans (inductionHypothesis inRest) (Nat.le_max_right _ _)

mutual

/-- A value is not nested deeper than one that it equals. -/
theorem depth_le_of_same
    (left right : Json)
    (equal : left.same right = true) :
    left.depth ≤ right.depth := by
  cases left with
  | array lefts =>
      cases right with
      | array rights =>
          exact Nat.succ_le_succ
            (depthOfItems_le lefts rights (by simpa [same] using equal))
      | _ =>
          simp [same] at equal
  | object lefts =>
      cases right with
      | object rights =>
          simp only [same, Bool.and_eq_true] at equal
          exact Nat.succ_le_succ (depthOfMembers_le lefts rights equal.2)
      | _ =>
          simp [same] at equal
  | _ =>
      simp [depth]

theorem depthOfItems_le
    (lefts rights : List Json)
    (equal : sameItems lefts rights = true) :
    depthOfItems lefts ≤ depthOfItems rights := by
  cases lefts with
  | nil =>
      simp [depthOfItems]
  | cons left lefts =>
      cases rights with
      | nil =>
          simp [sameItems] at equal
      | cons right rights =>
          simp only [sameItems, Bool.and_eq_true] at equal
          have first := depth_le_of_same left right equal.1
          have rest := depthOfItems_le lefts rights equal.2
          simp only [depthOfItems]
          omega

theorem depthOfMembers_le
    (lefts others : List (String × Json))
    (equal : sameMembers lefts others = true) :
    depthOfMembers lefts ≤ depthOfMembers others := by
  match lefts with
  | [] =>
      simp [depthOfMembers]
  | (key, left) :: rest =>
      simp only [sameMembers, Bool.and_eq_true] at equal
      obtain ⟨firstEqual, restEqual⟩ := equal
      cases found : Entries.get? others key with
      | none =>
          simp [found] at firstEqual
      | some right =>
          have first :=
            depth_le_of_same left right (by simpa [found] using firstEqual)
          have within : right.depth ≤ depthOfMembers others :=
            depth_le_depthOfMembers (Entries.mem_of_get? found)
          have further := depthOfMembers_le rest others restEqual
          simp only [depthOfMembers]
          omega

end

/--
Members all of which stand in an object with equal values are members of it.
-/
theorem sameMembers_of_found
    {part whole : List (String × Json)}
    (found :
      ∀ entry ∈ part,
        ∃ value,
          Entries.get? whole entry.1 = some value ∧ entry.2.same value = true) :
    sameMembers part whole = true := by
  induction part with
  | nil =>
      rfl
  | cons entry rest inductionHypothesis =>
      obtain ⟨⟨value, isThere, equal⟩, restFound⟩ :=
        List.forall_mem_cons.mp found
      simp only [sameMembers, isThere, equal, inductionHypothesis restFound,
        Bool.and_self]

theorem keys_collapseMembers
    (members : List (String × Json)) :
    Entries.keys (collapseMembers members) = Entries.keys members := by
  induction members with
  | nil =>
      rfl
  | cons entry rest inductionHypothesis =>
      rw [collapseMembers, Entries.keys_cons, Entries.keys_cons,
        inductionHypothesis]

/-- In an object without repeated names, nothing is merged at the top. -/
theorem distinct_of_collapse
    {members : List (String × Json)}
    (single : (Json.object members).collapse = .object members) :
    Entries.Distinct members ∧ collapseMembers members = members := by
  have merged : Entries.ofList (collapseMembers members) = members := by
    simpa [collapse] using single
  have distinct : Entries.Distinct members := by
    rw [← merged]
    exact Entries.distinct_insertAll
      (show Entries.Distinct [] from List.nodup_nil) _
  have collapsedDistinct : Entries.Distinct (collapseMembers members) := by
    rw [Entries.Distinct, keys_collapseMembers]
    exact distinct
  exact ⟨distinct,
    (Entries.ofList_of_distinct collapsedDistinct).symm.trans merged⟩

mutual

/-- A value in which no object repeats a name equals itself. -/
theorem same_self
    (value : Json)
    (single : value.collapse = value) :
    value.same value = true := by
  cases value with
  | array items =>
      exact sameItems_self items (by simpa [collapse] using single)
  | object members =>
      obtain ⟨distinct, inside⟩ := distinct_of_collapse single
      have found :
          ∀ entry ∈ members,
            ∃ value,
              Entries.get? members entry.1 = some value ∧
                entry.2.same value = true :=
        fun entry member =>
          ⟨entry.2, Entries.get?_of_mem distinct member,
            members_same_self members inside entry member⟩
      simp only [same, BEq.rfl, Bool.true_and]
      exact sameMembers_of_found found
  | number numeral =>
      cases numeral <;> simp [same, Number.same, Binary64.same]
  | _ =>
      simp [same]

theorem sameItems_self
    (items : List Json)
    (single : collapseItems items = items) :
    sameItems items items = true := by
  cases items with
  | nil =>
      rfl
  | cons item rest =>
      obtain ⟨itemSingle, restSingle⟩ := List.cons.inj single
      simp only [sameItems, same_self item itemSingle,
        sameItems_self rest restSingle, Bool.and_self]

theorem members_same_self
    (members : List (String × Json))
    (single : collapseMembers members = members) :
    ∀ entry ∈ members, entry.2.same entry.2 = true := by
  match members with
  | [] =>
      exact fun _ member => nomatch member
  | (key, value) :: rest =>
      obtain ⟨headSingle, restSingle⟩ := List.cons.inj single
      refine List.forall_mem_cons.mpr ⟨?_, members_same_self rest restSingle⟩
      exact same_self value (Prod.mk.inj headSingle).2

end

end Json

namespace Matching

open Json

variable {operand : Json}

/-- An object is not equal to what is nested less deep. -/
theorem equals_of_deeper
    {members : Document}
    (deeper : operand.depth < (Json.object members).depth) :
    equals (some (.object members)) operand = false := by
  have unequal : (Json.object members).same operand = false := by
    by_contra equal
    have notDeeper := depth_le_of_same _ operand (by simpa using equal)
    omega
  simp [equals, unequal]

/-- An object that is no identifier is in no order with anything. -/
theorem ordered_of_noIdentifier
    {members : Document}
    (noIdentifier : ObjectId.ofJson? (.object members) = none)
    (operand : Json)
    (accept : Ordering → Bool) :
    ordered (some (.object members)) operand accept = false := by
  have unordered : (Json.object members).order? operand = none := by
    cases operand <;> simp [order?, noIdentifier]
  simp only [ordered, Option.bind_some, unordered]

/--
Nothing in a list that is nested less deep than an object equals the object.
-/
theorem any_equals_of_deeper
    {members : Document}
    {items : List Json}
    (deeper : (Json.array items).depth < (Json.object members).depth) :
    items.any (equals (some (.object members))) = false := by
  refine List.any_eq_false.mpr fun item member => ?_
  have within := depth_le_depthOfItems member
  have itemDeeper : item.depth < (Json.object members).depth := by
    rw [Json.depth] at deeper
    omega
  rw [equals_of_deeper itemDeeper]
  exact Bool.false_ne_true

/--
No operator tells apart two objects that are nested deeper than its operand.
-/
theorem operatorHolds_of_deeper
    {first second : Document}
    (firstDeeper : operand.depth < (Json.object first).depth)
    (secondDeeper : operand.depth < (Json.object second).depth)
    (firstNoIdentifier : ObjectId.ofJson? (.object first) = none)
    (secondNoIdentifier : ObjectId.ofJson? (.object second) = none)
    (operators : Document)
    (operator : String) :
    operatorHolds operators (some (.object first)) operator operand =
      operatorHolds operators (some (.object second)) operator operand := by
  unfold operatorHolds
  split
  case h_1 | h_2 =>
    rw [equals_of_deeper firstDeeper, equals_of_deeper secondDeeper]
  case h_3 | h_4 | h_5 | h_6 =>
    rw [ordered_of_noIdentifier firstNoIdentifier,
      ordered_of_noIdentifier secondNoIdentifier]
  case h_7 | h_8 =>
    cases operand with
    | array items =>
        simp only [listOperand, Except.map, any_equals_of_deeper firstDeeper,
          any_equals_of_deeper secondDeeper]
    | _ =>
        rfl
  all_goals rfl

/-- A value with an object around it. -/
def around
    (value : Json) :
    Json :=
  .object [("inside", value)]

theorem depth_around
    (value : Json) :
    (around value).depth = value.depth + 1 := by
  simp [around, depth, depthOfMembers]

/-- An operator document does not tell itself apart from an object around it. -/
theorem conditionHolds_around
    {value : Json}
    (isOperators : isOperatorDocument value = true) :
    conditionHolds (some (around value)) value =
      conditionHolds (some value) value := by
  cases value with
  | object members =>
      have noIdentifier : ObjectId.ofJson? (.object members) = none := by
        simp only [isOperatorDocument, Bool.and_eq_true,
          Option.isNone_iff_eq_none] at isOperators
        exact isOperators.2
      rw [conditionHolds, conditionHolds, if_pos isOperators,
        if_pos isOperators]
      refine allHold_congr fun entry member => ?_
      have within : entry.2.depth < (Json.object members).depth :=
        Nat.lt_succ_of_le (depth_le_depthOfMembers member)
      have deeper : entry.2.depth < (around (.object members)).depth := by
        rw [depth_around]
        exact Nat.lt_succ_of_lt within
      exact operatorHolds_of_deeper deeper within rfl noIdentifier members
        entry.1
  | _ =>
      cases isOperators

/--
An operator document is not equality: some value satisfies it
otherwise than it equals it.
-/
theorem exists_conditionHolds_ne
    {value : Json}
    (isOperators : isOperatorDocument value = true)
    (single : value.collapse = value) :
    ∃ actual,
      conditionHolds (some actual) value ≠
        .ok (equals (some actual) value) := by
  by_contra agreeing
  simp only [not_exists, not_not] at agreeing
  have equal : equals (some value) value = true := by
    simp [equals, same_self value single]
  have unequal : equals (some (around value)) value = false :=
    equals_of_deeper (by rw [← around, depth_around]; exact Nat.lt_succ_self _)
  have same := conditionHolds_around isOperators
  rw [agreeing, agreeing, equal, unequal] at same
  cases same

end Matching

end PolyQuery
