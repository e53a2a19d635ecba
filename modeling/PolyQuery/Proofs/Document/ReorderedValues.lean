import PolyQuery.Document.Order
import PolyQuery.Proofs.AlikeEntries
import PolyQuery.Proofs.Document.ObjectRoutes

namespace PolyQuery

/-!
# Reordered values

A value is reordered by naming the members of its objects in another order, on
every level; the items of its lists keep their places. No object with distinct
names tells the difference: what stands at a path is at most reordered, and
equality, order and identifiers stay what they were.
-/

namespace Json

/-- Values apart only in the order in which their objects name their members. -/
inductive Reordered : Json → Json → Prop where
  | refl (value : Json) : Reordered value value
  | array
      {items others : List Json}
      (alike : List.Forall₂ Reordered items others) :
      Reordered (.array items) (.array others)
  | object
      {members arranged others : Document}
      (names : members.keys = arranged.keys)
      (alike : List.Forall₂ Reordered members.values arranged.values)
      (order : arranged.Perm others) :
      Reordered (.object members) (.object others)

/--
What holds of reordered lists and objects, if it does of what is
in them, always holds.
-/
theorem Reordered.inductionOn
    {motive : Json → Json → Prop}
    (refl : ∀ value, motive value value)
    (array :
      ∀ items others, List.Forall₂ motive items others →
        motive (.array items) (.array others))
    (object :
      ∀ members arranged others : Document,
        Entries.Alike Eq motive members arranged →
        arranged.Perm others → motive (.object members) (.object others))
    {value other : Json}
    (reordered : value.Reordered other) :
    motive value other :=
  @Reordered.rec (fun first second _ => motive first second)
    (fun first second _ => List.Forall₂ motive first second)
    refl
    (fun _ itemsHold => array _ _ itemsHold)
    (fun names _ order valuesHold =>
      object _ _ _ (Entries.alike_of_keys_eq names valuesHold) order)
    .nil (fun _ _ first rest => .cons first rest) value other reordered

/-- The members of a reordered object, each reordered itself, in some order. -/
theorem Reordered.members
    {members others : Document}
    (reordered : (Json.object members).Reordered (.object others)) :
    ∃ arranged : Document,
      Entries.Alike Eq Reordered members arranged ∧ arranged.Perm others := by
  cases reordered with
  | refl =>
      exact ⟨members, List.forall₂_same.mpr fun _ _ => ⟨rfl, .refl _⟩, .refl _⟩
  | object names alike order =>
      exact ⟨_, Entries.alike_of_keys_eq names alike, order⟩

section Members

variable
  {related : Json → Json → Prop}
  {members arranged others : Document}
  (alike : Entries.Alike Eq related members arranged)
  (order : arranged.Perm others)

include alike order

theorem length_eq_of_arranged :
    members.length = others.length :=
  alike.length_eq.trans order.length_eq

theorem keys_perm_of_arranged :
    (Entries.keys members).Perm (Entries.keys others) := by
  rw [alike.keys_eq]
  exact order.map Prod.fst

/-- Under distinct names, each member is found again in any order. -/
theorem rel_get?_of_arranged
    (distinct : Entries.Distinct members)
    (key : String) :
    Option.Rel related (Entries.get? members key)
      (Entries.get? others key) := by
  have arrangedDistinct : Entries.Distinct arranged := by
    rw [Entries.Distinct, ← alike.keys_eq]
    exact distinct
  rw [Entries.get?_of_perm arrangedDistinct order]
  exact alike.get? Entries.oneToOne_eq rfl

end Members

section Equality

theorem sameMembers_eq_all
    (members others : Document) :
    sameMembers members others =
      members.all fun entry =>
        match Entries.get? others entry.1 with
        | some value => entry.2.same value
        | none => false := by
  induction members with
  | nil =>
      rfl
  | cons entry rest inductionHypothesis =>
      cases found : Entries.get? others entry.1 <;>
        simp only [sameMembers, List.all_cons, inductionHypothesis, found]

/-- Lists whose items equal the same values equal the same lists. -/
theorem sameItems_left
    {items others : List Json}
    (alike :
      List.Forall₂
        (fun item other => ∀ wanted, item.same wanted = other.same wanted) items
        others)
    (wanted : List Json) :
    sameItems items wanted = sameItems others wanted := by
  induction alike generalizing wanted with
  | nil =>
      rfl
  | cons headAlike _ inductionHypothesis =>
      cases wanted with
      | nil => rfl
      | cons => rw [sameItems, sameItems, headAlike, inductionHypothesis]

/-- Objects whose members equal the same values equal the same objects. -/
theorem sameMembers_left
    {members others : Document}
    (alike :
      Entries.Alike Eq
        (fun value other => ∀ wanted, value.same wanted = other.same wanted)
        members others)
    (wanted : Document) :
    sameMembers members wanted = sameMembers others wanted := by
  induction alike with
  | nil =>
      rfl
  | @cons entry entryToo _ _ headAlike _ inductionHypothesis =>
      obtain ⟨key, value⟩ := entry
      obtain ⟨keyToo, valueToo⟩ := entryToo
      obtain ⟨rfl, sameValue⟩ := headAlike
      dsimp only at sameValue
      simp only [sameMembers, inductionHypothesis, sameValue]

/-- A reordered value equals what the value equals. -/
theorem Reordered.same_left
    {value other : Json}
    (reordered : value.Reordered other)
    (expected : Json) :
    value.same expected = other.same expected := by
  revert expected
  refine reordered.inductionOn
    (motive :=
      fun value other => ∀ expected, value.same expected = other.same expected)
    ?refl ?array ?object
  case refl =>
    exact fun _ _ => rfl
  case array =>
    intro items others alike expected
    cases expected with
    | array wanted => simp only [same, sameItems_left alike]
    | _ => rfl
  case object =>
    intro members arranged others alike order expected
    cases expected with
    | object wanted =>
        have inOrder :
            sameMembers arranged wanted = sameMembers others wanted := by
          simp only [sameMembers_eq_all, order.all_eq]
        simp only [same, length_eq_of_arranged alike order,
          sameMembers_left alike, inOrder]
    | _ =>
        rfl

/--
Lists whose items are equalled by the same values are
equalled by the same lists.
-/
theorem sameItems_right
    {items others : List Json}
    (alike :
      List.Forall₂
        (fun item other => ∀ held : Json, held.same item = held.same other)
        items others)
    (held : List Json) :
    sameItems held items = sameItems held others := by
  induction alike generalizing held with
  | nil =>
      rfl
  | cons headAlike _ inductionHypothesis =>
      cases held with
      | nil => rfl
      | cons => rw [sameItems, sameItems, headAlike, inductionHypothesis]

/-- What equals a value that repeats no name equals it reordered. -/
theorem Reordered.same_right
    {value other : Json}
    (reordered : value.Reordered other)
    (single : value.Collapsed)
    (actual : Json) :
    actual.same value = actual.same other := by
  revert single actual
  refine reordered.inductionOn
    (motive := fun value other =>
      value.Collapsed → ∀ actual : Json, actual.same value = actual.same other)
    ?refl ?array ?object
  case refl =>
    exact fun _ _ _ => rfl
  case array =>
    intro items others alike single actual
    have itemsAlike :
        List.Forall₂
          (fun item other => ∀ held : Json, held.same item = held.same other)
          items others := by
      have both :=
        (List.forall₂_and_left _ _).mpr ⟨collapsed_array_iff.mp single, alike⟩
      exact both.imp fun _ _ itemAlike => itemAlike.2 itemAlike.1
    cases actual with
    | array held => simp only [same, sameItems_right itemsAlike]
    | _ => rfl
  case object =>
    intro members arranged others alike order single actual
    cases actual with
    | object held =>
        obtain ⟨distinct, inside⟩ := collapsed_object_iff.mp single
        have found : sameMembers held members = sameMembers held others := by
          simp only [sameMembers_eq_all]
          congr 1
          funext entry
          rcases Entries.missing_or_found_of_rel
              (rel_get?_of_arranged alike order distinct entry.1) with
            ⟨missing, missingToo⟩ | ⟨expected, expectedToo, isThere, isThereToo,
              sameExpected⟩
          · simp only [missing, missingToo]
          · simp only [isThere, isThereToo]
            exact sameExpected (single.of_get? isThere) entry.2
        simp only [same, length_eq_of_arranged alike order, found]
    | _ =>
        rfl

end Equality

section Kinds

variable
  {value other : Json}
  (reordered : value.Reordered other)

include reordered

/-- An identifier is an object with one member, which has no other order. -/
theorem Reordered.ofJson?_eq :
    ObjectId.ofJson? value = ObjectId.ofJson? other := by
  cases reordered with
  | refl => rfl
  | array => rfl
  | @object members arranged others names alike order =>
      have membersAlike := Entries.alike_of_keys_eq names alike
      have sameLength := length_eq_of_arranged membersAlike order
      match members, others, membersAlike, order, sameLength with
      | [], [], _, _, _ => rfl
      | [(key, held)], [(keyToo, heldToo)], membersAlike, order, _ =>
          cases membersAlike with
          | cons headAlike restAlike =>
              cases restAlike
              obtain ⟨sameName, heldAlike⟩ := headAlike
              obtain rfl := List.singleton_perm_singleton.mp order
              dsimp only at sameName heldAlike
              subst sameName
              cases heldAlike <;> simp [ObjectId.ofJson?]
      | _ :: _ :: _, _ :: _ :: _, _, _, _ => simp [ObjectId.ofJson?]

theorem Reordered.order?_left
    (expected : Json) :
    value.order? expected = other.order? expected := by
  have sameIdentifier := reordered.ofJson?_eq
  cases reordered with
  | refl => rfl
  | array => cases expected <;> rfl
  | object => cases expected <;> simp only [order?, sameIdentifier]

theorem Reordered.order?_right
    (actual : Json) :
    actual.order? value = actual.order? other := by
  have sameIdentifier := reordered.ofJson?_eq
  cases reordered with
  | refl => rfl
  | array => cases actual <;> rfl
  | object => cases actual <;> simp only [order?, sameIdentifier]

theorem Reordered.isNull_eq :
    value.isNull = other.isNull := by
  cases reordered <;> rfl

theorem Reordered.string?_eq :
    value.string? = other.string? := by
  cases reordered <;> rfl

theorem Reordered.bool?_eq :
    value.bool? = other.bool? := by
  cases reordered <;> rfl

end Kinds

end Json

namespace Path

open Json

theorem rel_getElem?
    {items others : List Json}
    (alike : List.Forall₂ Reordered items others)
    (position : Nat) :
    Option.Rel Reordered items[position]? others[position]? := by
  induction alike generalizing position with
  | nil =>
      exact .none
  | cons headAlike _ inductionHypothesis =>
      cases position with
      | zero => exact .some headAlike
      | succ position => exact inductionHypothesis position

/--
What stands at a path of a reordered value is what stood
there, at most reordered.
-/
theorem rel_get?
    (segments : List String)
    {value other : Json}
    (reordered : value.Reordered other)
    (single : value.Collapsed) :
    Option.Rel Reordered (get? segments value) (get? segments other) := by
  induction segments generalizing value other with
  | nil =>
      exact .some reordered
  | cons segment rest inductionHypothesis =>
      cases reordered with
      | refl =>
          cases get? (segment :: rest) value with
          | none => exact .none
          | some found => exact .some (.refl found)
      | @array items others alike =>
          rw [get?, get?]
          cases position? segment with
          | none =>
              exact .none
          | some position =>
              rw [Option.bind_some, Option.bind_some]
              rcases Entries.missing_or_found_of_rel
                  (rel_getElem? alike position) with
                ⟨missing, missingToo⟩ | ⟨inner, innerToo, found, foundToo,
                  innerReordered⟩
              · rw [missing, missingToo]
                exact .none
              · rw [found, foundToo]
                have innerSingle :=
                  collapsed_array_iff.mp single inner
                    (List.mem_of_getElem? found)
                exact inductionHypothesis innerReordered innerSingle
      | @object members arranged others names alike order =>
          have distinct := (collapsed_object_iff.mp single).1
          have both :=
            rel_get?_of_arranged (Entries.alike_of_keys_eq names alike) order
              distinct segment
          rw [get?, get?]
          rcases Entries.missing_or_found_of_rel both with
            ⟨missing, missingToo⟩ | ⟨inner, innerToo, found, foundToo,
              innerReordered⟩
          · rw [missing, missingToo]
            exact .none
          · rw [found, foundToo]
            exact inductionHypothesis innerReordered (single.of_get? found)

end Path

end PolyQuery
