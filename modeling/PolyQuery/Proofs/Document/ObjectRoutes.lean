import PolyQuery.Proofs.Document.NestedValues
import PolyQuery.Proofs.Document.TouchedPaths

namespace PolyQuery

/-!
# Routes through objects

Writing and removing go through objects only. So a document is followed here
along routes that lead through objects only, and of an object nothing shows but
that it is one. What a write or a removal shows at a route does not depend on
the document then: either it is given by the write alone, or it is what showed
there before. And documents in which the same shows at every route are equal.
-/

namespace Json

/-- No object in a value repeats a name. -/
def Collapsed
    (value : Json) :
    Prop :=
  value.collapse = value

instance
    (value : Json) :
    Decidable value.Collapsed :=
  inferInstanceAs (Decidable (value.collapse = value))

theorem collapseMembers_eq_self_iff
    {members : List (String × Json)} :
    collapseMembers members = members ↔
      ∀ entry ∈ members, entry.2.Collapsed := by
  induction members with
  | nil =>
      simp [collapseMembers]
  | cons entry rest inductionHypothesis =>
      obtain ⟨key, value⟩ := entry
      simp [collapseMembers, inductionHypothesis, Collapsed]

/--
An object repeats no name if none of its members does and its
own names are distinct.
-/
theorem collapsed_object_iff
    {members : Document} :
    (Json.object members).Collapsed ↔
      Entries.Distinct members ∧ ∀ entry ∈ members, entry.2.Collapsed := by
  constructor
  · intro single
    obtain ⟨distinct, inside⟩ := distinct_of_collapse single
    exact ⟨distinct, collapseMembers_eq_self_iff.mp inside⟩
  · rintro ⟨distinct, inside⟩
    rw [Collapsed, collapse, collapseMembers_eq_self_iff.mpr inside,
      Entries.ofList_of_distinct distinct]

theorem collapsed_empty : (Json.object []).Collapsed :=
  rfl

theorem collapseItems_eq_self_iff
    {items : List Json} :
    collapseItems items = items ↔ ∀ item ∈ items, item.Collapsed := by
  induction items with
  | nil =>
      simp [collapseItems]
  | cons item rest inductionHypothesis =>
      simp [collapseItems, inductionHypothesis, Collapsed]

/-- A list repeats no name in an object if none of its items does. -/
theorem collapsed_array_iff
    {items : List Json} :
    (Json.array items).Collapsed ↔ ∀ item ∈ items, item.Collapsed := by
  rw [Collapsed, collapse, Json.array.injEq, collapseItems_eq_self_iff]

theorem Collapsed.of_get?
    {members : Document}
    {name : String}
    {value : Json}
    (single : (Json.object members).Collapsed)
    (found : Entries.get? members name = some value) :
    value.Collapsed :=
  (collapsed_object_iff.mp single).2 _ (Entries.mem_of_get? found)

end Json

namespace Entries

/-- A name that is erased from distinct ones is gone. -/
theorem get?_erase_self
    {α : Type}
    {entries : Entries α}
    {key : String}
    {value : α}
    (distinct : entries.Distinct)
    (found : get? entries key = some value) :
    get? (erase entries key) key = none := by
  have names : (key :: keys (erase entries key)).Perm (keys entries) :=
    (erase_perm found).map Prod.fst
  exact get?_eq_none_iff.mpr
    (List.nodup_cons.mp (names.nodup_iff.mpr distinct)).1

end Entries

namespace Path

open Json

/-- What shows of a value: of an object, only that it is one. -/
def outside : Json → Json
  | .object _ => .object []
  | value => value

/-- What shows at the end of a route that leads through objects only. -/
def shown? :
    List String →
    Json →
    Option Json
  | [], value => some (outside value)
  | segment :: rest, .object members =>
      (Entries.get? members segment).bind (shown? rest)
  | _ :: _, _ => none

/--
What a write at a route shows at another one, unless it leaves
the other one alone.
-/
def writes? :
    List String →
    Json →
    List String →
    Option (Option Json)
  | [], value, other => some (shown? other value)
  | _ :: _, _, [] => some (some (.object []))
  | first :: route, value, second :: other =>
      if first = second then writes? route value other else none

/--
What a removal at a route shows at another one, unless it leaves
the other one alone.
-/
def removes? :
    List String →
    List String →
    Option (Option Json)
  | [], _ => some none
  | _ :: _, [] => none
  | first :: route, second :: other =>
      if first = second then removes? route other else none

/-- A document without what stands at a route, if anything does. -/
def removed
    (route : List String)
    (document : Document) :
    Document :=
  match remove? route document with
  | some (_, rest) => rest
  | none => document

section Showing

variable
  {route other : List String}
  {value : Json}
  {document : Document}

/-- Inside a value that is no object nothing shows. -/
theorem shown?_of_noMembers
    {existing : Option Json}
    (segment : String)
    (rest : List String) :
    shown? (segment :: rest) (.object (membersOf existing)) =
      existing.bind (shown? (segment :: rest)) := by
  cases existing with
  | none =>
      rfl
  | some value =>
      cases value <;> rfl

/--
What a write makes of the value under a segment shows what the write
does, or what was there.
-/
theorem shown?_rewritten
    (written :
      ∀ members : Document,
        route ≠ [] →
        shown? other (.object (set route value members)) =
          (writes? route value other).getD (shown? other (.object members)))
    (existing : Option Json) :
    shown? other (rewritten route value existing) =
      (writes? route value other).getD (existing.bind (shown? other)) := by
  cases route with
  | nil =>
      rfl
  | cons first route =>
      have more : first :: route ≠ [] := List.cons_ne_nil first route
      rw [rewritten, if_neg more, written _ more]
      cases other with
      | nil =>
          rfl
      | cons second other =>
          rw [shown?_of_noMembers]

/-- What shows after a write is what the write shows, or what showed before. -/
theorem shown?_set
    (more : route ≠ [])
    (value : Json)
    (other : List String)
    (document : Document) :
    shown? other (.object (set route value document)) =
      (writes? route value other).getD (shown? other (.object document)) := by
  induction route generalizing other document with
  | nil =>
      exact absurd rfl more
  | cons first route inductionHypothesis =>
      cases other with
      | nil =>
          rfl
      | cons second other =>
          rw [set_cons, shown?, writes?, Entries.get?_alter]
          by_cases same : first = second
          · subst same
            rw [if_pos rfl, if_pos rfl, Option.bind_some, shown?]
            exact
              shown?_rewritten
                (fun members further =>
                  inductionHypothesis further other members)
                (Entries.get? document first)
          · rw [if_neg same, if_neg same]
            rfl

/--
What a removal at a route leaves of the value under the segment before it.
-/
def emptied?
    (route : List String)
    (value : Json) :
    Option Json :=
  if route = [] then
    none
  else
    match value with
    | .object members => some (.object (removed route members))
    | other => some other

/--
A removal behind a segment stores under it what it leaves of the value there.
-/
theorem removed_behind
    {first : String}
    {existing : Json}
    (found : Entries.get? document first = some existing)
    (second : String)
    (route : List String) :
    ∃ value,
      emptied? (second :: route) existing = some value ∧
        removed (first :: second :: route) document =
          document.insert first value := by
  cases existing with
  | object members =>
      refine ⟨_, rfl, ?_⟩
      simp only [removed, remove?, found]
      cases remove? (second :: route) members with
      | none =>
          exact (Entries.insert_of_get? found).symm
      | some taken =>
          rfl
  | _ =>
      refine ⟨_, rfl, ?_⟩
      simp only [removed, remove?, found]
      exact (Entries.insert_of_get? found).symm

/-- A removal changes what stands under its first segment, and nothing else. -/
theorem get?_removed
    (distinct : Entries.Distinct document)
    (first : String)
    (route : List String)
    (second : String) :
    Entries.get? (removed (first :: route) document) second =
      if first = second then
        (Entries.get? document first).bind (emptied? route)
      else
        Entries.get? document second := by
  cases found : Entries.get? document first with
  | none =>
      have unchanged : removed (first :: route) document = document := by
        cases route <;> simp [removed, remove?, found]
      rw [unchanged]
      split
      next same =>
        rw [← same, found]
        rfl
      next =>
        rfl
  | some existing =>
      cases route with
      | nil =>
          have erased : removed [first] document = document.erase first := by
            simp [removed, remove?, found]
          rw [erased]
          split
          next same =>
            rw [← same]
            exact Entries.get?_erase_self distinct found
          next different =>
            exact Entries.get?_erase_of_ne distinct different
      | cons third route =>
          obtain ⟨value, leaves, isStored⟩ := removed_behind found third route
          rw [isStored, Entries.get?_insert, Option.bind_some, leaves]

theorem removes?_getD_none
    (route other : List String) :
    (removes? route other).getD none = none := by
  induction route generalizing other with
  | nil =>
      rfl
  | cons first route inductionHypothesis =>
      cases other with
      | nil =>
          rfl
      | cons second other =>
          rw [removes?]
          split
          · exact inductionHypothesis other
          · rfl

/--
What a removal leaves of a value shows nothing where it removes,
else what was there.
-/
theorem shown?_emptied?
    {existing : Json}
    (isRemoved :
      ∀ members : Document,
        existing = .object members →
        route ≠ [] →
        shown? other (.object (removed route members)) =
          (removes? route other).getD (shown? other (.object members))) :
    (emptied? route existing).bind (shown? other) =
      (removes? route other).getD (shown? other existing) := by
  cases route with
  | nil =>
      rfl
  | cons first route =>
      have more : first :: route ≠ [] := List.cons_ne_nil first route
      cases existing with
      | object members =>
          exact isRemoved members rfl more
      | _ =>
          cases other with
          | nil =>
              rfl
          | cons second other =>
              exact (removes?_getD_none (first :: route) (second :: other)).symm

/--
What shows after a removal is nothing at its route and behind,
else what showed before.
-/
theorem shown?_removed
    (more : route ≠ [])
    (single : (Json.object document).Collapsed)
    (other : List String) :
    shown? other (.object (removed route document)) =
      (removes? route other).getD (shown? other (.object document)) := by
  induction route generalizing other document with
  | nil =>
      exact absurd rfl more
  | cons first route inductionHypothesis =>
      cases other with
      | nil =>
          rfl
      | cons second other =>
          have distinct := (collapsed_object_iff.mp single).1
          rw [removes?, shown?, shown?, get?_removed distinct]
          by_cases same : first = second
          · subst same
            rw [if_pos rfl, if_pos rfl]
            cases found : Entries.get? document first with
            | none =>
                exact (removes?_getD_none route other).symm
            | some existing =>
                apply shown?_emptied?
                rintro members rfl further
                exact inductionHypothesis further (single.of_get? found) other
          · rw [if_neg same, if_neg same]
            rfl

end Showing

section Names

variable
  {route : List String}
  {value : Json}
  {document : Document}

theorem collapsed_membersOf
    {existing : Option Json}
    (single : ∀ value, existing = some value → value.Collapsed) :
    (Json.object (membersOf existing)).Collapsed := by
  cases existing with
  | none =>
      exact collapsed_empty
  | some value =>
      cases value with
      | object members =>
          exact single _ rfl
      | _ =>
          exact collapsed_empty

/--
A write of a value that repeats no name brings none into a document twice.
-/
theorem collapsed_set
    (single : (Json.object document).Collapsed)
    (valueSingle : value.Collapsed)
    (route : List String) :
    (Json.object (set route value document)).Collapsed := by
  induction route generalizing document with
  | nil =>
      exact single
  | cons first route inductionHypothesis =>
      obtain ⟨distinct, inside⟩ := collapsed_object_iff.mp single
      have rewrittenSingle :
          ∀ existing : Option Json,
            (∀ value, existing = some value → value.Collapsed) →
            (rewritten route value existing).Collapsed := by
        intro existing existingSingle
        unfold rewritten
        split
        · exact valueSingle
        · exact inductionHypothesis (collapsed_membersOf existingSingle)
      rw [set_cons, collapsed_object_iff]
      refine ⟨Entries.distinct_alter distinct first _, fun entry member => ?_⟩
      rcases Entries.mem_alter member with
          kept | rfl | ⟨present, isPresent, rfl⟩
      · exact inside entry kept
      · exact rewrittenSingle none (by rintro _ ⟨⟩)
      · apply rewrittenSingle
        rintro _ ⟨⟩
        exact inside _ isPresent

/-- Neither does a removal. -/
theorem collapsed_remove?
    {taken : Json}
    {rest : Document}
    (single : (Json.object document).Collapsed)
    (found : remove? route document = some (taken, rest)) :
    (Json.object rest).Collapsed := by
  induction route generalizing document rest with
  | nil =>
      cases found
  | cons first route inductionHypothesis =>
      obtain ⟨distinct, inside⟩ := collapsed_object_iff.mp single
      rw [collapsed_object_iff]
      cases route with
      | nil =>
          simp only [remove?] at found
          split at found
          next value present =>
            cases found
            refine ⟨Entries.distinct_erase distinct present,
              fun entry member => ?_⟩
            exact inside entry (Entries.mem_of_mem_erase member)
          next =>
            cases found
      | cons second route =>
          simp only [remove?] at found
          split at found
          next members present =>
            split at found
            next value fewer removedInside =>
              cases found
              have fewerSingle :=
                inductionHypothesis (single.of_get? present) removedInside
              refine ⟨Entries.distinct_insert distinct first _,
                fun entry member => ?_⟩
              rcases Entries.mem_insert member with rfl | kept
              · exact fewerSingle
              · exact inside entry kept
            next =>
              cases found
          next =>
            cases found

theorem collapsed_removed
    (single : (Json.object document).Collapsed)
    (route : List String) :
    (Json.object (removed route document)).Collapsed := by
  unfold removed
  split
  next found =>
    exact collapsed_remove? single found
  next =>
    exact single

end Names

section Equality

/-- A value that is no object shows as it is. -/
theorem eq_of_outside
    {left right : Json}
    (noObject : ∀ members, left ≠ .object members)
    (outsides : outside left = outside right) :
    right = left := by
  cases left with
  | object members =>
      exact absurd rfl (noObject members)
  | _ =>
      cases right with
      | object members =>
          cases outsides
      | _ =>
          exact outsides.symm

/-- Names of objects in which the same shows are the same. -/
theorem keys_perm_of_shown
    {lefts rights : Document}
    (distinct : Entries.Distinct lefts)
    (distinctToo : Entries.Distinct rights)
    (shown :
      ∀ route, shown? route (.object lefts) = shown? route (.object rights)) :
    (Entries.keys lefts).Perm (Entries.keys rights) := by
  have named :
      ∀ (members : Document) (name : String),
        name ∈ Entries.keys members ↔
          (shown? [name] (.object members)).isSome = true := by
    intro members name
    rw [← Entries.contains_iff_mem_keys, Entries.contains, shown?]
    cases Entries.get? members name <;> simp [shown?]
  apply (List.perm_ext_iff_of_nodup distinct distinctToo).mpr
  intro name
  rw [named, named, shown [name]]

mutual

/-- Values in which the same shows at every route are equal. -/
theorem same_of_shown
    (left right : Json)
    (single : left.Collapsed)
    (singleToo : right.Collapsed)
    (shown : ∀ route, shown? route left = shown? route right) :
    left.same right = true := by
  have outsides : outside left = outside right := Option.some.inj (shown [])
  cases left with
  | object lefts =>
      cases right with
      | object rights =>
          obtain ⟨distinct, inside⟩ := collapsed_object_iff.mp single
          obtain ⟨distinctToo, insideToo⟩ := collapsed_object_iff.mp singleToo
          have names := keys_perm_of_shown distinct distinctToo shown
          have sameLength : lefts.length = rights.length := by
            simpa [Entries.keys] using names.length_eq
          have found := members_same_of_shown lefts inside
          simp only [same, sameLength, BEq.rfl, Bool.true_and]
          apply sameMembers_of_found
          intro entry member
          have isThere := Entries.get?_of_mem distinct member
          have named : entry.1 ∈ Entries.keys rights :=
            names.subset (Entries.mem_keys_of_mem member)
          cases foundToo : Entries.get? rights entry.1 with
          | none =>
              exact absurd named (Entries.get?_eq_none_iff.mp foundToo)
          | some value =>
              refine ⟨value, rfl,
                found entry member value (singleToo.of_get? foundToo) ?_⟩
              intro route
              have inBoth := shown (entry.1 :: route)
              rw [shown?, shown?, isThere, foundToo] at inBoth
              exact inBoth
      | _ =>
          cases outsides
  | _ =>
      rw [eq_of_outside (by rintro members ⟨⟩) outsides]
      exact same_self _ single

theorem members_same_of_shown
    (members : List (String × Json))
    (inside : ∀ entry ∈ members, entry.2.Collapsed) :
    ∀ entry ∈ members, ∀ right : Json,
      right.Collapsed →
      (∀ route, shown? route entry.2 = shown? route right) →
      entry.2.same right = true := by
  match members with
  | [] =>
      exact fun _ member => nomatch member
  | (key, value) :: rest =>
      obtain ⟨headSingle, restSingle⟩ := List.forall_mem_cons.mp inside
      refine List.forall_mem_cons.mpr
        ⟨?_, members_same_of_shown rest restSingle⟩
      exact fun right rightSingle shown =>
        same_of_shown value right headSingle rightSingle shown

end

end Equality

end Path

end PolyQuery
