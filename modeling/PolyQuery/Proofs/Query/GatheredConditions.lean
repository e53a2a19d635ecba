import Mathlib.Data.List.Induction
import PolyQuery.Proofs.Computation.Except
import PolyQuery.Proofs.Computation.Stateful
import PolyQuery.Proofs.Entries
import PolyQuery.Proofs.Query.Calls

namespace PolyQuery

open Failing

/-!
# Gathered conditions

Whatever calls say of fields adds up. A filter holds every field once, in the
order of first mention, with all the conditions that were given for it, one
after the other. Filters that are handed over as a whole were gathered in the
same way before, and count like the conditions that they were gathered from.
-/

/-- A further item counts unless it was there before. -/
theorem eraseDups_concat
    (items : List String)
    (item : String) :
    (items ++ [item]).eraseDups =
      if item ∈ items then items.eraseDups else items.eraseDups ++ [item] := by
  rw [List.eraseDups_append]
  by_cases there : item ∈ items <;>
    simp [List.removeAll, List.eraseDups_cons, there]

/--
Behind other items it does not matter whether repeated ones
were left out already.
-/
theorem eraseDups_append_eraseDups
    (first second : List String) :
    (first ++ second.eraseDups).eraseDups = (first ++ second).eraseDups := by
  induction second using List.reverseRecOn with
  | nil =>
      rfl
  | append_singleton rest item inductionHypothesis =>
      rw [eraseDups_concat, ← List.append_assoc, eraseDups_concat]
      by_cases there : item ∈ rest
      · rw [if_pos there, if_pos (List.mem_append_right first there),
          inductionHypothesis]
      · rw [if_neg there, ← List.append_assoc, eraseDups_concat,
          inductionHypothesis]
        simp only [List.mem_append, List.mem_eraseDups]

/-- Conditions as they are given, some for a field at a time. -/
abbrev GivenConditions :=
  List (String × List Condition)

namespace GivenConditions

/-- All conditions that are given for a field, one after the other. -/
def on
    (given : GivenConditions)
    (field : String) :
    List Condition :=
  (Entries.under given field).flatMap Prod.snd

/-- The fields in order of first mention. -/
def fields
    (given : GivenConditions) :
    List String :=
  (given.map Prod.fst).eraseDups

theorem on_append
    (first second : GivenConditions)
    (field : String) :
    on (first ++ second) field = on first field ++ on second field := by
  rw [on, Entries.under, List.filter_append, List.flatMap_append]
  rfl

theorem on_single
    (field other : String)
    (conditions : List Condition) :
    on [(field, conditions)] other =
      if field = other then conditions else [] := by
  by_cases sameField : field = other <;> simp [on, Entries.under, sameField]

/-- A field that is mentioned once has the conditions of its mention. -/
theorem on_of_distinct
    {given : GivenConditions}
    (distinct : Entries.Distinct given)
    (field : String) :
    on given field = (Entries.get? given field).getD [] := by
  have once := Entries.length_under_le distinct field
  rw [on, Entries.get?_eq_head?_under]
  cases mentions : Entries.under given field with
  | nil =>
      rfl
  | cons mention rest =>
      rw [mentions, List.length_cons] at once
      have noneElse : rest = [] := List.length_eq_zero_iff.mp (by omega)
      simp [noneElse]

end GivenConditions

/--
Entries hold each field once, in order of first mention, with all
that was given for it.
-/
structure Gathers
    (entries : Entries (List Condition))
    (given : GivenConditions) :
    Prop where
  distinct : entries.Distinct
  fields : entries.keys = given.fields
  conditions : ∀ field, (entries.get? field).getD [] = given.on field

namespace Gathers

variable
  {entries other : AlternativeFilter}
  {given otherGiven : GivenConditions}

theorem nil :
    Gathers [] [] where
  distinct := .nil
  fields := rfl
  conditions := fun _ => rfl

theorem extend
    (gathers : Gathers entries given)
    (field : String)
    (conditions : List Condition) :
    Gathers (entries.extend field conditions)
      (given ++ [(field, conditions)]) where
  distinct := Entries.distinct_alter gathers.distinct _ _
  fields := by
    rw [AlternativeFilter.extend, Entries.keys_alter, gathers.fields,
      GivenConditions.fields, GivenConditions.fields, List.map_append,
      List.map_singleton, eraseDups_concat]
    simp only [List.mem_eraseDups]
  conditions := by
    intro asked
    rw [AlternativeFilter.extend, Entries.get?_alter, GivenConditions.on_append,
      GivenConditions.on_single, ← gathers.conditions]
    by_cases sameField : field = asked
    · subst sameField
      rw [if_pos rfl, if_pos rfl, Option.getD_some]
    · rw [if_neg sameField, if_neg sameField, List.append_nil]

/--
Conditions that are added one after the other are gathered behind those before.
-/
theorem extendAll
    (gathers : Gathers entries given)
    (added : GivenConditions) :
    Gathers (AlternativeFilter.extendAll entries added) (given ++ added) := by
  induction added generalizing entries given with
  | nil =>
      rw [List.append_nil]
      exact gathers
  | cons first rest inductionHypothesis =>
      have restGathers := inductionHypothesis (gathers.extend first.1 first.2)
      rw [List.append_assoc] at restGathers
      exact restGathers

/--
What was gathered before counts like the conditions that it was gathered from.
-/
theorem merge
    (gathers : Gathers entries given)
    (otherGathers : Gathers other otherGiven) :
    Gathers (AlternativeFilter.extendAll entries other)
      (given ++ otherGiven) := by
  have gathersEntries := gathers.extendAll other
  refine ⟨gathersEntries.distinct, ?_, ?_⟩
  · have sameKeys : other.map Prod.fst = (otherGiven.map Prod.fst).eraseDups :=
      otherGathers.fields
    rw [gathersEntries.fields, GivenConditions.fields, GivenConditions.fields,
      List.map_append, List.map_append, sameKeys, eraseDups_append_eraseDups]
  · intro field
    rw [gathersEntries.conditions, GivenConditions.on_append,
      GivenConditions.on_append,
      GivenConditions.on_of_distinct otherGathers.distinct,
      otherGathers.conditions]

end Gathers

namespace Filter

/--
The conditions of every field, a bare value being spelled out as an equality.
-/
def spelledOut
    (filter : Filter) :
    Entries (List Condition) :=
  filter.map fun entry => (entry.1, entry.2.toConditions)

/-- Constraining a field adds conditions to it like an alternative does. -/
theorem spelledOut_constrain
    (filter : Filter)
    (field : String)
    (asked : FieldFilter) :
    (filter.constrain field asked).spelledOut =
      AlternativeFilter.extend filter.spelledOut field asked.toConditions := by
  simp only [constrain, AlternativeFilter.extend]
  induction filter with
  | nil =>
      rfl
  | cons entry rest inductionHypothesis =>
      obtain ⟨name, present⟩ := entry
      by_cases sameName : name = field
      · simp [spelledOut, Entries.alter, sameName, FieldFilter.merge,
          FieldFilter.toConditions]
      · simp only [spelledOut] at inductionHypothesis
        simp [spelledOut, Entries.alter, sameName, inductionHypothesis]

theorem spelledOut_constrainAll
    (filter : Filter)
    (added : List (String × FieldFilter)) :
    (constrainAll filter added).spelledOut =
      AlternativeFilter.extendAll filter.spelledOut (spelledOut added) := by
  induction added generalizing filter with
  | nil =>
      rfl
  | cons first rest inductionHypothesis =>
      have later := inductionHypothesis (filter.constrain first.1 first.2)
      rw [spelledOut_constrain] at later
      exact later

end Filter

namespace Builder

/--
A call that says something of fields, or another one that
leaves the filters alone.
-/
inductive FilterCall where
  | constrain (field : String) (asked : FieldFilter)
  | constrainEqual (field : String) (value : Json)
  | constrainBy (field : String) (tag : String) (operand : Json)
  /-- A filter that was gathered from some constraints. -/
  | constrainAll (constraints : List (String × FieldFilter))
  | alternative (field : String) (tag : String) (operand : Json)
  /-- Alternatives that were gathered from some conditions. -/
  | alternativeAll (conditions : GivenConditions)
  | apply (request : Request)
  | other
    (change : Builder → Builder)
    (sparing :
      ∀ builder,
        (change builder).filter = builder.filter ∧
          (change builder).alternatives = builder.alternatives)

namespace FilterCall

/-- The builder after a call. -/
def applyTo
    (builder : Builder) :
    FilterCall →
    Builder
  | .constrain field asked => builder.constrain field asked
  | .constrainEqual field value => builder.constrainEqual field value
  | .constrainBy field tag operand => builder.constrainBy field tag operand
  | .constrainAll constraints =>
      builder.constrainAll (Filter.constrainAll [] constraints)
  | .alternative field tag operand => builder.alternative field tag operand
  | .alternativeAll conditions =>
      builder.alternativeAll (AlternativeFilter.extendAll [] conditions)
  | .apply request => request.applyTo builder
  | .other change _ => change builder

/-- The conditions that a call gives for fields, all of which must hold. -/
def asked : FilterCall → GivenConditions
  | .constrain field asked => [(field, asked.toConditions)]
  | .constrainEqual field value => [(field, [⟨"eq", value⟩])]
  | .constrainBy field tag operand => [(field, [⟨tag, operand⟩])]
  | .constrainAll constraints =>
      constraints.map fun constraint =>
        (constraint.1, constraint.2.toConditions)
  | .apply request =>
      request.filter.map fun member =>
        (member.1, (FieldFilter.ofJson member.2).toConditions)
  | _ => []

/--
The conditions that a call gives for fields, of which one must
hold for each field.
-/
def offered : FilterCall → GivenConditions
  | .alternative field tag operand => [(field, [⟨tag, operand⟩])]
  | .alternativeAll conditions => conditions
  | .apply request =>
      request.alternatives.map fun member =>
        (member.1, (FieldFilter.ofJson member.2).toConditions)
  | _ => []

end FilterCall

/-- The builder after some calls, from an empty one. -/
def gatheredBy
    (calls : List FilterCall) :
    Builder :=
  calls.foldl FilterCall.applyTo {}

/-- The filters of a builder hold what was asked, and what was offered. -/
structure Holds
    (builder : Builder)
    (asked : GivenConditions)
    (offered : GivenConditions) :
    Prop where
  filter : Gathers builder.filter.spelledOut asked
  alternatives : Gathers builder.alternatives offered

namespace Holds

variable
  {builder changed : Builder}
  {asked offered added : GivenConditions}
  (holds : builder.Holds asked offered)

include holds

theorem constrain
    (field : String)
    (filter : FieldFilter) :
    (builder.constrain field filter).Holds
      (asked ++ [(field, filter.toConditions)]) offered where
  filter := by
    have extended := holds.filter.extend field filter.toConditions
    rw [← Filter.spelledOut_constrain] at extended
    exact extended
  alternatives := holds.alternatives

theorem constrainAll
    {filter : Filter}
    (gathers : Gathers filter.spelledOut added) :
    (builder.constrainAll filter).Holds (asked ++ added) offered where
  filter := by
    have merged := holds.filter.merge gathers
    rw [← Filter.spelledOut_constrainAll] at merged
    exact merged
  alternatives := holds.alternatives

theorem alternativeAll
    {alternatives : AlternativeFilter}
    (gathers : Gathers alternatives added) :
    (builder.alternativeAll alternatives).Holds asked (offered ++ added) where
  filter := holds.filter
  alternatives := holds.alternatives.merge gathers

theorem of_same
    (sameFilter : changed.filter = builder.filter)
    (sameAlternatives : changed.alternatives = builder.alternatives) :
    changed.Holds asked offered where
  filter := sameFilter ▸ holds.filter
  alternatives := sameAlternatives ▸ holds.alternatives

end Holds

/-- A filter that is made of constraints gathers their conditions. -/
theorem gathers_constraints
    (constraints : List (String × FieldFilter)) :
    Gathers (Filter.constrainAll [] constraints).spelledOut
      (constraints.map fun constraint =>
        (constraint.1, constraint.2.toConditions)) := by
  rw [Filter.spelledOut_constrainAll]
  exact Gathers.nil.extendAll _

/--
A filter that is read from members gathers the conditions of each of them.
-/
theorem gathers_members
    (members : Entries Json) :
    Gathers (Filter.ofMembers members).spelledOut
      (members.map fun member =>
        (member.1, (FieldFilter.ofJson member.2).toConditions)) := by
  have fromConstraints :=
    gathers_constraints
      (members.map fun member => (member.1, FieldFilter.ofJson member.2))
  rw [Filter.constrainAll, List.foldl_map, List.map_map] at fromConstraints
  exact fromConstraints

theorem gathers_offeredMembers
    (members : Entries Json) :
    Gathers (AlternativeFilter.ofMembers members)
      (members.map fun member =>
        (member.1, (FieldFilter.ofJson member.2).toConditions)) := by
  have fromConditions :=
    Gathers.nil.extendAll
      (members.map fun member =>
        (member.1, (FieldFilter.ofJson member.2).toConditions))
  rw [AlternativeFilter.extendAll, List.foldl_map] at fromConditions
  exact fromConditions

/-- A request changes the filters of a builder by its own filters only. -/
theorem filters_request
    (request : Request)
    (builder : Builder) :
    let filtered :=
      (builder.constrainAll (Filter.ofMembers request.filter)).alternativeAll
        (AlternativeFilter.ofMembers request.alternatives)
    (request.applyTo builder).filter = filtered.filter ∧
      (request.applyTo builder).alternatives = filtered.alternatives := by
  have unmoved :
      Unmoved fun builder : Builder =>
        (builder.filter, builder.alternatives) := by
    constructor
    case distinctRows =>
      intro builder
      unfold distinctRows
      split <;> rfl
    all_goals intros; rfl
  exact Prod.mk.inj (unmoved.request (.inr fun _ => rfl) builder)

/-- A call adds the conditions that it gives to those that are held. -/
theorem Holds.applyTo
    {builder : Builder}
    {asked offered : GivenConditions}
    (holds : builder.Holds asked offered)
    (call : FilterCall) :
    (call.applyTo builder).Holds (asked ++ call.asked)
      (offered ++ call.offered) := by
  cases call with
  | constrain field filter =>
      simp only [FilterCall.offered, List.append_nil]
      exact holds.constrain field filter
  | constrainEqual field value =>
      simp only [FilterCall.offered, List.append_nil]
      exact holds.constrain field (.equals value)
  | constrainBy field tag operand =>
      simp only [FilterCall.offered, List.append_nil]
      exact holds.constrain field (.conditions [⟨tag, operand⟩])
  | constrainAll constraints =>
      simp only [FilterCall.offered, List.append_nil]
      exact holds.constrainAll (gathers_constraints constraints)
  | alternative field tag operand =>
      simp only [FilterCall.asked, List.append_nil]
      exact holds.alternativeAll
        (Gathers.nil.extendAll [(field, [⟨tag, operand⟩])])
  | alternativeAll conditions =>
      simp only [FilterCall.asked, List.append_nil]
      exact holds.alternativeAll (Gathers.nil.extendAll conditions)
  | apply request =>
      obtain ⟨sameFilter, sameAlternatives⟩ := filters_request request builder
      have filtered :=
        (holds.constrainAll (gathers_members request.filter)).alternativeAll
          (gathers_offeredMembers request.alternatives)
      exact filtered.of_same sameFilter sameAlternatives
  | other change sparing =>
      simp only [FilterCall.asked, FilterCall.offered, List.append_nil]
      exact holds.of_same (sparing builder).1 (sparing builder).2

/-- After some calls a builder holds what they gave, in their order. -/
theorem holds_gatheredBy
    (calls : List FilterCall) :
    (gatheredBy calls).Holds (calls.flatMap FilterCall.asked)
      (calls.flatMap FilterCall.offered) := by
  have fromAny :
      ∀ (builder : Builder) asked offered,
        builder.Holds asked offered →
          (calls.foldl FilterCall.applyTo builder).Holds
            (asked ++ calls.flatMap FilterCall.asked)
            (offered ++ calls.flatMap FilterCall.offered) := by
    induction calls with
    | nil =>
        intro builder asked offered holds
        simpa using holds
    | cons call rest inductionHypothesis =>
        intro builder asked offered holds
        have later := inductionHypothesis _ _ _ (holds.applyTo call)
        rw [List.append_assoc, List.append_assoc] at later
        exact later
  exact fromAny {} [] [] ⟨.nil, .nil⟩

/-- A builder freezes a query, by any of its terminal operations. -/
inductive Freezes
    (builder : Builder)
    (query : Query) :
    Prop where
  | select
      (frozen : builder.select = .ok query)
  | insert
      {before after : Supply}
      (frozen : builder.insert.runFrom before = (.ok query, after))
  | update
      {before after : Supply}
      (frozen : builder.update.runFrom before = (.ok query, after))
  | delete
      (frozen : builder.delete = .ok query)
  | page
      (request : PageRequest)
      (orderByIdentifier : Bool)
      (frozen : builder.paginate request orderByIdentifier = .ok query)

theorem filters_of_select
    {builder : Builder}
    {query : Query}
    (frozen : builder.select = .ok query) :
    query.filter = builder.filter ∧
      query.alternatives = builder.alternatives := by
  obtain ⟨schema, -, isFrozen⟩ := bind_eq_ok.mp frozen
  cases isFrozen
  exact ⟨rfl, rfl⟩

/-- A frozen query has the filters of its builder. -/
theorem Freezes.filters
    {builder : Builder}
    {query : Query}
    (freezes : builder.Freezes query) :
    query.filter = builder.filter ∧
      query.alternatives = builder.alternatives := by
  cases freezes with
  | select frozen =>
      exact filters_of_select frozen
  | insert frozen =>
      obtain ⟨schema, _, -, completed⟩ := Stateful.runFrom_bind_eq_ok frozen
      obtain ⟨resolved, _, -, isFrozen⟩ := Stateful.runFrom_bind_eq_ok completed
      cases isFrozen
      exact ⟨rfl, rfl⟩
  | update frozen =>
      obtain ⟨schema, _, -, completed⟩ := Stateful.runFrom_bind_eq_ok frozen
      cases isBatch : builder.givenValues.isBatch with
      | true =>
          simp only [isBatch] at completed
          obtain ⟨resolved, _, -, isFrozen⟩ :=
            Stateful.runFrom_bind_eq_ok completed
          cases isFrozen
          exact ⟨rfl, rfl⟩
      | false =>
          simp only [isBatch] at completed
          obtain ⟨_, _, -, resolution⟩ := Stateful.runFrom_bind_eq_ok completed
          obtain ⟨resolved, _, -, isFrozen⟩ :=
            Stateful.runFrom_bind_eq_ok resolution
          cases isFrozen
          exact ⟨rfl, rfl⟩
  | delete frozen =>
      obtain ⟨schema, -, guarded⟩ := bind_eq_ok.mp frozen
      obtain ⟨-, -, isFrozen⟩ := bind_eq_ok.mp guarded
      cases isFrozen
      exact ⟨rfl, rfl⟩
  | page request orderByIdentifier frozen =>
      have filters := filters_of_select frozen
      rw [windowed_eq] at filters
      exact filters

/--
Accumulation neither loses nor reorders a condition.

However a builder was filtered, and whatever else was called on it, a query that
is frozen from it holds every field once among the constraints and once among
the alternatives. The fields stand in order of first mention, and each has
exactly the conditions that the calls gave for it, in the order of the calls.
-/
theorem conditions_gathered_in_order
    (calls : List FilterCall)
    {query : Query}
    (freezes : (gatheredBy calls).Freezes query) :
    Gathers query.filter.spelledOut (calls.flatMap FilterCall.asked) ∧
      Gathers query.alternatives (calls.flatMap FilterCall.offered) := by
  obtain ⟨sameFilter, sameAlternatives⟩ := freezes.filters
  have holds := holds_gatheredBy calls
  rw [sameFilter, sameAlternatives]
  exact ⟨holds.filter, holds.alternatives⟩

/-- An entity with two fields. -/
def pairSchema : Schema :=
  {
    name := "pair"
    storageName := none
    fields := [⟨"a", none, false, none, none⟩, ⟨"b", none, false, none, none⟩]
  }

/--
Calls that come back to both fields, by a value, a condition, a
request and a filter.
-/
def mixedCalls : List FilterCall :=
  [.other (fun builder => builder.model pairSchema) fun _ => ⟨rfl, rfl⟩,
    .constrainEqual "b" (.ofInt 1),
    .alternative "a" "like" (.string "x%"),
    .apply {
      filter :=
        [("a", .object [("gt", .ofInt 2), ("lt", .ofInt 9)]), ("b", .null)]
      alternatives := [("b", .ofInt 3), ("a", .object [])]
      limit := some 5
    },
    .constrainAll
      [("b", .equals (.ofInt 4)), ("a", .conditions []),
        ("b", .equals (.ofInt 6))],
    .constrainBy "a" "ne" (.ofInt 7),
    .alternativeAll [("a", [⟨"eq", .ofInt 8⟩])]]

theorem conditions_gathered_in_order_of_mixed :
    ∃ query,
      (gatheredBy mixedCalls).Freezes query ∧
        query.filter.spelledOut.keys = ["b", "a"] ∧
          (query.filter.spelledOut.get? "b").getD [] =
            [⟨"eq", .ofInt 1⟩, ⟨"eq", .null⟩, ⟨"eq", .ofInt 4⟩,
              ⟨"eq", .ofInt 6⟩] ∧
            (query.filter.spelledOut.get? "a").getD [] =
              [⟨"gt", .ofInt 2⟩, ⟨"lt", .ofInt 9⟩, ⟨"ne", .ofInt 7⟩] ∧
              query.alternatives.keys = ["a", "b"] ∧
                (query.alternatives.get? "a").getD [] =
                  [⟨"like", .string "x%"⟩, ⟨"eq", .ofInt 8⟩] := by
  have freezes :
      (gatheredBy mixedCalls).Freezes
        ((gatheredBy mixedCalls).freeze .select pairSchema none) :=
    .select rfl
  obtain ⟨constraints, alternatives⟩ :=
    conditions_gathered_in_order mixedCalls freezes
  refine ⟨_, freezes, constraints.fields.trans ?_,
    (constraints.conditions "b").trans ?_,
    (constraints.conditions "a").trans ?_, alternatives.fields.trans ?_,
    (alternatives.conditions "a").trans ?_⟩
  all_goals decide

end Builder

end PolyQuery
