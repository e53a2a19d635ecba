import PolyQuery.Proofs.Document.Identifiers
import PolyQuery.Proofs.Document.Lowering

namespace PolyQuery.DocumentCompiler

open Failing Matching

/-!
# Filter documents mean what their query asks

A filter document is put together in a draft. Whatever a step adds to the draft
is added to its meaning: a condition under a free key, a clause if the key is
taken, one entry `$or` or several clauses for the groups of alternatives.
Nothing is lost or overwritten, so the finished document holds exactly of the
documents that the query admits.
-/

/--
What a draft asks of a document.

All that was put into it can be evaluated and holds exactly if the meaning is
the case. No key is `$and` before the draft is finished.
-/
structure Draft.Means
    (document : Document)
    (draft : Draft)
    (meaning : Prop) :
    Prop where
  andFree : "$and" ∉ Entries.keys draft.document
  entriesDecide :
    ∀ entry ∈ draft.document,
      Decides (entryHolds document entry.1 entry.2)
        (entryHolds document entry.1 entry.2 = .ok true)
  clausesAreObjects : ∀ clause ∈ draft.clauses, clause.isObject = true
  clausesDecide :
    ∀ clause ∈ draft.clauses,
      Decides (clauseHolds document clause)
        (clauseHolds document clause = .ok true)
  holds_iff :
    ((∀ entry ∈ draft.document,
      entryHolds document entry.1 entry.2 = .ok true) ∧
      ∀ clause ∈ draft.clauses, clauseHolds document clause = .ok true) ↔
      meaning

/-- A clause with a single entry holds exactly if the entry does. -/
theorem clauseHolds_single
    {document : Document}
    {key : String}
    {condition : Json}
    {meaning : Prop}
    (decides : Decides (entryHolds document key condition) meaning) :
    Decides (clauseHolds document (.object [(key, condition)])) meaning := by
  have single :
      Decides (filterHolds document [(key, condition)])
        (∀ entry ∈ [(key, condition)], meaning) := by
    apply filterHolds_decides
    intro entry member
    obtain rfl := List.mem_singleton.mp member
    exact decides
  simpa [clauseHolds] using single

namespace Draft.Means

variable {document : Document} {draft : Draft} {meaning other : Prop}

theorem empty :
    Draft.Means document {} True where
  andFree := by simp [Entries.keys]
  entriesDecide := by simp
  clausesAreObjects := by simp
  clausesDecide := by simp
  holds_iff := by simp

theorem congr
    (means : draft.Means document meaning)
    (equivalent : meaning ↔ other) :
    draft.Means document other :=
  { means with holds_iff := means.holds_iff.trans equivalent }

/-- An entry under a new key joins the document of a draft. -/
theorem insert
    {key : String}
    {condition : Json}
    (means : draft.Means document meaning)
    (noAnd : key ≠ "$and")
    (absent : key ∉ Entries.keys draft.document)
    (decides : Decides (entryHolds document key condition) other) :
    Draft.Means document
      { draft with document := draft.document.insert key condition }
      (meaning ∧ other) where
  andFree := by
    rw [Entries.insert_of_not_mem absent]
    simp only [Entries.keys_append, List.mem_append, not_or]
    exact ⟨means.andFree, by simpa [Entries.keys] using Ne.symm noAnd⟩
  entriesDecide := by
    rw [Entries.insert_of_not_mem absent]
    intro entry member
    rcases List.mem_append.mp member with earlier | isNew
    · exact means.entriesDecide entry earlier
    · obtain rfl := List.mem_singleton.mp isNew
      exact decides.self
  clausesAreObjects := means.clausesAreObjects
  clausesDecide := means.clausesDecide
  holds_iff := by
    rw [Entries.insert_of_not_mem absent, ← means.holds_iff,
      ← decides.eq_true_iff]
    simp only [List.forall_mem_append, List.forall_mem_singleton]
    exact and_right_comm

/-- Further clauses join those of a draft. -/
theorem addClauses
    {clauses : List Json}
    {asked : Json → Prop}
    (means : draft.Means document meaning)
    (objects : ∀ clause ∈ clauses, clause.isObject = true)
    (decides :
      ∀ clause ∈ clauses,
        Decides (clauseHolds document clause) (asked clause)) :
    Draft.Means document
      { draft with clauses := draft.clauses ++ clauses }
      (meaning ∧ ∀ clause ∈ clauses, asked clause) where
  andFree := means.andFree
  entriesDecide := means.entriesDecide
  clausesAreObjects := by
    intro clause member
    rcases List.mem_append.mp member with earlier | isNew
    · exact means.clausesAreObjects clause earlier
    · exact objects clause isNew
  clausesDecide := by
    intro clause member
    rcases List.mem_append.mp member with earlier | isNew
    · exact means.clausesDecide clause earlier
    · exact (decides clause isNew).self
  holds_iff := by
    have clausesHold :
        (∀ clause ∈ clauses, clauseHolds document clause = .ok true) ↔
          ∀ clause ∈ clauses, asked clause :=
      forall₂_congr fun clause member => (decides clause member).eq_true_iff
    rw [← means.holds_iff, ← clausesHold, List.forall_mem_append, and_assoc]

/--
A condition that is placed under a path adds what it asks, whether
the key is free or not.
-/
theorem place
    {key : String}
    {condition : Json}
    (means : draft.Means document meaning)
    (unmarked : Operator.isMarked key = false)
    (decides :
      Decides (conditionHolds (document.lookup? key) condition) other) :
    Draft.Means document (draft.place key condition) (meaning ∧ other) := by
  have entryDecides : Decides (entryHolds document key condition) other := by
    rw [entryHolds_path unmarked]
    exact decides
  unfold Draft.place
  by_cases taken : draft.document.contains key = true
  · rw [if_pos taken]
    have objects :
        ∀ clause ∈ [Json.object [(key, condition)]],
          clause.isObject = true := by
      simp [Json.isObject, Json.object?]
    have clauseDecides :
        ∀ clause ∈ [Json.object [(key, condition)]],
          Decides (clauseHolds document clause) other := by
      simpa using clauseHolds_single entryDecides
    exact (means.addClauses objects clauseDecides).congr (by simp)
  · rw [if_neg taken]
    have noAnd : key ≠ "$and" := by
      rintro rfl
      exact absurd unmarked (by decide)
    have absent : key ∉ Entries.keys draft.document :=
      fun present => taken (Entries.contains_iff_mem_keys.mpr present)
    exact means.insert noAnd absent entryDecides

/--
Lowered operator documents that are placed under a path add
what all of them ask.
-/
theorem placeAll
    {key : String}
    {packed : List Document}
    (means : draft.Means document meaning)
    (unmarked : Operator.isMarked key = false)
    (lowered : ∀ operators ∈ packed, Lowered operators) :
    Draft.Means document
      (packed.foldl (fun draft operators => draft.place key (.object operators))
        draft)
      (meaning ∧
        ∀ operators ∈ packed,
          OperatorsHold operators (document.lookup? key)) := by
  induction packed generalizing draft meaning with
  | nil =>
      exact means.congr (by simp)
  | cons operators rest inductionHypothesis =>
      obtain ⟨headLowered, restLowered⟩ := List.forall_mem_cons.mp lowered
      have placed := means.place unmarked (conditionHolds_lowered headLowered _)
      exact (inductionHypothesis placed restLowered).congr (by
        rw [List.forall_mem_cons, and_assoc])

end Draft.Means

section Fields

variable
  {codec : IdentifierCodec}
  {schema : Schema}
  {document : Document}
  {draft placed : Draft}
  {meaning : Prop}

/--
A bare value of a field is placed as an equality, unless it reads as operators.
-/
theorem Draft.Means.placeEquals
    {field : String}
    {value stored : Json}
    (means : draft.Means document meaning)
    (unmarked : Operator.isMarked (fieldKey schema field) = false)
    (encoded : storedValue codec (fieldKey schema field) value = .ok stored)
    (plain : isOperatorDocument stored = false) :
    Draft.Means document (draft.place (fieldKey schema field) stored)
      (meaning ∧
        ∀ condition ∈ (FieldFilter.equals value).toConditions,
          condition.HoldsAt codec document (fieldKey schema field)) := by
  have decides :
      Decides (conditionHolds (document.lookup? (fieldKey schema field)) stored)
        (equals (document.lookup? (fieldKey schema field)) stored = true) := by
    rw [conditionHolds_of_plain plain]
    exact .of_ok rfl
  refine (means.place unmarked decides).congr (and_congr_right' ?_)
  simp only [FieldFilter.toConditions, List.forall_mem_singleton]
  have named : Condition.operator ⟨"eq", value⟩ = .ok .equal :=
    Operator.ofTag_tag .equal
  have asStored :
      Operator.equal.storedOperand codec (fieldKey schema field) value =
        .ok stored :=
    encoded
  rw [Condition.holdsAt_iff named, Operator.holdsAt_iff asStored]
  rfl

/-- What is asked of a field is added to the meaning of a draft. -/
theorem Draft.Means.placeField
    {field : String}
    {asked : FieldFilter}
    (means : draft.Means document meaning)
    (unmarked : Operator.isMarked (fieldKey schema field) = false)
    (plain :
      ∀ value stored,
        asked = .equals value →
        storedValue codec (fieldKey schema field) value = .ok stored →
        isOperatorDocument stored = false)
    (succeeded :
      DocumentCompiler.placeField codec schema draft field asked = .ok placed) :
    placed.Means document
      (meaning ∧
        ∀ condition ∈ asked.toConditions,
          condition.HoldsAt codec document (fieldKey schema field)) := by
  cases asked with
  | equals value =>
      obtain ⟨stored, encoded, same⟩ := bind_eq_ok.mp succeeded
      cases same
      exact means.placeEquals unmarked encoded (plain value stored rfl encoded)
  | conditions list =>
      obtain ⟨packed, packing, same⟩ := bind_eq_ok.mp succeeded
      cases same
      obtain ⟨lowered, holds⟩ := packConditions_lowered packing (by simp)
      refine (means.placeAll unmarked lowered).congr (and_congr_right' ?_)
      simpa [FieldFilter.toConditions] using holds document

/-- What is asked of every field is added to the meaning of a draft. -/
theorem Draft.Means.placeFields
    {filter : List (String × FieldFilter)}
    (means : draft.Means document meaning)
    (unmarked :
      ∀ entry ∈ filter, Operator.isMarked (fieldKey schema entry.1) = false)
    (plain :
      ∀ entry ∈ filter, ∀ value stored,
        entry.2 = .equals value →
        storedValue codec (fieldKey schema entry.1) value = .ok stored →
        isOperatorDocument stored = false)
    (succeeded :
      DocumentCompiler.placeFields codec schema filter draft = .ok placed) :
    placed.Means document
      (meaning ∧
        ∀ entry ∈ filter,
          ∀ condition ∈ entry.2.toConditions,
            condition.HoldsAt codec document (fieldKey schema entry.1)) := by
  induction filter generalizing draft meaning with
  | nil =>
      cases succeeded
      exact means.congr (by simp)
  | cons entry rest inductionHypothesis =>
      obtain ⟨extended, fieldPlaced, restPlaced⟩ := bind_eq_ok.mp succeeded
      rw [List.forall_mem_cons] at unmarked plain
      have extendedMeans := means.placeField unmarked.1 plain.1 fieldPlaced
      have placedMeans :=
        inductionHypothesis extendedMeans unmarked.2 plain.2 restPlaced
      exact placedMeans.congr (by rw [List.forall_mem_cons, and_assoc])

/-- The clause of an alternative holds exactly if the alternative does. -/
theorem clauseHolds_lowerOperator
    {field key : String}
    {operator : Operator}
    {operand : Json}
    {fragment : Document}
    (unmarked : Operator.isMarked key = false)
    (succeeded : lowerOperator codec field key operator operand = .ok fragment)
    (document : Document) :
    Decides
      (clauseHolds document
        (.object [(key, .object (Entries.ofList fragment))]))
      (operator.HoldsAt codec document key operand) := by
  have lowered := (lowered_of_lowerOperator succeeded).1
  apply clauseHolds_single
  rw [entryHolds_path unmarked, Entries.ofList_of_distinct lowered.distinct]
  exact (conditionHolds_lowered lowered _).congr
    (operatorsHold_lowerOperator succeeded document)

end Fields

section Groups

variable
  {codec : IdentifierCodec}
  {schema : Schema}
  {field : String}
  {conditions : List Condition}
  {clauses : List Json}

/--
The clauses of a group are the alternatives that its
conditions offer, one for one.
-/
theorem groupClauses_offered
    (succeeded : groupClauses codec schema field conditions = .ok clauses) :
    (∀ clause ∈ clauses, ∃ disjunct fragment,
      Condition.Offered conditions disjunct ∧
        lowerOperator codec field (fieldKey schema field) disjunct.1
          disjunct.2 =
            .ok fragment ∧
          clause =
            .object
              [(fieldKey schema field, .object (Entries.ofList fragment))]) ∧
      ∀ disjunct, Condition.Offered conditions disjunct → ∃ fragment,
        lowerOperator codec field (fieldKey schema field) disjunct.1
          disjunct.2 =
            .ok fragment ∧
          Json.object
              [(fieldKey schema field, .object (Entries.ofList fragment))] ∈
            clauses := by
  obtain ⟨clauseLists, traversed, same⟩ := bind_eq_ok.mp succeeded
  cases same
  obtain ⟨fromClause, toClause⟩ := Condition.offered_iff_lowered traversed
  constructor
  · intro clause member
    obtain ⟨disjunct, offered, computed⟩ := fromClause clause member
    obtain ⟨fragment, lowered, isClause⟩ := bind_eq_ok.mp computed
    cases isClause
    exact ⟨disjunct, fragment, offered, lowered, rfl⟩
  · intro disjunct offered
    obtain ⟨clause, member, computed⟩ := toClause disjunct offered
    obtain ⟨fragment, lowered, isClause⟩ := bind_eq_ok.mp computed
    cases isClause
    exact ⟨fragment, lowered, member⟩

/-- The clauses of a group are objects that can be evaluated. -/
theorem groupClauses_decide
    (succeeded : groupClauses codec schema field conditions = .ok clauses)
    (unmarked : Operator.isMarked (fieldKey schema field) = false)
    (document : Document) :
    ∀ clause ∈ clauses,
      clause.isObject = true ∧
        Decides (clauseHolds document clause)
          (clauseHolds document clause = .ok true) := by
  intro clause member
  obtain ⟨disjunct, fragment, -, lowered, rfl⟩ :=
    (groupClauses_offered succeeded).1 clause member
  exact ⟨rfl, (clauseHolds_lowerOperator unmarked lowered document).self⟩

/--
A clause of a group holds exactly if an alternative does that
its conditions offer.
-/
theorem exists_clause_holds_iff
    (succeeded : groupClauses codec schema field conditions = .ok clauses)
    (unmarked : Operator.isMarked (fieldKey schema field) = false)
    (document : Document) :
    (∃ clause ∈ clauses, clauseHolds document clause = .ok true) ↔
      ∃ disjunct,
        Condition.Offered conditions disjunct ∧
          disjunct.1.HoldsAt codec document (fieldKey schema field)
            disjunct.2 := by
  obtain ⟨fromClause, toClause⟩ := groupClauses_offered succeeded
  constructor
  · rintro ⟨clause, member, holds⟩
    obtain ⟨disjunct, fragment, offered, lowered, rfl⟩ :=
      fromClause clause member
    exact ⟨disjunct, offered,
      (clauseHolds_lowerOperator unmarked lowered document).eq_true_iff.mp
        holds⟩
  · rintro ⟨disjunct, offered, holds⟩
    obtain ⟨fragment, lowered, member⟩ := toClause disjunct offered
    exact ⟨_, member,
      (clauseHolds_lowerOperator unmarked lowered document).eq_true_iff.mpr
        holds⟩

theorem groupClauses_ne_nil_iff
    (succeeded : groupClauses codec schema field conditions = .ok clauses) :
    clauses ≠ [] ↔ ∃ disjunct, Condition.Offered conditions disjunct := by
  obtain ⟨fromClause, toClause⟩ := groupClauses_offered succeeded
  constructor
  · intro nonempty
    obtain ⟨clause, member⟩ := List.exists_mem_of_ne_nil clauses nonempty
    obtain ⟨disjunct, -, offered, -, -⟩ := fromClause clause member
    exact ⟨disjunct, offered⟩
  · rintro ⟨disjunct, offered⟩
    obtain ⟨_, -, member⟩ := toClause disjunct offered
    exact List.ne_nil_of_mem member

end Groups

namespace Draft.Means

variable {document : Document} {draft : Draft} {meaning : Prop}

/--
Groups that are placed ask for a clause of each, under one `$or` or several.
-/
theorem placeGroups
    {groups : List (List Json)}
    (means : draft.Means document meaning)
    (decide :
      ∀ group ∈ groups, ∀ clause ∈ group,
        clause.isObject = true ∧
          Decides (clauseHolds document clause)
            (clauseHolds document clause = .ok true)) :
    Draft.Means document (draft.placeGroups groups)
      (meaning ∧
        ∀ group ∈ groups, ∃ clause ∈ group,
          clauseHolds document clause = .ok true) := by
  have groupDecides :
      ∀ group ∈ groups,
        Decides (entryHolds document "$or" (.array group))
          (∃ clause ∈ group, clauseHolds document clause = .ok true) :=
    fun group member =>
      entryHolds_or_decides
        (fun clause inGroup => (decide group member clause inGroup).1)
        (fun clause inGroup => (decide group member clause inGroup).2)
  -- Several groups, or a taken `$or`, go into one clause each.
  have asClauses :
      Draft.Means document
        { draft with
          clauses :=
            draft.clauses ++ groups.map fun group =>
              .object [("$or", .array group)] }
        (meaning ∧
          ∀ group ∈ groups, ∃ clause ∈ group,
            clauseHolds document clause = .ok true) := by
    have clauseDecides :
        ∀ clause ∈ groups.map fun group => Json.object [("$or", .array group)],
          Decides (clauseHolds document clause)
            (clauseHolds document clause = .ok true) := by
      rw [List.forall_mem_map]
      exact fun group member =>
        (clauseHolds_single (groupDecides group member)).self
    refine (means.addClauses (by simp [Json.isObject, Json.object?])
      clauseDecides).congr (and_congr_right' ?_)
    rw [List.forall_mem_map]
    exact forall₂_congr fun group member =>
      (clauseHolds_single (groupDecides group member)).eq_true_iff
  unfold Draft.placeGroups
  split
  · exact means.congr (by simp)
  next group =>
    by_cases taken : draft.document.contains "$or" = true
    · rw [if_pos taken]
      exact asClauses
    · rw [if_neg taken]
      have absent : "$or" ∉ Entries.keys draft.document :=
        fun present => taken (Entries.contains_iff_mem_keys.mpr present)
      have inserted :=
        means.insert (by decide) absent (groupDecides group List.mem_cons_self)
      exact inserted.congr (by simp)
  · exact asClauses

/-- The finished document holds exactly if what the draft asks is the case. -/
theorem finish
    (means : draft.Means document meaning) :
    Decides (document.matches draft.finish) meaning := by
  unfold Draft.finish Document.matches
  by_cases noClauses : draft.clauses.isEmpty = true
  · rw [if_pos noClauses]
    have clausesEmpty : draft.clauses = [] := List.isEmpty_iff.mp noClauses
    refine (filterHolds_decides means.entriesDecide).congr ?_
    rw [← means.holds_iff]
    simp [clausesEmpty]
  · have noAnd : draft.document.get? "$and" = none :=
      Entries.get?_eq_none_iff.mpr means.andFree
    have joined :
        Decides
          (filterHolds document
            (draft.document ++ [("$and", .array draft.clauses)]))
          (∀ entry ∈ draft.document ++ [("$and", Json.array draft.clauses)],
            entryHolds document entry.1 entry.2 = .ok true) := by
      apply filterHolds_decides
      intro entry member
      rcases List.mem_append.mp member with earlier | isNew
      · exact means.entriesDecide entry earlier
      · obtain rfl := List.mem_singleton.mp isNew
        exact (entryHolds_and_decides means.clausesAreObjects
          means.clausesDecide).self
    rw [if_neg noClauses, noAnd]
    simp only [Entries.insert_of_not_mem means.andFree]
    refine joined.congr ?_
    rw [← means.holds_iff]
    simp only [List.forall_mem_append, List.forall_mem_singleton]
    exact and_congr_right'
      (entryHolds_and_decides means.clausesAreObjects
        means.clausesDecide).eq_true_iff

end Draft.Means

/-- A value that does not read as operators is compared for equality. -/
theorem isOperatorDocument_of_plain
    {value : Json}
    (plain : value.isMarkedObject = false) :
    isOperatorDocument value = false := by
  cases value with
  | object members =>
      simp only [Json.isMarkedObject] at plain
      simp [isOperatorDocument, plain]
  | _ =>
      rfl

section Queries

variable
  {codec : IdentifierCodec}
  {query : Query}

/--
The clauses of the groups that have any hold exactly if the
alternatives of a query do.
-/
theorem groupsHold_iff
    {groups : List (List Json)}
    (traversed :
      (query.alternatives.mapM fun entry =>
        groupClauses codec query.schema entry.1 entry.2) = .ok groups)
    (unmarked :
      ∀ entry ∈ query.alternatives,
        Operator.isMarked (fieldKey query.schema entry.1) = false)
    (document : Document) :
    (∀ group ∈ groups.filter fun group => !group.isEmpty,
      ∃ clause ∈ group, clauseHolds document clause = .ok true) ↔
      query.AlternativesHold codec document := by
  rw [List.forall_mem_filter]
  refine forall_mem_mapM_iff traversed ?_
  intro entry member group computed
  rw [← groupClauses_ne_nil_iff computed,
    ← exists_clause_holds_iff computed (unmarked entry member)]
  simp

/--
A filter document decides of every document whether its query admits it.

No bare value may be stored as a document of operators, neither
as it is nor encoded.
-/
theorem filterDocument_decides
    {filter : Document}
    (unmarked :
      ∀ field ∈ query.constrainedFields,
        Operator.isMarked (fieldKey query.schema field) = false)
    (plainStored :
      ∀ entry ∈ query.filter, ∀ value stored,
        entry.2 = .equals value →
        storedValue codec (fieldKey query.schema entry.1) value = .ok stored →
        isOperatorDocument stored = false)
    (compiled : filterDocument codec query = .ok filter)
    (document : Document) :
    Decides (document.matches filter) (query.Admits codec document) := by
  obtain ⟨placed, fieldsPlaced, rest⟩ := bind_eq_ok.mp compiled
  obtain ⟨groups, traversed, same⟩ := bind_eq_ok.mp rest
  cases same
  have unmarkedFilter :
      ∀ entry ∈ query.filter,
        Operator.isMarked (fieldKey query.schema entry.1) = false :=
    fun entry member =>
      unmarked entry.1 (Query.mem_constrainedFields_of_filter member)
  have unmarkedGroup :
      ∀ entry ∈ query.alternatives,
        Operator.isMarked (fieldKey query.schema entry.1) = false :=
    fun entry member =>
      unmarked entry.1 (Query.mem_constrainedFields_of_alternatives member)
  have nothing : Draft.Means document {} True := .empty
  have fieldsMean := nothing.placeFields unmarkedFilter plainStored fieldsPlaced
  have groupsDecide :
      ∀ group ∈ groups.filter fun group => !group.isEmpty, ∀ clause ∈ group,
        clause.isObject = true ∧
          Decides (clauseHolds document clause)
            (clauseHolds document clause = .ok true) := by
    intro group member
    obtain ⟨entry, entryMember, computed⟩ :=
      exists_item_of_mem_mapM traversed (List.mem_of_mem_filter member)
    exact groupClauses_decide computed (unmarkedGroup entry entryMember)
      document
  refine (fieldsMean.placeGroups groupsDecide).finish.congr ?_
  rw [true_and, groupsHold_iff traversed unmarkedGroup]
  rfl

/--
Filter documents mean what their query asks.

Where no field is stored under a marked key and no bare value reads as a
document of operators, evaluating a filter document never fails, and it holds of
exactly the documents that the query admits.
-/
theorem matches_filterDocument
    {filter : Document}
    (compiled : filterDocument ObjectId.codec query = .ok filter)
    (unmarked :
      ∀ field ∈ query.constrainedFields,
        Operator.isMarked (fieldKey query.schema field) = false)
    (plain : query.PlainEqualities)
    (document : Document) :
    ∃ value,
      document.matches filter = .ok value ∧
        (value = true ↔ query.Admits ObjectId.codec document) := by
  refine filterDocument_decides unmarked ?_ compiled document
  intro entry member value stored isEquals encoded
  unfold storedValue at encoded
  split at encoded
  · exact ObjectId.isOperatorDocument_encode encoded
  · cases encoded
    exact isOperatorDocument_of_plain (plain entry member value isEquals)

end Queries

/--
A query with two fields on one key, a repeated operator, an
identifier and two groups.
-/
def crowdedQuery : Query :=
  {
    kind := .select
    schema := {
      name := "person"
      storageName := none
      fields := [
        ⟨"id", none, true, none, none⟩,
        ⟨"age", none, false, none, none⟩,
        ⟨"years", some "age", false, none, none⟩,
        ⟨"name", none, false, none, none⟩]
    }
    values := none
    filter := [
      ("age",
        .conditions
          [⟨"gte", .ofInt 18⟩, ⟨"$gte", .ofInt 21⟩, ⟨"lt", .ofInt 65⟩]),
      ("years", .equals (.ofInt 30)),
      ("id", .conditions [⟨"in", .array [.string "5E53BB135B64856045CCB8DC"]⟩])]
    alternatives := [
      ("name", [⟨"ilike", .array [.string "a%", .string "_b"]⟩]),
      ("age", [⟨"in", .array [.ofInt 30]⟩])]
  }

/-- A document that `crowdedQuery` admits. -/
def admittedDocument : Document :=
  [("_id", .object [("$oid", .string "5e53bb135b64856045ccb8dc")]),
    ("age", .ofInt 30),
    ("name", .string "Ada")]

theorem matches_filterDocument_crowded :
    ∃ filter,
      filterDocument ObjectId.codec crowdedQuery = .ok filter ∧
        (∀ field ∈ crowdedQuery.constrainedFields,
          Operator.isMarked (fieldKey crowdedQuery.schema field) = false) ∧
        crowdedQuery.PlainEqualities ∧
        ∃ value,
          admittedDocument.matches filter = .ok value ∧
            (value = true ↔
              crowdedQuery.Admits ObjectId.codec admittedDocument) := by
  have unmarked :
      ∀ field ∈ crowdedQuery.constrainedFields,
        Operator.isMarked (fieldKey crowdedQuery.schema field) = false := by
    decide
  have plain : crowdedQuery.PlainEqualities := by
    simp [Query.PlainEqualities, crowdedQuery, Json.isMarkedObject, Json.ofInt]
  exact ⟨_, rfl, unmarked, plain, matches_filterDocument rfl unmarked plain _⟩

end PolyQuery.DocumentCompiler
