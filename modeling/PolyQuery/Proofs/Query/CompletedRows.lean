import PolyQuery.Proofs.Entries
import PolyQuery.Query.Mutation
import PolyQuery.Supply

namespace PolyQuery

/-!
# Completed rows

Resolving written values asks for every field that a row leaves out and
something fills, once for each such row and for nothing else: row by row, and
within a row in schema order. The answers complete the rows. A completed row
leaves out nothing that could be filled, so resolving it again asks for nothing
and changes nothing.
-/

namespace Mutation

variable
  {schema : Schema}
  {purpose : WritePurpose}
  {row provided : Document}

/--
What a field asks for: its provider, if there is one and the row
leaves the field out.
-/
def request?
    (purpose : WritePurpose)
    (row : Document)
    (field : Field) :
    Option (String × Provider) :=
  if row.contains field.name then
    none
  else
    (field.provider? purpose).map (Prod.mk field.name)

/-- The fields that a row leaves out and something fills, in order. -/
def leftOut
    (purpose : WritePurpose)
    (fields : List Field)
    (row : Document) :
    List (String × Provider) :=
  fields.filterMap (request? purpose row)

/--
What a provider answers, under the name of the field that it is asked for.
-/
def answer
    {m : Type → Type}
    [Functor m]
    (evaluate : Provider → m Json)
    (request : String × Provider) :
    m (String × Json) :=
  Prod.mk request.1 <$> evaluate request.2

/-- The value that a field has once its row is completed. -/
def completedValue?
    (purpose : WritePurpose)
    (row provided : Document)
    (field : Field) :
    Option Json :=
  (row.get? field.name).or
    ((field.provider? purpose).bind fun _ => provided.get? field.name)

/-- The fields that have a value once their row is completed, in order. -/
def completedFields
    (purpose : WritePurpose)
    (row provided : Document)
    (fields : List Field) :
    Document :=
  fields.filterMap fun field =>
    (completedValue? purpose row provided field).map (Prod.mk field.name)

/-- What a row has under names that the schema does not know. -/
def unknownEntries
    (schema : Schema)
    (row : Document) :
    Document :=
  row.filter fun entry => (schema.field? entry.1).isNone

/-- A row completed by what was provided for the fields that it leaves out. -/
def completedRow
    (schema : Schema)
    (purpose : WritePurpose)
    (row provided : Document) :
    Document :=
  completedFields purpose row provided schema.fields ++
    unknownEntries schema row

/--
What was provided for a row has the names of the fields that the row leaves out.
-/
def ProvidedFor
    (schema : Schema)
    (purpose : WritePurpose)
    (row provided : Document) :
    Prop :=
  provided.keys = (leftOut purpose schema.fields row).map Prod.fst

section Fields

theorem isNone_field?_iff
    {name : String} :
    (schema.field? name).isNone = true ↔
      name ∉ schema.fields.map Field.name := by
  rw [Option.isNone_iff_eq_none, Schema.field?, List.find?_eq_none,
    List.mem_map]
  simp only [decide_eq_true_eq, not_exists, not_and]

theorem keys_unknownEntries :
    (unknownEntries schema row).keys =
      row.keys.filter fun name => (schema.field? name).isNone := by
  rw [Entries.keys, Entries.keys, List.filter_map]
  rfl

theorem completedFields_cons_of_none
    {field : Field}
    (hasNone : completedValue? purpose row provided field = none)
    (rest : List Field) :
    completedFields purpose row provided (field :: rest) =
      completedFields purpose row provided rest := by
  simp only [completedFields, List.filterMap_cons, hasNone, Option.map_none]

theorem completedFields_cons_of_some
    {field : Field}
    {value : Json}
    (hasValue : completedValue? purpose row provided field = some value)
    (rest : List Field) :
    completedFields purpose row provided (field :: rest) =
      (field.name, value) :: completedFields purpose row provided rest := by
  simp only [completedFields, List.filterMap_cons, hasValue, Option.map_some]

theorem keys_completedFields
    (fields : List Field) :
    (completedFields purpose row provided fields).keys =
      (fields.filter fun field =>
        (completedValue? purpose row provided field).isSome).map
        Field.name := by
  induction fields with
  | nil =>
      rfl
  | cons field rest inductionHypothesis =>
      rw [List.filter_cons]
      cases hasValue : completedValue? purpose row provided field with
      | none =>
          rw [completedFields_cons_of_none hasValue]
          exact inductionHypothesis
      | some value =>
          rw [completedFields_cons_of_some hasValue]
          exact congrArg (field.name :: ·) inductionHypothesis

/-- What was provided under another name does not count for a field. -/
theorem completedFields_cons_of_not_mem
    {fields : List Field}
    {name : String}
    (absent : name ∉ fields.map Field.name)
    (value : Json) :
    completedFields purpose row ((name, value) :: provided) fields =
      completedFields purpose row provided fields := by
  unfold completedFields
  refine List.filterMap_congr fun field member => ?_
  have otherName : name ≠ field.name := by
    rintro rfl
    exact absent (List.mem_map_of_mem member)
  rw [completedValue?, completedValue?, Entries.get?_cons, if_neg otherName]

theorem distinct_completedRow
    (distinctNames : (schema.fields.map Field.name).Nodup)
    (distinct : row.Distinct)
    (provided : Document) :
    (completedRow schema purpose row provided).Distinct := by
  rw [Entries.Distinct, completedRow, Entries.keys_append, keys_completedFields,
    keys_unknownEntries]
  have knownNames :
      ((schema.fields.filter fun field =>
        (completedValue? purpose row provided field).isSome).map
        Field.name).Sublist
        (schema.fields.map Field.name) :=
    List.filter_sublist.map Field.name
  refine List.nodup_append.mpr
    ⟨distinctNames.sublist knownNames, distinct.filter _, ?_⟩
  rintro known isKnown unknown isUnknown rfl
  exact isNone_field?_iff.mp (List.mem_filter.mp isUnknown).2
    (knownNames.subset isKnown)

end Fields

section Requests

variable
  (purpose)
  {m : Type → Type}
  [Monad m]
  [LawfulMonad m]
  (evaluate : Provider → m Json)

/--
The fields of a row are stored one after the other, each left-out
one after one answer.
-/
theorem resolveFields_eq
    {fields : List Field}
    (distinctNames : (fields.map Field.name).Nodup)
    (resolved : Document) :
    resolveFields evaluate purpose row fields resolved =
      (fun provided =>
        resolved.insertAll (completedFields purpose row provided fields)) <$>
        (leftOut purpose fields row).mapM (answer evaluate) := by
  induction fields generalizing resolved with
  | nil =>
      simp [resolveFields, leftOut, completedFields, Entries.insertAll]
  | cons field rest inductionHypothesis =>
      obtain ⟨notAgain, restDistinct⟩ := List.nodup_cons.mp distinctNames
      rw [resolveFields, leftOut, List.filterMap_cons, request?,
        Entries.contains]
      cases given : row.get? field.name with
      | some value =>
          have isCompleted :
              ∀ provided,
                completedValue? purpose row provided field = some value := by
            intro provided
            rw [completedValue?, given, Option.some_or]
          simp only [completedFields_cons_of_some (isCompleted _)]
          exact inductionHypothesis restDistinct _
      | none =>
          cases filler : field.provider? purpose with
          | none =>
              have isCompleted :
                  ∀ provided,
                    completedValue? purpose row provided field = none := by
                intro provided
                rw [completedValue?, given, filler, Option.none_or,
                  Option.bind_none]
              simp only [completedFields_cons_of_none (isCompleted _)]
              exact inductionHypothesis restDistinct _
          | some provider =>
              have isCompleted :
                  ∀ value provided,
                    completedValue? purpose row
                        ((field.name, value) :: provided) field =
                      some value := by
                intro value provided
                rw [completedValue?, given, filler, Entries.get?_cons,
                  if_pos rfl]
                rfl
              have storesFirst :
                  ∀ value provided,
                    resolved.insertAll
                        (completedFields purpose row
                          ((field.name, value) :: provided) (field :: rest)) =
                      (resolved.insert field.name value).insertAll
                        (completedFields purpose row provided rest) := by
                intro value provided
                rw [completedFields_cons_of_some (isCompleted value provided),
                  completedFields_cons_of_not_mem notAgain]
                rfl
              simp only [inductionHypothesis restDistinct, Option.isSome_none,
                Bool.false_eq_true, if_false, Option.map_some, List.mapM_cons,
                answer, map_eq_pure_bind, bind_assoc, pure_bind, storesFirst,
                leftOut]

/--
A row is resolved by completing it with one answer for each
field that it leaves out.
-/
theorem resolveRow_eq
    (distinctNames : (schema.fields.map Field.name).Nodup)
    (distinct : row.Distinct) :
    resolveRow evaluate schema purpose row =
      completedRow schema purpose row <$>
        (leftOut purpose schema.fields row).mapM (answer evaluate) := by
  have stored :
      ∀ provided,
        Entries.insertAll
            (Entries.insertAll []
              (completedFields purpose row provided schema.fields))
            (unknownEntries schema row) =
          completedRow schema purpose row provided := by
    intro provided
    have distinctRow : (completedRow schema purpose row provided).Distinct :=
      distinct_completedRow distinctNames distinct provided
    have distinctKnown :
        Entries.Distinct
          (completedFields purpose row provided schema.fields) := by
      rw [Entries.Distinct, completedRow, Entries.keys_append] at distinctRow
      exact (List.nodup_append.mp distinctRow).1
    rw [← Entries.ofList, Entries.ofList_of_distinct distinctKnown,
      Entries.insertAll_of_disjoint distinctRow, completedRow]
  rw [resolveRow, resolveFields_eq purpose evaluate distinctNames,
    bind_map_left, ← bind_pure_comp]
  exact bind_congr fun provided => congrArg pure (stored provided)

theorem resolveRows_eq
    (distinctNames : (schema.fields.map Field.name).Nodup)
    {rows : List Document}
    (distinctRows : ∀ row ∈ rows, row.Distinct) :
    resolveRows evaluate schema purpose rows =
      rows.zipWith (completedRow schema purpose) <$>
        rows.mapM fun row =>
          (leftOut purpose schema.fields row).mapM (answer evaluate) := by
  induction rows with
  | nil =>
      simp [resolveRows]
  | cons row rest inductionHypothesis =>
      obtain ⟨distinct, restDistinct⟩ := List.forall_mem_cons.mp distinctRows
      rw [resolveRows, resolveRow_eq purpose evaluate distinctNames distinct,
        inductionHypothesis restDistinct, List.mapM_cons]
      simp only [map_eq_pure_bind, bind_assoc, pure_bind,
        List.zipWith_cons_cons]

end Requests

/--
A resolved row has the fields that the row gave or that something fills, in
schema order, and the unknown names of the row behind them in its order. What
the row gave is unchanged.
-/
structure Completes
    (schema : Schema)
    (purpose : WritePurpose)
    (row resolved : Document) :
    Prop where
  keys :
    resolved.keys =
      ((schema.fields.filter fun field =>
            row.contains field.name || (field.provider? purpose).isSome).map
          Field.name) ++
        row.keys.filter fun name => (schema.field? name).isNone
  given :
    ∀ name value, row.get? name = some value → resolved.get? name = some value

section Completion

theorem request?_eq_some_iff
    {field : Field}
    {name : String}
    {provider : Provider} :
    request? purpose row field = some (name, provider) ↔
      row.get? field.name = none ∧
        field.provider? purpose = some provider ∧
          field.name = name := by
  rw [request?, Entries.contains]
  cases row.get? field.name <;> simp

theorem mem_names_leftOut_iff
    {fields : List Field}
    {name : String} :
    name ∈ (leftOut purpose fields row).map Prod.fst ↔
      ∃ field ∈ fields, ∃ provider,
        row.get? field.name = none ∧ field.provider? purpose = some provider ∧
          field.name = name := by
  simp only [leftOut, List.mem_map, List.mem_filterMap, Prod.exists,
    exists_and_right, exists_eq_right, request?_eq_some_iff]
  exact ⟨fun ⟨provider, field, member, asks⟩ => ⟨field, member, provider, asks⟩,
    fun ⟨field, member, provider, asks⟩ => ⟨provider, field, member, asks⟩⟩

theorem names_leftOut_sublist
    (fields : List Field) :
    ((leftOut purpose fields row).map Prod.fst).Sublist
      (fields.map Field.name) := by
  induction fields with
  | nil =>
      exact .slnil
  | cons field rest inductionHypothesis =>
      rw [leftOut, List.filterMap_cons]
      cases asks : request? purpose row field with
      | none =>
          exact inductionHypothesis.cons field.name
      | some request =>
          obtain ⟨name, provider⟩ := request
          obtain ⟨-, -, rfl⟩ := request?_eq_some_iff.mp asks
          exact inductionHypothesis.cons_cons field.name

variable (isProvided : ProvidedFor schema purpose row provided)

include isProvided

/--
A field has a value in the completed row if the row gives one
or something fills it.
-/
theorem isSome_completedValue?
    {field : Field}
    (member : field ∈ schema.fields) :
    (completedValue? purpose row provided field).isSome =
      (row.contains field.name || (field.provider? purpose).isSome) := by
  rw [completedValue?, Entries.contains]
  cases given : row.get? field.name with
  | some value =>
      rfl
  | none =>
      cases filler : field.provider? purpose with
      | none =>
          rfl
      | some provider =>
          have asked : field.name ∈ provided.keys := by
            rw [isProvided, mem_names_leftOut_iff]
            exact ⟨field, member, provider, given, filler, rfl⟩
          exact Entries.contains_iff_mem_keys.mpr asked

variable
  (distinctNames : (schema.fields.map Field.name).Nodup)
  (distinct : row.Distinct)

include distinctNames distinct

omit isProvided in
theorem get?_completedRow
    {field : Field}
    (member : field ∈ schema.fields) :
    (completedRow schema purpose row provided).get? field.name =
      completedValue? purpose row provided field := by
  cases hasValue : completedValue? purpose row provided field with
  | some value =>
      refine Entries.get?_of_mem
        (distinct_completedRow distinctNames distinct provided)
        (List.mem_append_left _ (List.mem_filterMap.mpr ⟨field, member, ?_⟩))
      rw [hasValue, Option.map_some]
  | none =>
      rw [Entries.get?_eq_none_iff, completedRow, Entries.keys_append,
        keys_completedFields, keys_unknownEntries, List.mem_append, not_or]
      constructor
      · intro isKnown
        obtain ⟨other, isOther, sameName⟩ := List.mem_map.mp isKnown
        obtain ⟨otherMember, otherHasValue⟩ := List.mem_filter.mp isOther
        have sameField :=
          List.inj_on_of_nodup_map distinctNames otherMember member sameName
        rw [sameField, hasValue] at otherHasValue
        cases otherHasValue
      · intro isUnknown
        exact isNone_field?_iff.mp (List.mem_filter.mp isUnknown).2
          (List.mem_map_of_mem member)

omit isProvided in
theorem get?_completedRow_of_given
    {name : String}
    {value : Json}
    (given : row.get? name = some value) :
    (completedRow schema purpose row provided).get? name = some value := by
  by_cases known : name ∈ schema.fields.map Field.name
  · obtain ⟨field, member, rfl⟩ := List.mem_map.mp known
    rw [get?_completedRow distinctNames distinct member, completedValue?, given,
      Option.some_or]
  · exact Entries.get?_of_mem
      (distinct_completedRow distinctNames distinct provided)
      (List.mem_append_right _ (List.mem_filter.mpr
        ⟨Entries.mem_of_get? given, isNone_field?_iff.mpr known⟩))

theorem completes_completedRow :
    Completes schema purpose row
      (completedRow schema purpose row provided) where
  keys := by
    rw [completedRow, Entries.keys_append, keys_completedFields,
      keys_unknownEntries]
    congr 2
    exact List.filter_congr fun field member =>
      isSome_completedValue? isProvided member
  given := fun _ _ => get?_completedRow_of_given distinctNames distinct

/--
What was provided stands in the completed row under the names
that were asked for.
-/
theorem values_of_leftOut :
    (leftOut purpose schema.fields row).map
        (fun request =>
          (completedRow schema purpose row provided).get? request.1) =
      provided.values.map some := by
  have distinctProvided : provided.Distinct := by
    rw [Entries.Distinct, isProvided]
    exact distinctNames.sublist (names_leftOut_sublist schema.fields)
  have stands :
      ∀ entry ∈ provided,
        (completedRow schema purpose row provided).get? entry.1 =
          some entry.2 := by
    intro entry member
    have asked := Entries.mem_keys_of_mem member
    rw [isProvided, mem_names_leftOut_iff] at asked
    obtain ⟨field, isField, provider, given, filler, sameName⟩ := asked
    rw [← sameName, get?_completedRow distinctNames distinct isField,
      completedValue?, given, filler, Option.none_or, Option.bind_some,
      sameName]
    exact Entries.get?_of_mem distinctProvided member
  calc (leftOut purpose schema.fields row).map
        (fun request =>
          (completedRow schema purpose row provided).get? request.1)
    _ = provided.keys.map (completedRow schema purpose row provided).get? := by
        rw [isProvided, List.map_map]
        rfl
    _ = provided.map fun entry => some entry.2 := by
        rw [Entries.keys, List.map_map]
        exact List.map_congr_left stands
    _ = provided.values.map some := by
        rw [Entries.values, List.map_map]
        rfl

/-- A completed row leaves out nothing that something fills. -/
theorem leftOut_completedRow :
    leftOut purpose schema.fields (completedRow schema purpose row provided) =
      [] := by
  refine List.filterMap_eq_nil_iff.mpr fun field member => ?_
  rw [request?, Entries.contains,
    get?_completedRow distinctNames distinct member,
    isSome_completedValue? isProvided member]
  cases row.contains field.name <;> cases field.provider? purpose <;> rfl

omit isProvided in
/-- A completed row is completed by nothing. -/
theorem completedRow_completedRow :
    completedRow schema purpose (completedRow schema purpose row provided) [] =
      completedRow schema purpose row provided := by
  have sameFields :
      completedFields purpose (completedRow schema purpose row provided) []
          schema.fields =
        completedFields purpose row provided schema.fields := by
    refine List.filterMap_congr fun field member => ?_
    rw [completedValue?, get?_completedRow distinctNames distinct member]
    cases completedValue? purpose row provided field <;>
      cases field.provider? purpose <;> rfl
  have noneUnknown :
      unknownEntries schema
        (completedFields purpose row provided schema.fields) = [] := by
    refine List.filter_eq_nil_iff.mpr fun entry member isUnknown => ?_
    have isKnown := Entries.mem_keys_of_mem member
    rw [keys_completedFields] at isKnown
    obtain ⟨field, isField, sameName⟩ := List.mem_map.mp isKnown
    exact isNone_field?_iff.mp isUnknown
      (sameName ▸ List.mem_map_of_mem (List.mem_of_mem_filter isField))
  have sameUnknown :
      unknownEntries schema (completedRow schema purpose row provided) =
        unknownEntries schema row := by
    rw [unknownEntries, completedRow, List.filter_append]
    change unknownEntries schema _ ++
      unknownEntries schema (unknownEntries schema row) = _
    rw [noneUnknown, List.nil_append, unknownEntries, unknownEntries,
      List.filter_filter]
    simp only [Bool.and_self]
  rw [completedRow, sameFields, sameUnknown]
  rfl

/-- Resolving a completed row asks for nothing and changes nothing. -/
theorem resolveRow_completedRow
    {m : Type → Type}
    [Monad m]
    [LawfulMonad m]
    (evaluate : Provider → m Json) :
    resolveRow evaluate schema purpose
        (completedRow schema purpose row provided) =
      pure (completedRow schema purpose row provided) := by
  have distinctRow : (completedRow schema purpose row provided).Distinct :=
    distinct_completedRow distinctNames distinct provided
  rw [resolveRow_eq purpose evaluate distinctNames distinctRow,
    leftOut_completedRow isProvided distinctNames distinct, List.mapM_nil,
    map_pure, completedRow_completedRow distinctNames distinct]

end Completion

/-- What stands in resolved rows under the names that the rows asked for. -/
def filledIn
    (schema : Schema)
    (purpose : WritePurpose)
    (rows resolved : List Document) :
    List (Option Json) :=
  (rows.zip resolved).flatMap fun pair =>
    (leftOut purpose schema.fields pair.1).map fun request =>
      pair.2.get? request.1

section Rows

variable
  (distinctNames : (schema.fields.map Field.name).Nodup)
  {rows : List Document}
  (distinctRows : ∀ row ∈ rows, row.Distinct)
  {provided : List Document}
  (isProvided : List.Forall₂ (ProvidedFor schema purpose) rows provided)

include distinctNames distinctRows isProvided

theorem completes_completedRows :
    List.Forall₂ (Completes schema purpose) rows
      (rows.zipWith (completedRow schema purpose) provided) := by
  induction isProvided with
  | nil =>
      exact .nil
  | cons headProvided _ inductionHypothesis =>
      obtain ⟨distinct, restDistinct⟩ := List.forall_mem_cons.mp distinctRows
      exact .cons (completes_completedRow headProvided distinctNames distinct)
        (inductionHypothesis restDistinct)

theorem filledIn_completedRows :
    filledIn schema purpose rows
        (rows.zipWith (completedRow schema purpose) provided) =
      (Entries.values provided.flatten).map some := by
  induction isProvided with
  | nil =>
      rfl
  | cons headProvided _ inductionHypothesis =>
      obtain ⟨distinct, restDistinct⟩ := List.forall_mem_cons.mp distinctRows
      rw [List.flatten_cons, Entries.values, List.map_append, List.map_append]
      exact congrArg₂ (· ++ ·)
        (values_of_leftOut headProvided distinctNames distinct)
        (inductionHypothesis restDistinct)

/-- Resolving completed rows asks for nothing and changes nothing. -/
theorem resolveRows_completedRows
    {m : Type → Type}
    [Monad m]
    [LawfulMonad m]
    (evaluate : Provider → m Json) :
    resolveRows evaluate schema purpose
        (rows.zipWith (completedRow schema purpose) provided) =
      pure (rows.zipWith (completedRow schema purpose) provided) := by
  induction isProvided with
  | nil =>
      rfl
  | cons headProvided _ inductionHypothesis =>
      obtain ⟨distinct, restDistinct⟩ := List.forall_mem_cons.mp distinctRows
      rw [List.zipWith_cons_cons, resolveRows,
        resolveRow_completedRow headProvided distinctNames distinct,
        inductionHypothesis restDistinct, pure_bind, pure_bind]

end Rows

/-- All that written values ask for, row by row. -/
def requests
    (schema : Schema)
    (purpose : WritePurpose)
    (values : Mutation) :
    List (String × Provider) :=
  values.rows.flatMap (leftOut purpose schema.fields)

section Runs

variable
  {σ : Type}
  (evaluate : Provider → StateM σ Json)

/-- Whatever a provider answers stands under the name that it was asked for. -/
theorem keys_run_answers
    (requests : List (String × Provider))
    (state : σ) :
    Entries.keys ((requests.mapM (answer evaluate)).run state).1 =
      requests.map Prod.fst := by
  induction requests generalizing state with
  | nil =>
      rfl
  | cons request rest inductionHypothesis =>
      rw [List.mapM_cons, StateT.run_bind]
      exact congrArg (request.1 :: ·) (inductionHypothesis _)

theorem providedFor_run_answers
    (schema : Schema)
    (purpose : WritePurpose)
    (rows : List Document)
    (state : σ) :
    List.Forall₂ (ProvidedFor schema purpose) rows
      ((rows.mapM fun row =>
        (leftOut purpose schema.fields row).mapM (answer evaluate)).run
        state).1 := by
  induction rows generalizing state with
  | nil =>
      exact .nil
  | cons row rest inductionHypothesis =>
      rw [List.mapM_cons, StateT.run_bind]
      exact .cons (keys_run_answers evaluate _ state) (inductionHypothesis _)

/--
The answers row by row are the answers to all requests, one after the other.
-/
theorem mapM_requests
    {m : Type → Type}
    [Monad m]
    [LawfulMonad m]
    (evaluate : Provider → m Json)
    (schema : Schema)
    (purpose : WritePurpose)
    (rows : List Document) :
    ((rows.flatMap (leftOut purpose schema.fields)).mapM fun request =>
      evaluate request.2) =
      (fun provided => Entries.values provided.flatten) <$>
        rows.mapM fun row =>
          (leftOut purpose schema.fields row).mapM (answer evaluate) := by
  have withoutNames :
      ∀ requests : List (String × Provider),
        (requests.mapM fun request => evaluate request.2) =
          Entries.values <$> requests.mapM (answer evaluate) := by
    intro requests
    induction requests with
    | nil =>
        simp [Entries.values]
    | cons request rest inductionHypothesis =>
        simp only [List.mapM_cons, answer, inductionHypothesis,
          map_eq_pure_bind, bind_assoc, pure_bind, Entries.values,
          List.map_cons]
  induction rows with
  | nil =>
      simp [Entries.values]
  | cons row rest inductionHypothesis =>
      rw [List.flatMap_cons, List.mapM_append, List.mapM_cons, withoutNames,
        inductionHypothesis]
      simp only [map_eq_pure_bind, bind_assoc, pure_bind, List.flatten_cons,
        Entries.values, List.map_append]

end Runs

/--
A provider answers the number at which a state stands, and
nothing else moves it.
-/
structure Counts
    {σ : Type}
    (evaluate : Provider → StateM σ Json)
    (counter : Provider)
    (number : σ → Int) :
    Prop where
  answers : ∀ state, ((evaluate counter).run state).1 = .ofInt (number state)
  advances : ∀ state, number ((evaluate counter).run state).2 = number state + 1
  alone :
    ∀ provider, provider ≠ counter →
      ∀ state, number ((evaluate provider).run state).2 = number state

/-- The answers of one provider among the answers to requests. -/
def answersOf
    (counter : Provider)
    (requests : List (String × Provider))
    (answers : List Json) :
    List Json :=
  (requests.zip answers).filterMap fun pair =>
    if pair.1.2 = counter then
      some pair.2
    else
      none

/-- Consecutive numbers. -/
def countedFrom
    (first : Int)
    (count : Nat) :
    List Json :=
  (List.range count).map fun (index : Nat) => .ofInt (first + index)

theorem countedFrom_succ
    (first : Int)
    (count : Nat) :
    countedFrom first (count + 1) =
      .ofInt first :: countedFrom (first + 1) count := by
  rw [countedFrom, List.range_succ_eq_map, List.map_cons, List.map_map]
  have shifted :
      (fun (index : Nat) => Json.ofInt (first + index)) ∘ Nat.succ =
        fun (index : Nat) => Json.ofInt (first + 1 + index) := by
    funext index
    rw [Function.comp, Nat.succ_eq_add_one]
    congr 1
    omega
  rw [shifted, Int.natCast_zero, Int.add_zero]
  rfl

/--
A provider that counts answers consecutive numbers, one for
each time it is asked.
-/
theorem Counts.answersOf_run
    {σ : Type}
    {evaluate : Provider → StateM σ Json}
    {counter : Provider}
    {number : σ → Int}
    (counts : Counts evaluate counter number)
    (requests : List (String × Provider))
    (state : σ) :
    answersOf counter requests
        ((requests.mapM fun request => evaluate request.2).run state).1 =
      countedFrom (number state)
        (requests.countP fun request => request.2 = counter) ∧
      number ((requests.mapM fun request => evaluate request.2).run state).2 =
        number state + requests.countP fun request => request.2 = counter := by
  induction requests generalizing state with
  | nil =>
      exact ⟨rfl, (Int.add_zero _).symm⟩
  | cons request rest inductionHypothesis =>
      obtain ⟨consecutive, advanced⟩ :=
        inductionHypothesis ((evaluate request.2).run state).2
      have ran :
          ((request :: rest).mapM fun request => evaluate request.2).run state =
            (((evaluate request.2).run state).1 ::
              ((rest.mapM fun request => evaluate request.2).run
                ((evaluate request.2).run state).2).1,
              ((rest.mapM fun request => evaluate request.2).run
                ((evaluate request.2).run state).2).2) := by
        rw [List.mapM_cons, StateT.run_bind]
        rfl
      rw [ran, answersOf, List.zip_cons_cons, List.filterMap_cons,
        List.countP_cons]
      by_cases isCounter : request.2 = counter
      · rw [isCounter, counts.advances] at consecutive advanced
        simp only [isCounter, decide_true, if_true, counts.answers,
          countedFrom_succ]
        exact ⟨congrArg _ consecutive, by omega⟩
      · rw [counts.alone _ isCounter] at consecutive advanced
        simp only [isCounter, decide_false, if_false]
        exact ⟨consecutive, advanced⟩

/-- The numbers of a sequence are counted. -/
theorem counts_sequence
    (name : String) :
    Counts Supply.evaluate (.sequence name) fun supply =>
      (supply.sequences.get? name).getD 0 where
  answers := fun _ => rfl
  advances := by
    intro supply
    change ((supply.sequences.insert name _).get? name).getD 0 = _
    rw [Entries.get?_insert, if_pos rfl]
    rfl
  alone := by
    intro provider isOther supply
    cases provider with
    | sequence other =>
        have otherName : other ≠ name :=
          fun sameName => isOther (congrArg _ sameName)
        change ((supply.sequences.insert other _).get? name).getD 0 = _
        rw [Entries.get?_insert, if_neg otherName]
    | _ =>
        rfl

/-- Written values completed row by row. -/
def completed
    (schema : Schema)
    (purpose : WritePurpose)
    (provided : List Document) :
    Mutation →
    Mutation
  | .single row => .single (completedRow schema purpose row (provided.headD []))
  | .batch rows => .batch (rows.zipWith (completedRow schema purpose) provided)

section Values

variable
  {values : Mutation}
  {provided : List Document}

theorem rows_completed
    (schema : Schema)
    (purpose : WritePurpose)
    (enough : values.rows.length = provided.length) :
    (values.completed schema purpose provided).rows =
      values.rows.zipWith (completedRow schema purpose) provided := by
  cases values with
  | single row =>
      obtain ⟨alone, rfl⟩ := List.length_eq_one_iff.mp enough.symm
      rfl
  | batch rows =>
      rfl

theorem isBatch_completed :
    (values.completed schema purpose provided).isBatch = values.isBatch := by
  cases values <;> rfl

variable
  (distinctNames : (schema.fields.map Field.name).Nodup)
  (distinctRows : ∀ row ∈ values.rows, row.Distinct)
  {m : Type → Type}
  [Monad m]
  [LawfulMonad m]
  (evaluate : Provider → m Json)

include distinctNames distinctRows

/--
Values are resolved by completing them with one answer to
each of their requests.
-/
theorem resolve_eq
    (purpose : WritePurpose) :
    values.resolve evaluate schema purpose =
      (fun provided => values.completed schema purpose provided) <$>
        values.rows.mapM fun row =>
          (leftOut purpose schema.fields row).mapM (answer evaluate) := by
  cases values with
  | single row =>
      have distinct := distinctRows row List.mem_cons_self
      rw [resolve, resolveRow_eq purpose evaluate distinctNames distinct]
      simp [rows, completed]
  | batch rows =>
      have resolution :=
        resolveRows_eq purpose evaluate distinctNames distinctRows
      rw [Mutation.rows] at resolution
      rw [resolve, resolution]
      simp [Mutation.rows, completed]

theorem resolve_completed
    (isProvided :
      List.Forall₂ (ProvidedFor schema purpose) values.rows provided) :
    (values.completed schema purpose provided).resolve evaluate schema purpose =
      pure (values.completed schema purpose provided) := by
  cases values with
  | single row =>
      cases isProvided with
      | cons isProvided _ =>
          rw [completed, List.headD_cons, resolve,
            resolveRow_completedRow isProvided distinctNames
              (distinctRows row List.mem_cons_self),
            pure_bind]
  | batch rows =>
      have resolution :=
        resolveRows_completedRows distinctNames distinctRows isProvided evaluate
      rw [Mutation.rows] at resolution
      rw [completed, resolve, resolution, pure_bind]

end Values

/--
Resolution is exact and idempotent.

Whatever state the providers work on, the run of a resolution is the run of the
requests: each left-out field that something fills is asked for once, row by row
and within a row in schema order, and nothing else touches the state. The shape
of the values stays, the rows have the names and the values that were given, and
the answers stand, in their order, under the names that were asked for. So what
counts gives consecutive numbers. To resolve the resolved values again asks
nothing and changes nothing, whatever answers.
-/
theorem resolution_exact_idempotent
    (distinctNames : (schema.fields.map Field.name).Nodup)
    (purpose : WritePurpose)
    {values : Mutation}
    (distinctRows : ∀ row ∈ values.rows, row.Distinct)
    {σ : Type}
    (evaluate : Provider → StateM σ Json)
    (before : σ) :
    ∃ resolved answers after,
      (values.resolve evaluate schema purpose).run before = (resolved, after) ∧
        ((values.requests schema purpose).mapM fun request =>
          evaluate request.2).run before =
          (answers, after) ∧
        resolved.isBatch = values.isBatch ∧
        List.Forall₂ (Completes schema purpose) values.rows resolved.rows ∧
        filledIn schema purpose values.rows resolved.rows = answers.map some ∧
        (∀ counter number, Counts evaluate counter number →
          answersOf counter (values.requests schema purpose) answers =
            countedFrom (number before)
              ((values.requests schema purpose).countP fun request =>
                request.2 = counter) ∧
            number after =
              number before +
                (values.requests schema purpose).countP fun request =>
                  request.2 = counter) ∧
        ∀ {m : Type → Type} [Monad m] [LawfulMonad m] (other :
          Provider → m Json),
          resolved.resolve other schema purpose = pure resolved := by
  have isProvided :=
    providedFor_run_answers evaluate schema purpose values.rows before
  have resolution := resolve_eq distinctNames distinctRows evaluate purpose
  have asked := mapM_requests evaluate schema purpose values.rows
  cases ran :
      (values.rows.mapM fun row =>
        (leftOut purpose schema.fields row).mapM (answer evaluate)).run
        before with
  | mk provided after =>
      rw [ran] at isProvided
      have requested :
          ((values.requests schema purpose).mapM fun request =>
            evaluate request.2).run before =
            (Entries.values provided.flatten, after) := by
        rw [requests, asked, StateT.run_map, ran]
        rfl
      have sameRows := rows_completed schema purpose isProvided.length_eq
      refine ⟨values.completed schema purpose provided,
        Entries.values provided.flatten, after, ?_, requested,
        isBatch_completed, ?_, ?_, ?_,
        fun other =>
          resolve_completed distinctNames distinctRows other isProvided⟩
      · rw [resolution, StateT.run_map, ran]
        rfl
      · rw [sameRows]
        exact completes_completedRows distinctNames distinctRows isProvided
      · rw [sameRows]
        exact filledIn_completedRows distinctNames distinctRows isProvided
      · intro counter number counts
        have counted :=
          counts.answersOf_run (values.requests schema purpose) before
        rw [requested] at counted
        exact counted

/--
An entity with two fields that inserts number by one sequence and
one that updates fill.
-/
def numberedSchema : Schema :=
  {
    name := "item"
    storageName := none
    fields :=
      [⟨"id", none, true, some (.sequence "ids"), none⟩,
        ⟨"note", none, false, none, some (.literal (.string "edited"))⟩,
        ⟨"rank", none, false, some (.sequence "ids"), none⟩]
  }

/--
Rows with an unknown name and a null, with nothing, and with a
number of their own.
-/
def numberedRows : Mutation :=
  .batch
    [[("extra", .bool true), ("rank", .null)], [],
      [("rank", .ofInt 1), ("note", .null)]]

/-- A supply whose sequence stands at five. -/
def numberedSupply : Supply :=
  { objectIds := 0, uuids := 0, microseconds := 0, sequences := [("ids", 5)] }

theorem resolution_exact_idempotent_of_batch :
    ∃ resolved answers after,
      (numberedRows.resolve Supply.evaluate numberedSchema .insert).run
        numberedSupply =
          (resolved, after) ∧
        resolved.isBatch = true ∧
        List.Forall₂ (Completes numberedSchema .insert) numberedRows.rows
          resolved.rows ∧
        filledIn numberedSchema .insert numberedRows.rows resolved.rows =
          answers.map some ∧
        answersOf (.sequence "ids")
            (numberedRows.requests numberedSchema .insert) answers =
          [.ofInt 5, .ofInt 6, .ofInt 7, .ofInt 8] ∧
        (after.sequences.get? "ids").getD 0 = 9 ∧
        resolved.resolve Supply.evaluate numberedSchema .insert =
          pure resolved := by
  have distinctNames : (numberedSchema.fields.map Field.name).Nodup := by
    decide
  have distinctRows : ∀ row ∈ numberedRows.rows, row.Distinct := by
    unfold Entries.Distinct
    decide
  obtain ⟨resolved, answers, after, ran, -, sameShape, completes, filled,
      counted, settled⟩ :=
    resolution_exact_idempotent distinctNames .insert distinctRows
      Supply.evaluate numberedSupply
  obtain ⟨consecutive, advanced⟩ := counted _ _ (counts_sequence "ids")
  exact ⟨resolved, answers, after, ran, sameShape, completes, filled,
    consecutive, advanced, settled Supply.evaluate⟩

example :
    ((numberedRows.resolve Supply.evaluate numberedSchema .insert).run
        numberedSupply).1 =
      .batch
        [[("id", .ofInt 5), ("rank", .null), ("extra", .bool true)],
          [("id", .ofInt 6), ("rank", .ofInt 7)],
          [("id", .ofInt 8), ("note", .null), ("rank", .ofInt 1)]] :=
  rfl

end Mutation

end PolyQuery
