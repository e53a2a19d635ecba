import PolyQuery.Document.Compile
import PolyQuery.Proofs.Computation.Except

namespace PolyQuery

open Failing

/-!
# Checks of a compilation

Compiling a query to a document operation fails at the first of some checks that
fails. A check either encodes an operand that stands for an identifier or
refuses the query whatever the codec. The checks of a query are listed here as
it is compiled: what they are does not depend on the codec, so all that a codec
decides about the failure of a compilation is which operands it accepts.
-/

/--
What is checked of a query: that an operand can be encoded, or
nothing, as it is refused.
-/
inductive Check where
  | identifier (operand : Json)
  | refusal (cause : QueryError)

/-- Make a check with a codec. -/
def Check.run
    (codec : IdentifierCodec) :
    Check →
    Except QueryError Unit
  | .identifier operand => verdict (codec.encode operand)
  | .refusal cause => .error cause

/--
A computation fails as the first of some checks that fails, or else succeeds.
-/
def CheckedBy
    {α : Type}
    (codec : IdentifierCodec)
    (checks : List Check)
    (computation : Except QueryError α) :
    Prop :=
  verdict computation = checks.forM (Check.run codec)

namespace CheckedBy

variable
  {α β : Type}
  {codec : IdentifierCodec}
  {checks later : List Check}

theorem ok
    (value : α) :
    CheckedBy codec [] (.ok value) :=
  rfl

theorem refused
    (cause : QueryError)
    (later : List Check) :
    CheckedBy codec (.refusal cause :: later)
      (.error cause : Except QueryError α) :=
  rfl

theorem encoded
    (codec : IdentifierCodec)
    (operand : Json) :
    CheckedBy codec [.identifier operand] (codec.encode operand) := by
  unfold CheckedBy
  simp only [List.forM_eq_forM, List.forM_cons, List.forM_nil, Check.run]
  cases codec.encode operand <;> rfl

/--
The checks of a sequence are those of its steps, which do not
depend on earlier values.
-/
theorem bind
    {first : Except QueryError α}
    {next : α → Except QueryError β}
    (firstChecked : CheckedBy codec checks first)
    (nextChecked : ∀ value, CheckedBy codec later (next value)) :
    CheckedBy codec (checks ++ later) (first >>= next) := by
  unfold CheckedBy at *
  rw [verdict_bind fun value _ => nextChecked value, firstChecked]
  simp only [List.forM_eq_forM, List.forM_append]

/-- A last step that succeeds in any case has no checks. -/
theorem bind_ok
    {first : Except QueryError α}
    {next : α → Except QueryError β}
    (firstChecked : CheckedBy codec checks first)
    (succeeds : ∀ value, CheckedBy codec [] (next value)) :
    CheckedBy codec checks (first >>= next) := by
  simpa using firstChecked.bind succeeds

theorem bind_pure
    {computation : Except QueryError α}
    (checked : CheckedBy codec checks computation)
    (change : α → β) :
    CheckedBy codec checks (computation >>= fun value => pure (change value)) :=
  checked.bind_ok fun value => .ok (change value)

theorem mapM
    {ι : Type}
    {compute : ι → Except QueryError β}
    {checksOf : ι → List Check}
    (items : List ι)
    (checked : ∀ item, CheckedBy codec (checksOf item) (compute item)) :
    CheckedBy codec (items.flatMap checksOf) (items.mapM compute) := by
  rw [CheckedBy, verdict_mapM, forM_flatMap]
  exact forM_congr_of_mem fun item _ => checked item

/--
An operand that the codec does not accept makes a computation
fail that checks it.
-/
theorem fails
    {computation : Except QueryError α}
    (checked : CheckedBy codec checks computation)
    {operand : Json}
    (member : .identifier operand ∈ checks)
    (notAccepted : ∀ stored, codec.encode operand ≠ .ok stored) :
    ∃ cause, computation = .error cause := by
  cases computed : computation with
  | error cause =>
      exact ⟨cause, rfl⟩
  | ok value =>
      have judgedWell : checks.forM (Check.run codec) = .ok () := by
        rw [← checked, verdict_eq_ok_iff]
        exact ⟨value, computed⟩
      obtain ⟨stored, encoded⟩ :=
        verdict_eq_ok_iff.mp (judged_of_forM_eq_ok judgedWell _ member)
      exact absurd encoded (notAccepted stored)

/--
A computation that succeeds with some codec fails only for an operand's cause.
-/
theorem exists_operand_of_error
    {other : IdentifierCodec}
    {computation computationToo : Except QueryError α}
    (checked : CheckedBy codec checks computation)
    (checkedToo : CheckedBy other checks computationToo)
    {value : α}
    (succeeds : computationToo = .ok value)
    {cause : QueryError}
    (failed : computation = .error cause) :
    ∃ operand,
      .identifier operand ∈ checks ∧ codec.encode operand = .error cause := by
  have judgedWell : checks.forM (Check.run other) = .ok () := by
    rw [← checkedToo, verdict_eq_ok_iff]
    exact ⟨value, succeeds⟩
  have judgedIll : checks.forM (Check.run codec) = .error cause := by
    rw [← checked, verdict_eq_error_iff]
    exact failed
  obtain ⟨check, member, checkFailed⟩ := exists_mem_of_forM_eq_error judgedIll
  cases check with
  | identifier operand =>
      exact ⟨operand, member, verdict_eq_error_iff.mp checkFailed⟩
  | refusal refusedFor =>
      cases judged_of_forM_eq_ok judgedWell _ member

end CheckedBy

namespace DocumentCompiler

/-- A value under a key is checked if it stands for an identifier. -/
def valueChecks
    (key : String)
    (value : Json) :
    List Check :=
  if key = idKey then
    [.identifier value]
  else
    []

theorem storedValue_checkedBy
    (codec : IdentifierCodec)
    (key : String)
    (value : Json) :
    CheckedBy codec (valueChecks key value) (storedValue codec key value) := by
  unfold valueChecks storedValue
  split
  · exact .encoded codec value
  · exact .ok value

/--
The checks of an operand: what it consists of, after a refusal if
it has another form.
-/
def operandChecks
    (field : String)
    (key : String)
    (operator : Operator)
    (operand : Json) :
    List Check :=
  let refused :=
    fun reason => Check.refusal (.invalidOperand field operator.tag reason)
  match operator, operand with
  | .oneOf, .array items => items.flatMap (valueChecks key)
  | .noneOf, .array items => items.flatMap (valueChecks key)
  | .oneOf, _ => [refused "expected a list"]
  | .noneOf, _ => [refused "expected a list"]
  | .like, .string _ => []
  | .likeIgnoringCase, .string _ => []
  | .like, _ => [refused "expected a string pattern"]
  | .likeIgnoringCase, _ => [refused "expected a string pattern"]
  | .between, .array [low, high] => valueChecks key low ++ valueChecks key high
  | .between, .array items =>
      refused "expected [low, high]" :: items.flatMap (valueChecks key)
  | .between, _ => [refused "expected [low, high]"]
  | _, value => valueChecks key value

theorem lowerOperator_checkedBy
    (codec : IdentifierCodec)
    (field key : String)
    (operator : Operator)
    (operand : Json) :
    CheckedBy codec (operandChecks field key operator operand)
      (lowerOperator codec field key operator operand) := by
  have stored := storedValue_checkedBy codec key
  cases operator with
  | oneOf | noneOf =>
      cases operand with
      | array items =>
          exact (CheckedBy.mapM items stored).bind_pure _
      | _ =>
          exact .refused _ []
  | like | likeIgnoringCase =>
      cases operand with
      | string pattern =>
          exact .ok _
      | _ =>
          exact .refused _ []
  | between =>
      cases operand with
      | array items =>
          rcases items with _ | ⟨low, _ | ⟨high, _ | ⟨third, rest⟩⟩⟩
          · exact .refused _ _
          · exact .refused _ _
          · exact (stored low).bind fun _ => (stored high).bind_pure _
          · exact .refused _ _
      | _ =>
          exact .refused _ []
  | _ =>
      exact (stored operand).bind_pure _

section Filters

variable
  (codec : IdentifierCodec)
  (schema : Schema)

/-- The checks of a condition on a field. -/
def conditionChecks
    (field : String)
    (condition : Condition) :
    List Check :=
  match condition.operator with
  | .ok operator =>
      operandChecks field (fieldKey schema field) operator condition.operand
  | .error cause => [.refusal cause]

theorem packConditions_checkedBy
    (field : String)
    (conditions : List Condition)
    (packed : List Document) :
    CheckedBy codec (conditions.flatMap (conditionChecks schema field))
      (packConditions codec field (fieldKey schema field) conditions
        packed) := by
  induction conditions generalizing packed with
  | nil =>
      exact .ok packed
  | cons condition rest inductionHypothesis =>
      rw [List.flatMap_cons, conditionChecks, packConditions]
      cases condition.operator with
      | error cause =>
          exact .refused cause _
      | ok operator =>
          have lowered :=
            lowerOperator_checkedBy codec field (fieldKey schema field) operator
              condition.operand
          exact lowered.bind fun fragment =>
            inductionHypothesis (packInto fragment packed)

/--
The checks of what is asked of a field, a bare value being checked as it is.
-/
def fieldChecks
    (field : String) :
    FieldFilter →
    List Check
  | .equals value => valueChecks (fieldKey schema field) value
  | .conditions conditions => conditions.flatMap (conditionChecks schema field)

theorem placeFields_checkedBy
    (filter : Filter)
    (draft : Draft) :
    CheckedBy codec
      (filter.flatMap fun entry => fieldChecks schema entry.1 entry.2)
      (placeFields codec schema filter draft) := by
  induction filter generalizing draft with
  | nil =>
      exact .ok draft
  | cons entry rest inductionHypothesis =>
      obtain ⟨field, asked⟩ := entry
      have placed :
          CheckedBy codec (fieldChecks schema field asked)
            (placeField codec schema draft field asked) := by
        cases asked with
        | equals value =>
            exact (storedValue_checkedBy codec _ value).bind_pure _
        | conditions conditions =>
            exact (packConditions_checkedBy codec schema field conditions
              []).bind_pure _
      exact placed.bind inductionHypothesis

/--
The checks of a condition in a group of alternatives: those of
each that it stands for.
-/
def alternativeChecks
    (field : String)
    (condition : Condition) :
    List Check :=
  match condition.disjuncts with
  | .ok disjuncts =>
      disjuncts.flatMap fun disjunct =>
        operandChecks field (fieldKey schema field) disjunct.1 disjunct.2
  | .error cause => [.refusal cause]

theorem groupClauses_checkedBy
    (field : String)
    (conditions : List Condition) :
    CheckedBy codec (conditions.flatMap (alternativeChecks schema field))
      (groupClauses codec schema field conditions) := by
  refine (CheckedBy.mapM conditions fun condition => ?_).bind_pure _
  unfold alternativeChecks
  cases condition.disjuncts with
  | error cause =>
      exact .refused cause []
  | ok disjuncts =>
      refine CheckedBy.mapM disjuncts fun disjunct => ?_
      exact (lowerOperator_checkedBy codec field _ disjunct.1
        disjunct.2).bind_pure _

/-- The checks of a filter and of the groups of alternatives beside it. -/
def filterChecks
    (query : Query) :
    List Check :=
  (query.filter.flatMap fun entry =>
    fieldChecks query.schema entry.1 entry.2) ++
    query.alternatives.flatMap fun entry =>
      entry.2.flatMap (alternativeChecks query.schema entry.1)

theorem filterDocument_checkedBy
    (query : Query) :
    CheckedBy codec (filterChecks query) (filterDocument codec query) := by
  refine (placeFields_checkedBy codec query.schema query.filter {}).bind
    fun placed => ?_
  refine (CheckedBy.mapM query.alternatives fun entry => ?_).bind_pure _
  exact groupClauses_checkedBy codec query.schema entry.1 entry.2

end Filters

section Rows

variable
  (codec : IdentifierCodec)
  (schema : Schema)

/-- The checks of fields with values to store. -/
def rowChecks
    (row : Document) :
    List Check :=
  row.flatMap fun entry => valueChecks (fieldKey schema entry.1) entry.2

theorem toStore_checkedBy
    (row : Document) :
    CheckedBy codec (rowChecks schema row) (toStore codec schema row) := by
  refine (CheckedBy.mapM row fun entry => ?_).bind_pure _
  exact (storedValue_checkedBy codec _ entry.2).bind_pure _

/--
The checks of an entry of an update: a plain value, or the
fields of an operator.
-/
def changeChecks
    (entry : String × Json) :
    List Check :=
  if Operator.isMarked entry.1 then
    if updateOperators.contains entry.1 then
      match entry.2 with
      | .object fields =>
          if storesValues entry.1 then rowChecks schema fields else []
      | _ =>
          [.refusal
            (.invalidOperand entry.1 entry.1 "expected a document of fields")]
    else
      [.refusal (.invalidFilterOperator entry.1)]
  else
    valueChecks (fieldKey schema entry.1) entry.2

theorem mapOperand_checkedBy
    (operator : String)
    (fields : Document) :
    CheckedBy codec
      (if storesValues operator then rowChecks schema fields else [])
      (mapOperand codec schema operator fields) := by
  unfold mapOperand
  cases storesValues operator with
  | true =>
      exact toStore_checkedBy codec schema fields
  | false =>
      have unchecked : (fields.flatMap fun _ => ([] : List Check)) = [] :=
        List.flatMap_eq_nil_iff.mpr fun _ _ => rfl
      rw [if_neg Bool.false_ne_true, ← unchecked]
      exact (CheckedBy.mapM fields fun entry => .ok _).bind_pure _

theorem addEntries_checkedBy
    (row : Document)
    (draft : UpdateDraft) :
    CheckedBy codec (row.flatMap (changeChecks schema))
      (addEntries codec schema row draft) := by
  induction row generalizing draft with
  | nil =>
      exact .ok draft
  | cons entry rest inductionHypothesis =>
      obtain ⟨name, value⟩ := entry
      have added :
          CheckedBy codec (changeChecks schema (name, value))
            (addEntry codec schema draft name value) := by
        unfold changeChecks addEntry
        dsimp only
        cases Operator.isMarked name with
        | false =>
            exact (storedValue_checkedBy codec _ value).bind_pure _
        | true =>
            cases updateOperators.contains name with
            | false =>
                exact .refused _ []
            | true =>
                cases value with
                | object fields =>
                    exact (mapOperand_checkedBy codec schema name
                      fields).bind_pure _
                | _ =>
                    exact .refused _ []
      exact added.bind inductionHypothesis

theorem updateDocument_checkedBy
    (row : Document) :
    CheckedBy codec (row.flatMap (changeChecks schema))
      (updateDocument codec schema row) := by
  refine (addEntries_checkedBy codec schema row {}).bind_ok fun draft => ?_
  split
  · exact .ok _
  · exact .ok _

/-- The checks of a row of a batch: its identifier, and what else is changed. -/
def batchRowChecks
    (key : Field)
    (row : Document) :
    List Check :=
  match row.get? key.name with
  | some identifier =>
      .identifier identifier ::
        (row.erase key.name).flatMap (changeChecks schema)
  | none =>
      .refusal
          (.invalidOperand key.name "update"
            "every batch row needs its identifier") ::
        row.flatMap (changeChecks schema)

theorem rowUpdate_checkedBy
    (key : Field)
    (base row : Document) :
    CheckedBy codec (batchRowChecks schema key row)
      (rowUpdate codec schema key base row) := by
  unfold batchRowChecks rowUpdate
  cases row.get? key.name with
  | none =>
      exact .refused _ _
  | some identifier =>
      have encoded := CheckedBy.encoded codec identifier
      exact encoded.bind fun stored =>
        (updateDocument_checkedBy codec schema _).bind_pure _

end Rows

section Queries

/-- The checks of an update, those of its filter first. -/
def updateChecks
    (query : Query) :
    List Check :=
  let schema := query.schema
  match query.values with
  | some (.single row) =>
      filterChecks query ++ row.flatMap (changeChecks schema)
  | some (.batch rows) =>
      match schema.primaryKey? with
      | some key =>
          filterChecks query ++ rows.flatMap (batchRowChecks schema key)
      | none =>
          .refusal (.invalidOperand schema.name "update"
              "batch update needs an identifier field") ::
            (filterChecks query ++ rows.flatMap fun row =>
              row.flatMap (changeChecks schema))
  | none =>
      .refusal (.invalidOperand schema.name "update" "no values to assign") ::
        filterChecks query

theorem updateOperation_checkedBy
    (codec : IdentifierCodec)
    (query : Query) :
    CheckedBy codec (updateChecks query) (updateOperation codec query) := by
  have filtered := filterDocument_checkedBy codec query
  unfold updateChecks updateOperation
  dsimp only
  cases query.values with
  | none =>
      exact .refused _ _
  | some values =>
      cases values with
      | single row =>
          refine filtered.bind fun filter => ?_
          exact (updateDocument_checkedBy codec query.schema row).bind_pure _
      | batch rows =>
          dsimp only
          cases query.schema.primaryKey? with
          | none =>
              exact .refused _ _
          | some key =>
              refine filtered.bind fun base => ?_
              refine (CheckedBy.mapM rows fun row => ?_).bind_pure _
              exact rowUpdate_checkedBy codec query.schema key base row

/--
The check that a query has no clause that only the relational backend has.
-/
def clauseChecks
    (query : Query) :
    List Check :=
  match rejectRelational query with
  | .ok () => []
  | .error cause => [.refusal cause]

theorem rejectRelational_checkedBy
    (codec : IdentifierCodec)
    (query : Query) :
    CheckedBy codec (clauseChecks query) (rejectRelational query) := by
  unfold clauseChecks
  cases rejectRelational query with
  | error cause =>
      exact .refused cause []
  | ok =>
      exact .ok ()

/--
The checks of a query: the filter of all but an insert, the values of a write.
-/
def checks
    (query : Query) :
    List Check :=
  match query.kind with
  | .select => clauseChecks query ++ filterChecks query
  | .insert => query.rows.flatMap (rowChecks query.schema)
  | .update => updateChecks query
  | .delete => filterChecks query

/-- Compiling a query fails as the first of its checks that fails. -/
theorem compile_checkedBy
    (codec : IdentifierCodec)
    (query : Query) :
    CheckedBy codec (checks query) (compile codec query) := by
  have filtered := filterDocument_checkedBy codec query
  unfold checks compile
  dsimp only
  cases query.kind with
  | select =>
      exact (rejectRelational_checkedBy codec query).bind fun _ =>
        filtered.bind_pure _
  | insert =>
      refine (CheckedBy.mapM query.rows fun row => ?_).bind_pure _
      exact toStore_checkedBy codec query.schema row
  | update =>
      exact updateOperation_checkedBy codec query
  | delete =>
      exact filtered.bind_pure _

/-- Whatever a query is for, counting its rows checks what a select would. -/
theorem compileCount_checkedBy
    (codec : IdentifierCodec)
    (query : Query) :
    CheckedBy codec (clauseChecks query ++ filterChecks query)
      (compileCount codec query) :=
  (rejectRelational_checkedBy codec query).bind fun _ =>
    (filterDocument_checkedBy codec query).bind_pure _

end Queries

end DocumentCompiler

end PolyQuery
