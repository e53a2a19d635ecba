import PolyQuery.Document.Compile
import PolyQuery.Proofs.Computation.Except

namespace PolyQuery

open Failing

/-!
# Respelled identifiers

An identifier may be spelled in either case, by itself or under `$oid`. A query
whose identifiers are changed before they are encoded is compiled as the query
is by the codec that makes the change. So the spelling of identifiers does not
reach an operation, wherever in the query they stand.
-/

/-- The codec that changes operands before it encodes them. -/
def IdentifierCodec.after
    (codec : IdentifierCodec)
    (change : Json → Json) :
    IdentifierCodec :=
  { codec with encode := fun operand => codec.encode (change operand) }

namespace DocumentCompiler

variable (change : Json → Json)

/-- A value under a key, changed if it stands for an identifier. -/
def respellValue
    (key : String)
    (value : Json) :
    Json :=
  if key = idKey then
    change value
  else
    value

/--
An operand with its identifiers changed: those of a list, or the
operand if it takes none.
-/
def respellOperand
    (key : String)
    (operator : Operator)
    (operand : Json) :
    Json :=
  match operator, operand with
  | .oneOf, .array items => .array (items.map (respellValue change key))
  | .noneOf, .array items => .array (items.map (respellValue change key))
  | .between, .array items => .array (items.map (respellValue change key))
  | .oneOf, other => other
  | .noneOf, other => other
  | .between, other => other
  | .like, pattern => pattern
  | .likeIgnoringCase, pattern => pattern
  | _, value => respellValue change key value

/--
An operand in a group of alternatives, changed in each that it stands for.
-/
def respellAlternatives
    (key : String)
    (operator : Operator) :
    Json →
    Json
  | .array items =>
      if !operator.takesList || !items.isEmpty && items.all Json.isArray then
        .array (items.map (respellOperand change key operator))
      else
        respellOperand change key operator (.array items)
  | operand => respellOperand change key operator operand

/-- A condition with its operand changed, unless it names no operator. -/
def respellCondition
    (respell : Operator → Json → Json)
    (condition : Condition) :
    Condition :=
  match condition.operator with
  | .ok operator =>
      { condition with operand := respell operator condition.operand }
  | .error _ => condition

/-- What is asked of the field under a key, with its identifiers changed. -/
def respellField
    (key : String) :
    FieldFilter →
    FieldFilter
  | .equals value => .equals (respellValue change key value)
  | .conditions conditions =>
      .conditions
        (conditions.map (respellCondition (respellOperand change key)))

variable (schema : Schema)

/-- A row to store with its identifiers changed. -/
def respellRow
    (row : Document) :
    Document :=
  row.map fun entry =>
    (entry.1, respellValue change (fieldKey schema entry.1) entry.2)

/--
An entry of an update with its identifiers changed: a plain
value, or fields to store.
-/
def respellChange
    (entry : String × Json) :
    String × Json :=
  if Operator.isMarked entry.1 then
    match entry.2 with
    | .object fields =>
        (entry.1,
          .object
            (if storesValues entry.1 then
                respellRow change schema fields
              else
                fields))
    | _ => entry
  else
    (entry.1, respellValue change (fieldKey schema entry.1) entry.2)

/-- A row of a batch with its identifiers changed, its own one first of all. -/
def respellBatchRow
    (key : Field) :
    Document →
    Document
  | [] => []
  | entry :: rest =>
      if entry.1 = key.name then
        (entry.1, change entry.2) :: rest.map (respellChange change schema)
      else
        respellChange change schema entry :: respellBatchRow key rest

/-- The values of a write with their identifiers changed. -/
def respellValues
    (kind : StatementKind)
    (values : Mutation) :
    Mutation :=
  match kind, values with
  | .insert, .single row => .single (respellRow change schema row)
  | .insert, .batch rows => .batch (rows.map (respellRow change schema))
  | .update, .single row => .single (row.map (respellChange change schema))
  | .update, .batch rows =>
      match schema.primaryKey? with
      | some key => .batch (rows.map (respellBatchRow change schema key))
      | none =>
          .batch (rows.map fun row => row.map (respellChange change schema))
  | _, unused => unused

end DocumentCompiler

open DocumentCompiler

namespace Query

/-- A query with every operand changed that stands for an identifier. -/
def respell
    (change : Json → Json)
    (query : Query) :
    Query :=
  { query with
    filter :=
      query.filter.map fun entry =>
        (entry.1, respellField change (fieldKey query.schema entry.1) entry.2)
    alternatives :=
      query.alternatives.map fun entry =>
        let key := fieldKey query.schema entry.1
        (entry.1,
          entry.2.map (respellCondition (respellAlternatives change key)))
    values := query.values.map (respellValues change query.schema query.kind) }

section Fields

variable
  (change : Json → Json)
  (query : Query)

@[simp] theorem schema_respell :
    (query.respell change).schema = query.schema :=
  rfl

@[simp] theorem kind_respell :
    (query.respell change).kind = query.kind :=
  rfl

@[simp] theorem single_respell :
    (query.respell change).single = query.single :=
  rfl

@[simp] theorem upsert_respell :
    (query.respell change).upsert = query.upsert :=
  rfl

@[simp] theorem values_respell :
    (query.respell change).values =
      query.values.map (respellValues change query.schema query.kind) :=
  rfl

@[simp] theorem window_respell :
    window (query.respell change) = window query :=
  rfl

@[simp] theorem rejectRelational_respell :
    rejectRelational (query.respell change) = rejectRelational query :=
  rfl

theorem rows_respell
    (isInsert : query.kind = .insert) :
    (query.respell change).rows =
      query.rows.map (respellRow change query.schema) := by
  unfold rows
  rw [values_respell, isInsert]
  cases query.values with
  | none =>
      rfl
  | some values =>
      cases values <;> rfl

end Fields

end Query

namespace DocumentCompiler

section Filters

variable
  (change : Json → Json)
  (codec : IdentifierCodec)

theorem storedValue_respell
    (key : String)
    (value : Json) :
    storedValue codec key (respellValue change key value) =
      storedValue (codec.after change) key value := by
  unfold storedValue respellValue
  split <;> rfl

theorem mapM_storedValue_respell
    (key : String)
    (items : List Json) :
    (items.map (respellValue change key)).mapM (storedValue codec key) =
      items.mapM (storedValue (codec.after change) key) := by
  rw [List.mapM_map]
  congr 1
  funext item
  exact storedValue_respell change codec key item

theorem lowerOperator_respell
    (field key : String)
    (operator : Operator)
    (operand : Json) :
    lowerOperator codec field key operator
        (respellOperand change key operator operand) =
      lowerOperator (codec.after change) field key operator operand := by
  cases operator with
  | oneOf | noneOf =>
      cases operand with
      | array items =>
          simp only [respellOperand, lowerOperator, mapM_storedValue_respell]
      | _ =>
          rfl
  | like | likeIgnoringCase =>
      cases operand <;> rfl
  | between =>
      cases operand with
      | array items =>
          rcases items with _ | ⟨low, _ | ⟨high, _ | ⟨third, rest⟩⟩⟩
          · rfl
          · rfl
          · simp only [respellOperand, lowerOperator, List.map_cons,
              List.map_nil, storedValue_respell]
          · rfl
      | _ =>
          rfl
  | _ =>
      simp only [respellOperand, lowerOperator, storedValue_respell]

theorem operator_respellCondition
    (respell : Operator → Json → Json)
    (condition : Condition) :
    (respellCondition respell condition).operator = condition.operator := by
  unfold respellCondition
  split <;> rfl

theorem operand_respellCondition
    {condition : Condition}
    {operator : Operator}
    (named : condition.operator = .ok operator)
    (respell : Operator → Json → Json) :
    (respellCondition respell condition).operand =
      respell operator condition.operand := by
  rw [respellCondition, named]

theorem packConditions_respell
    (field key : String)
    (conditions : List Condition)
    (packed : List Document) :
    packConditions codec field key
        (conditions.map (respellCondition (respellOperand change key))) packed =
      packConditions (codec.after change) field key conditions packed := by
  induction conditions generalizing packed with
  | nil =>
      rfl
  | cons condition rest inductionHypothesis =>
      rw [List.map_cons, packConditions, packConditions,
        operator_respellCondition]
      cases named : condition.operator with
      | error cause =>
          rfl
      | ok operator =>
          rw [operand_respellCondition named]
          change (lowerOperator codec field key operator _ >>= _) =
            (lowerOperator _ field key operator condition.operand >>= _)
          rw [lowerOperator_respell]
          simp only [inductionHypothesis]

theorem placeFields_respell
    (schema : Schema)
    (filter : Filter)
    (draft : Draft) :
    placeFields codec schema
        (filter.map fun entry =>
          (entry.1, respellField change (fieldKey schema entry.1) entry.2))
          draft =
      placeFields (codec.after change) schema filter draft := by
  induction filter generalizing draft with
  | nil =>
      rfl
  | cons entry rest inductionHypothesis =>
      obtain ⟨field, asked⟩ := entry
      have placed :
          placeField codec schema draft field
              (respellField change (fieldKey schema field) asked) =
            placeField (codec.after change) schema draft field asked := by
        cases asked with
        | equals value =>
            simp only [respellField, placeField, storedValue_respell]
        | conditions conditions =>
            simp only [respellField, placeField, packConditions_respell]
      simp only [List.map_cons, placeFields, placed, inductionHypothesis]

variable {change}
variable (keepsLists : ∀ value, (change value).isArray = value.isArray)

include keepsLists

theorem isArray_respellValue
    (key : String)
    (value : Json) :
    (respellValue change key value).isArray = value.isArray := by
  unfold respellValue
  split
  · exact keepsLists value
  · rfl

theorem isArray_respellOperand
    (key : String)
    (operator : Operator)
    (operand : Json) :
    (respellOperand change key operator operand).isArray = operand.isArray := by
  unfold respellOperand
  split <;> first | rfl | exact isArray_respellValue keepsLists key _

omit keepsLists in
theorem alternativeOperands_of_not_isArray
    {operand : Json}
    (notList : operand.isArray = false)
    (operator : Operator) :
    Condition.alternativeOperands operator operand = [operand] := by
  cases operand with
  | array items =>
      cases notList
  | _ =>
      rfl

theorem alternativeOperands_respell_array
    {operator : Operator}
    (takes : operator.takesList = true)
    (key : String)
    (items : List Json) :
    Condition.alternativeOperands operator
        (respellAlternatives change key operator (.array items)) =
      (Condition.alternativeOperands operator (.array items)).map
        (respellOperand change key operator) := by
  have whole :
      respellOperand change key operator (.array items) =
        .array (items.map (respellValue change key)) := by
    cases operator <;> first | rfl | cases takes
  have allLists :
      ∀ respell : Json → Json,
        (∀ value, (respell value).isArray = value.isArray) →
        (!(items.map respell).isEmpty && (items.map respell).all Json.isArray) =
          (!items.isEmpty && items.all Json.isArray) := by
    intro respell keeps
    simp [List.all_map, Function.comp_def, keeps]
  have byOperand := allLists _ (isArray_respellOperand keepsLists key operator)
  have byValue := allLists _ (isArray_respellValue keepsLists key)
  simp only [respellAlternatives, Condition.alternativeOperands, takes,
    Bool.not_true, Bool.false_or]
  -- A list of lists is spread into its items, any other one is kept whole.
  cases spread : !items.isEmpty && items.all Json.isArray with
  | true =>
      simp only [Bool.false_eq_true, if_false, if_true, byOperand.trans spread]
  | false =>
      simp only [Bool.false_eq_true, if_false, whole, byValue.trans spread,
        List.map_cons, List.map_nil]

/--
The alternatives of a changed operand are those of the operand,
each of them changed.
-/
theorem alternativeOperands_respell
    (key : String)
    (operator : Operator)
    (operand : Json) :
    Condition.alternativeOperands operator
        (respellAlternatives change key operator operand) =
      (Condition.alternativeOperands operator operand).map
        (respellOperand change key operator) := by
  by_cases isList : operand.isArray = true
  · cases operand with
    | array items =>
        cases takes : operator.takesList with
        | false =>
            simp only [respellAlternatives, Condition.alternativeOperands,
              takes, Bool.not_false, Bool.true_or, if_true]
        | true =>
            exact alternativeOperands_respell_array keepsLists takes key items
    | _ =>
        cases isList
  · have notList : operand.isArray = false := Bool.eq_false_iff.mpr isList
    have respelled :
        respellAlternatives change key operator operand =
          respellOperand change key operator operand := by
      cases operand with
      | array items =>
          cases notList
      | _ =>
          rfl
    have notListToo :=
      (isArray_respellOperand keepsLists key operator operand).trans notList
    rw [respelled, alternativeOperands_of_not_isArray notListToo,
      alternativeOperands_of_not_isArray notList]
    rfl

theorem disjuncts_respell
    (key : String)
    (condition : Condition) :
    (respellCondition (respellAlternatives change key) condition).disjuncts =
      condition.disjuncts.map fun disjuncts =>
        disjuncts.map fun disjunct =>
          (disjunct.1, respellOperand change key disjunct.1 disjunct.2) := by
  unfold Condition.disjuncts
  rw [operator_respellCondition]
  cases named : condition.operator with
  | error cause =>
      rfl
  | ok operator =>
      rw [operand_respellCondition named]
      change Except.ok _ = Except.ok (List.map _ (List.map _ _))
      rw [alternativeOperands_respell keepsLists, List.map_map, List.map_map]
      rfl

theorem groupClauses_respell
    (schema : Schema)
    (field : String)
    (conditions : List Condition) :
    groupClauses codec schema field
        (conditions.map
          (respellCondition
            (respellAlternatives change (fieldKey schema field)))) =
      groupClauses (codec.after change) schema field conditions := by
  simp only [groupClauses, List.mapM_map, Function.comp_def,
    disjuncts_respell keepsLists]
  congr 2
  funext condition
  cases condition.disjuncts with
  | error cause =>
      rfl
  | ok disjuncts =>
      change List.mapM _ (List.map _ disjuncts) = List.mapM _ disjuncts
      simp only [List.mapM_map, Function.comp_def, lowerOperator_respell]

end Filters

section Rows

variable
  (change : Json → Json)
  (codec : IdentifierCodec)
  (schema : Schema)

theorem toStore_respell
    (row : Document) :
    toStore codec schema (respellRow change schema row) =
      toStore (codec.after change) schema row := by
  simp only [toStore, respellRow, List.mapM_map, Function.comp_def,
    storedValue_respell]

theorem mapOperand_respell
    (operator : String)
    (fields : Document) :
    mapOperand codec schema operator
        (if storesValues operator then
            respellRow change schema fields
          else
            fields) =
      mapOperand (codec.after change) schema operator fields := by
  unfold mapOperand
  cases storesValues operator with
  | true =>
      simp only [if_true, respellRow, List.mapM_map, Function.comp_def,
        storedValue_respell]
  | false =>
      rfl

theorem addEntries_respell
    (row : Document)
    (draft : UpdateDraft) :
    addEntries codec schema (row.map (respellChange change schema)) draft =
      addEntries (codec.after change) schema row draft := by
  induction row generalizing draft with
  | nil =>
      rfl
  | cons entry rest inductionHypothesis =>
      obtain ⟨name, value⟩ := entry
      have added :
          addEntry codec schema draft
              (respellChange change schema (name, value)).1
              (respellChange change schema (name, value)).2 =
            addEntry (codec.after change) schema draft name value := by
        unfold respellChange addEntry
        dsimp only
        cases marked : Operator.isMarked name with
        | false =>
            simp only [Bool.false_eq_true, if_false, marked,
              storedValue_respell]
        | true =>
            cases value with
            | object fields =>
                simp only [if_true, marked, mapOperand_respell]
            | _ =>
                simp only [if_true, marked]
      rw [List.map_cons, addEntries, addEntries, added]
      simp only [inductionHypothesis]

theorem updateDocument_respell
    (row : Document) :
    updateDocument codec schema (row.map (respellChange change schema)) =
      updateDocument (codec.after change) schema row := by
  simp only [updateDocument, addEntries_respell]

theorem fst_respellChange
    (entry : String × Json) :
    (respellChange change schema entry).1 = entry.1 := by
  unfold respellChange
  split
  · split <;> rfl
  · rfl

theorem get?_respellBatchRow
    (key : Field)
    (row : Document) :
    (respellBatchRow change schema key row).get? key.name =
      (row.get? key.name).map change := by
  induction row with
  | nil =>
      rfl
  | cons entry rest inductionHypothesis =>
      obtain ⟨name, value⟩ := entry
      by_cases isKey : name = key.name
      · rw [respellBatchRow, if_pos isKey, Entries.get?_cons, if_pos isKey,
          Entries.get?_cons, if_pos isKey]
        rfl
      · have notKey :
            (respellChange change schema (name, value)).1 ≠ key.name := by
          rwa [fst_respellChange]
        rw [respellBatchRow, if_neg isKey, Entries.get?_cons, if_neg notKey,
          Entries.get?_cons, if_neg isKey, inductionHypothesis]

/--
Without its identifier, a changed row of a batch holds changed
entries of an update.
-/
theorem erase_respellBatchRow
    (key : Field)
    (row : Document) :
    (respellBatchRow change schema key row).erase key.name =
      (row.erase key.name).map (respellChange change schema) := by
  induction row with
  | nil =>
      rfl
  | cons entry rest inductionHypothesis =>
      obtain ⟨name, value⟩ := entry
      by_cases isKey : name = key.name
      · rw [respellBatchRow, if_pos isKey, Entries.erase, if_pos isKey,
          Entries.erase, if_pos isKey, List.getLast?_map]
        cases rest.getLast? with
        | none =>
            rfl
        | some last =>
            simp only [Option.map_some, List.map_cons, List.map_dropLast]
      · have notKey :
            (respellChange change schema (name, value)).1 ≠ key.name := by
          rwa [fst_respellChange]
        rw [respellBatchRow, if_neg isKey, Entries.erase, if_neg notKey,
          Entries.erase, if_neg isKey, inductionHypothesis]
        rfl

theorem rowUpdate_respell
    (key : Field)
    (base row : Document) :
    rowUpdate codec schema key base (respellBatchRow change schema key row) =
      rowUpdate (codec.after change) schema key base row := by
  simp only [rowUpdate, get?_respellBatchRow, erase_respellBatchRow,
    updateDocument_respell]
  cases row.get? key.name <;> rfl

end Rows

section Queries

variable
  {change : Json → Json}
  (codec : IdentifierCodec)
  (keepsLists : ∀ value, (change value).isArray = value.isArray)
  (query : Query)

include keepsLists

theorem filterDocument_respell :
    filterDocument codec (query.respell change) =
      filterDocument (codec.after change) query := by
  simp only [filterDocument, Query.respell, placeFields_respell, List.mapM_map,
    Function.comp_def, groupClauses_respell codec keepsLists]

theorem updateOperation_respell
    (isUpdate : query.kind = .update) :
    updateOperation codec (query.respell change) =
      updateOperation (codec.after change) query := by
  simp only [updateOperation, filterDocument_respell codec keepsLists,
    Query.values_respell, Query.schema_respell, Query.single_respell,
    Query.upsert_respell, isUpdate]
  cases query.values with
  | none =>
      rfl
  | some values =>
      cases values with
      | single row =>
          simp only [Option.map_some, respellValues, updateDocument_respell]
      | batch rows =>
          simp only [Option.map_some, respellValues]
          cases query.schema.primaryKey? with
          | none =>
              rfl
          | some key =>
              simp only [List.mapM_map, Function.comp_def, rowUpdate_respell]

/--
A query with changed identifiers is compiled as the query is by the
codec with the change.
-/
theorem compile_respell :
    compile codec (query.respell change) =
      compile (codec.after change) query := by
  simp only [compile, filterDocument_respell codec keepsLists,
    Query.kind_respell, Query.schema_respell, Query.single_respell,
    Query.window_respell, Query.rejectRelational_respell]
  cases isKind : query.kind with
  | select | delete =>
      rfl
  | insert =>
      simp only [Query.rows_respell change query isKind, List.mapM_map,
        Function.comp_def, toStore_respell]
  | update =>
      exact updateOperation_respell codec keepsLists query isKind

theorem compileCount_respell :
    compileCount codec (query.respell change) =
      compileCount (codec.after change) query := by
  unfold compileCount
  rw [filterDocument_respell codec keepsLists]
  rfl

end Queries

end DocumentCompiler

end PolyQuery
