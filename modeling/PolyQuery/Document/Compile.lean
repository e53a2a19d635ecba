import PolyQuery.Document.Collection
import PolyQuery.Document.Operation
import PolyQuery.Query.Basic
import PolyQuery.Regex.Reader

namespace PolyQuery

/-!
# Queries as document operations

Field names become storage keys, the identifier field is stored under `_id` and
goes through a codec, and names that the schema does not know pass unchanged.

A filter document holds one entry for each key; what meets a key that is taken
already goes into a list of clauses under `$and`.
-/

namespace DocumentCompiler

/-- The operators that may stand at the top of an update document. -/
def updateOperators : List String :=
  ["$set", "$unset", "$inc", "$mul", "$rename", "$min", "$max", "$currentDate",
    "$push", "$pull", "$pullAll", "$addToSet", "$pop", "$setOnInsert"]

/-- The operators whose fields carry values to store. -/
def storesValues
    (operator : String) :
    Bool :=
  operator = "$set" || operator = "$setOnInsert"

/-- The storage key of a field. -/
def fieldKey
    (schema : Schema)
    (name : String) :
    String :=
  if name = idKey then
    idKey
  else
    match schema.field? name with
    | some field => if field.primary then idKey else field.storage
    | none => name

/-- The storage key of a target. -/
def targetKey
    (schema : Schema) :
    Target →
    String
  | .field name => fieldKey schema name
  | .raw expression => expression

/-- A value as it is stored under a key. -/
def storedValue
    (codec : IdentifierCodec)
    (key : String)
    (value : Json) :
    Except QueryError Json :=
  if key = idKey then
    codec.encode value
  else
    .ok value

/--
The pattern of regular expressions that a pattern with wildcards stands for.
-/
def likeToRegex
    (pattern : String) :
    String :=
  let part := fun character =>
    if character = '%' then
      ['.', '*']
    else if character = '_' then
      ['.']
    else
      Regex.escape [character]
  String.ofList (['^'] ++ pattern.toList.flatMap part ++ ['$'])

/-- The operators of the document dialect for one condition, in order. -/
def lowerOperator
    (codec : IdentifierCodec)
    (field : String)
    (key : String)
    (operator : Operator)
    (value : Json) :
    Except QueryError (List (String × Json)) := do
  let invalid :=
    fun reason => QueryError.invalidOperand field operator.tag reason
  let marked := "$" ++ operator.tag
  let membership :=
    match value with
    | .array items => do
        let encoded ← items.mapM (storedValue codec key)
        return [(marked, .array encoded)]
    | _ => throw (invalid "expected a list")
  match operator with
  | .oneOf => membership
  | .noneOf => membership
  | .like =>
      match value with
      | .string pattern => return [("$regex", .string (likeToRegex pattern))]
      | _ => throw (invalid "expected a string pattern")
  | .likeIgnoringCase =>
      match value with
      | .string pattern =>
          return [("$regex", .string (likeToRegex pattern)),
            ("$options", .string "i")]
      | _ => throw (invalid "expected a string pattern")
  | .between =>
      match value with
      | .array [low, high] =>
          let low ← storedValue codec key low
          let high ← storedValue codec key high
          return [("$gte", low), ("$lte", high)]
      | _ => throw (invalid "expected [low, high]")
  | _ =>
      let encoded ← storedValue codec key value
      return [(marked, encoded)]

/-- A filter document under way, and the clauses that go under `$and`. -/
structure Draft where
  document : Document := []
  clauses : List Json := []

/-- Put a condition under a key, or among the clauses if the key is taken. -/
def Draft.place
    (draft : Draft)
    (key : String)
    (condition : Json) :
    Draft :=
  if draft.document.contains key then
    { draft with clauses := draft.clauses ++ [.object [(key, condition)]] }
  else
    { draft with document := draft.document.insert key condition }

/--
Add the operators of a condition to the first operator document
that has none of them.
-/
def packInto
    (fragment : List (String × Json)) :
    List Document →
    List Document
  | [] => [Entries.ofList fragment]
  | packed :: rest =>
      if fragment.all fun entry => !packed.contains entry.1 then
        packed.insertAll fragment :: rest
      else
        packed :: packInto fragment rest

/--
The operator documents of the conditions of a field; a repeated
operator opens the next one.
-/
def packConditions
    (codec : IdentifierCodec)
    (field : String)
    (key : String) :
    List Condition →
    List Document →
    Except QueryError (List Document)
  | [], packed => .ok packed
  | condition :: rest, packed => do
      let operator ← condition.operator
      let fragment ← lowerOperator codec field key operator condition.operand
      packConditions codec field key rest (packInto fragment packed)

/-- Put what is asked of a field into a draft. -/
def placeField
    (codec : IdentifierCodec)
    (schema : Schema)
    (draft : Draft)
    (field : String) :
    FieldFilter →
    Except QueryError Draft
  | .equals value => do
      let key := fieldKey schema field
      let stored ← storedValue codec key value
      return draft.place key stored
  | .conditions conditions => do
      let key := fieldKey schema field
      let packed ← packConditions codec field key conditions []
      return packed.foldl
        (fun draft operators => draft.place key (.object operators)) draft

/-- Put what is asked of every field into a draft. -/
def placeFields
    (codec : IdentifierCodec)
    (schema : Schema) :
    List (String × FieldFilter) →
    Draft →
    Except QueryError Draft
  | [], draft => .ok draft
  | (field, asked) :: rest, draft => do
      let placed ← placeField codec schema draft field asked
      placeFields codec schema rest placed

/-- The alternatives of one field as clauses. -/
def groupClauses
    (codec : IdentifierCodec)
    (schema : Schema)
    (field : String)
    (conditions : List Condition) :
    Except QueryError (List Json) := do
  let key := fieldKey schema field
  let clauses ← conditions.mapM fun condition => do
    let disjuncts ← condition.disjuncts
    disjuncts.mapM fun disjunct => do
      let fragment ← lowerOperator codec field key disjunct.1 disjunct.2
      return Json.object [(key, .object (Entries.ofList fragment))]
  return clauses.flatten

/--
Put groups of alternatives into a draft: a single one under
`$or`, if that is free.
-/
def Draft.placeGroups
    (draft : Draft)
    (groups : List (List Json)) :
    Draft :=
  let asClauses :=
    { draft with
      clauses :=
        draft.clauses ++ groups.map fun group =>
          .object [("$or", .array group)] }
  match groups with
  | [] => draft
  | [group] =>
      if draft.document.contains "$or" then
        asClauses
      else
        { draft with document := draft.document.insert "$or" (.array group) }
  | _ => asClauses

/--
The document of a draft, its clauses joined to those that `$and` has already.
-/
def Draft.finish
    (draft : Draft) :
    Document :=
  if draft.clauses.isEmpty then
    draft.document
  else
    match draft.document.get? "$and" with
    | some (.array present) =>
        draft.document.insert "$and" (.array (present ++ draft.clauses))
    | _ => draft.document.insert "$and" (.array draft.clauses)

/-- The filter document of a query. -/
def filterDocument
    (codec : IdentifierCodec)
    (query : Query) :
    Except QueryError Document := do
  let placed ← placeFields codec query.schema query.filter {}
  let groups ← query.alternatives.mapM fun entry =>
    groupClauses codec query.schema entry.1 entry.2
  return (placed.placeGroups (groups.filter fun group => !group.isEmpty)).finish

/-- The operand of an update operator with fields as storage keys. -/
def mapOperand
    (codec : IdentifierCodec)
    (schema : Schema)
    (operator : String)
    (fields : Document) :
    Except QueryError Document := do
  let mapped ← fields.mapM fun entry => do
    let key := fieldKey schema entry.1
    let value ←
      if storesValues operator then
        storedValue codec key entry.2
      else
        pure entry.2
    return (key, value)
  return Entries.ofList mapped

/--
An update document under way: its operators, and the plain values to be set.
-/
structure UpdateDraft where
  operators : Document := []
  plain : Document := []

/-- Add one entry of a row to an update document. -/
def addEntry
    (codec : IdentifierCodec)
    (schema : Schema)
    (draft : UpdateDraft)
    (name : String)
    (value : Json) :
    Except QueryError UpdateDraft := do
  if Operator.isMarked name then
    if !updateOperators.contains name then
      throw (.invalidFilterOperator name)
    match value with
    | .object fields =>
        let mapped ← mapOperand codec schema name fields
        return { draft with
          operators := draft.operators.insert name (.object mapped) }
    | _ => throw (.invalidOperand name name "expected a document of fields")
  else
    let key := fieldKey schema name
    let stored ← storedValue codec key value
    return { draft with plain := draft.plain.insert key stored }

/-- Add the entries of a row to an update document. -/
def addEntries
    (codec : IdentifierCodec)
    (schema : Schema) :
    List (String × Json) →
    UpdateDraft →
    Except QueryError UpdateDraft
  | [], draft => .ok draft
  | (name, value) :: rest, draft => do
      let extended ← addEntry codec schema draft name value
      addEntries codec schema rest extended

/--
The update document of a row.

Plain values are set, unless the row sets the field explicitly.
-/
def updateDocument
    (codec : IdentifierCodec)
    (schema : Schema)
    (row : Document) :
    Except QueryError Document := do
  let draft ← addEntries codec schema row {}
  if draft.plain.isEmpty then
    return draft.operators
  else
    let explicit := Path.membersOf (draft.operators.get? "$set")
    let completed :=
      draft.plain.foldl
        (fun values entry => Entries.insertIfAbsent values entry.1 entry.2)
        explicit
    return draft.operators.insert "$set" (.object completed)

/-- The stored form of a row. -/
def toStore
    (codec : IdentifierCodec)
    (schema : Schema)
    (row : Document) :
    Except QueryError Document := do
  let stored ← row.mapM fun entry => do
    let key := fieldKey schema entry.1
    let value ← storedValue codec key entry.2
    return (key, value)
  return Entries.ofList stored

/-- The caller's name for a storage key. -/
def fieldName
    (schema : Schema)
    (key : String) :
    String :=
  if key = idKey then
    (schema.primaryKey?.map Field.name).getD idKey
  else
    ((schema.fieldForStorage? key).map Field.name).getD key

/-- The caller's form of a stored document. -/
def fromStore
    (codec : IdentifierCodec)
    (schema : Schema)
    (document : Document) :
    Document :=
  Entries.ofList (document.map fun entry =>
    (fieldName schema entry.1,
      if entry.1 = idKey then codec.decode entry.2 else entry.2))

/-- Refuse the clauses that only the relational backend has. -/
def rejectRelational
    (query : Query) :
    Except QueryError Unit :=
  if !query.groups.isEmpty then
    .error (.unsupportedClause "group_by")
  else if !query.having.isEmpty then
    .error (.unsupportedClause "having")
  else if query.distinct ≠ .none then
    .error (.unsupportedClause "distinct")
  else
    .ok ()

/-- A mapping of the targets of some terms, absent if there are none. -/
def targetMapping?
    (pairs : List (String × Json)) :
    Option Document :=
  if pairs.isEmpty then
    none
  else
    some (Entries.ofList pairs)

/-- What a find asks for besides its filter. -/
def window
    (query : Query) :
    Window :=
  let schema := query.schema
  let direction := fun term =>
    match OrderTerm.direction term with
    | .ascending => Json.ofInt 1
    | .descending => Json.ofInt (-1)
  {
    projection :=
      targetMapping? (query.projection.map fun target =>
        (targetKey schema target, .ofInt 1))
    sort :=
      targetMapping? (query.order.map fun term =>
        (targetKey schema term.target, direction term))
    skip := query.offset
    limit := query.rowLimit
  }

/--
The update of the row of a batch, restricted by the filter of the whole query.
-/
def rowUpdate
    (codec : IdentifierCodec)
    (schema : Schema)
    (key : Field)
    (base : Document)
    (row : Document) :
    Except QueryError FilteredUpdate := do
  match row.get? key.name with
  | none =>
      throw (.invalidOperand key.name "update"
        "every batch row needs its identifier")
  | some identifier =>
      let encoded ← codec.encode identifier
      let byId : Document := [(idKey, encoded)]
      let update ← updateDocument codec schema (row.erase key.name)
      return {
        filter :=
          if base.isEmpty then
            byId
          else
            [("$and", .array [.object base, .object byId])]
        update := update
      }

/-- The operation of an update query. -/
def updateOperation
    (codec : IdentifierCodec)
    (query : Query) :
    Except QueryError DocumentOperation := do
  let schema := query.schema
  match query.values with
  | none => throw (.invalidOperand schema.name "update" "no values to assign")
  | some (.batch rows) =>
      match schema.primaryKey? with
      | none =>
          throw (.invalidOperand schema.name "update"
            "batch update needs an identifier field")
      | some key =>
          let base ← filterDocument codec query
          let updates ← rows.mapM (rowUpdate codec schema key base)
          return .bulkUpdate schema.storage updates query.upsert
  | some (.single row) =>
      let filter ← filterDocument codec query
      let update ← updateDocument codec schema row
      return .update schema.storage filter update (!query.single) query.upsert

/-- The operation of a query. -/
def compile
    (codec : IdentifierCodec)
    (query : Query) :
    Except QueryError DocumentOperation := do
  let schema := query.schema
  match query.kind with
  | .select =>
      rejectRelational query
      let filter ← filterDocument codec query
      return .find schema.storage filter (window query)
  | .insert =>
      let documents ← query.rows.mapM (toStore codec schema)
      return .insert schema.storage documents
  | .update => updateOperation codec query
  | .delete =>
      let filter ← filterDocument codec query
      return .delete schema.storage filter (!query.single)

/-- The operation that counts the rows of a query. -/
def compileCount
    (codec : IdentifierCodec)
    (query : Query) :
    Except QueryError DocumentOperation := do
  rejectRelational query
  let filter ← filterDocument codec query
  return .count query.schema.storage filter

end DocumentCompiler

end PolyQuery
