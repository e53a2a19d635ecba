import PolyQuery.Proofs.Document.AlikeFilters
import PolyQuery.Proofs.Document.EqualRows
import PolyQuery.Proofs.Document.NestedValues
import PolyQuery.Proofs.Document.WrittenPaths

namespace PolyQuery

open Failing Matching

/-!
# Bare values

A field that is asked for a bare value is asked to equal it, as by the operator
of equality, unless the value reads as part of the filter document where it is
put: as operators, or as clauses if the key is a connective. Such a value is
misread. No operator document means equality, so for each there is a store
from which the two ways of asking fetch different rows. A field that something
is asked of already is safe: a further bare value joins the conditions there
with the operator of equality.
-/

namespace DocumentCompiler

/-- Whether a value is a list of objects. -/
def isClauseList : Json → Bool
  | .array clauses => clauses.all Json.isObject
  | _ => false

/--
Whether a value under a key reads as part of a filter document: as
operators or as clauses.
-/
def readsAsFilter
    (key : String)
    (value : Json) :
    Bool :=
  if Operator.isMarked key then
    (Connective.ofKey? key).isSome && isClauseList value
  else
    isOperatorDocument value

/--
A bare value of a field reads as part of a filter document, and
is not an identifier.
-/
def Misread
    (schema : Schema)
    (field : String)
    (value : Json) :
    Prop :=
  fieldKey schema field ≠ idKey ∧
    readsAsFilter (fieldKey schema field) value = true

/-- The operator of equality asks for equality, whatever its operand. -/
theorem conditionHolds_equality
    (actual : Option Json)
    (operand : Json) :
    conditionHolds actual (.object [("$eq", operand)]) =
      .ok (equals actual operand) := by
  rw [conditionHolds_single (by decide) (by decide)]
  rfl

/--
A value that does not read as part of a filter document is
asked for as by `$eq`.
-/
theorem entryAlike_equality
    {key : String}
    {value : Json}
    (plain : readsAsFilter key value = false) :
    EntryAlike (key, value) (key, .object [("$eq", value)]) := by
  refine ⟨rfl, fun document => ?_⟩
  unfold readsAsFilter at plain
  cases marked : Operator.isMarked key with
  | false =>
      rw [if_neg (by simp [marked])] at plain
      rw [entryHolds_path marked, entryHolds_path marked,
        conditionHolds_of_plain plain, conditionHolds_equality]
  | true =>
      rw [if_pos marked] at plain
      cases isConnective : Connective.ofKey? key with
      | none =>
          cases value <;> simp [entryHolds, isConnective, marked]
      | some connective =>
          cases value with
          | array clauses =>
              have notObjects : clauses.all Json.isObject = false := by
                simpa [isConnective, isClauseList] using plain
              simp [entryHolds, isConnective, notObjects]
          | _ =>
              simp [entryHolds, isConnective]

variable
  {schema : Schema}
  {field : String}
  {value stored : Json}

/--
The stored form of a value that is not misread does not read as part
of a filter document.
-/
theorem readsAsFilter_stored
    (plain : ¬Misread schema field value)
    (encoded :
      storedValue ObjectId.codec (fieldKey schema field) value = .ok stored) :
    readsAsFilter (fieldKey schema field) stored = false := by
  unfold storedValue at encoded
  by_cases isIdKey : fieldKey schema field = idKey
  · rw [if_pos isIdKey] at encoded
    rw [isIdKey]
    exact ObjectId.isOperatorDocument_encode encoded
  · rw [if_neg isIdKey] at encoded
    cases encoded
    exact Bool.eq_false_iff.mpr fun reads => plain ⟨isIdKey, reads⟩

theorem placeField_equals
    (codec : IdentifierCodec)
    (draft : Draft) :
    placeField codec schema draft field (.equals value) =
      (storedValue codec (fieldKey schema field) value).map
        fun stored => draft.place (fieldKey schema field) stored := by
  rw [placeField]
  cases storedValue codec (fieldKey schema field) value <;> rfl

theorem placeField_tagged
    (codec : IdentifierCodec)
    (draft : Draft) :
    placeField codec schema draft field (.conditions [⟨"eq", value⟩]) =
      (storedValue codec (fieldKey schema field) value).map
        fun stored =>
          draft.place (fieldKey schema field) (.object [("$eq", stored)]) := by
  have named : Condition.operator ⟨"eq", value⟩ = .ok .equal :=
    Operator.ofTag_tag .equal
  simp only [placeField, packConditions, named, lowerOperator]
  cases storedValue codec (fieldKey schema field) value <;> rfl

theorem placeFields_append
    (codec : IdentifierCodec)
    (schema : Schema)
    (first second : List (String × FieldFilter))
    (draft : Draft) :
    placeFields codec schema (first ++ second) draft =
      placeFields codec schema first draft >>=
        placeFields codec schema second := by
  induction first generalizing draft with
  | nil =>
      rfl
  | cons entry rest inductionHypothesis =>
      rw [List.cons_append, placeFields, placeFields]
      cases placeField codec schema draft entry.1 entry.2 with
      | error cause =>
          rfl
      | ok placed =>
          exact inductionHypothesis placed

/-- Filter documents that hold of the same documents. -/
def SameMatches
    (filter other : Document) :
    Prop :=
  ∀ document : Document, document.matches filter = document.matches other

theorem placeFields_bare_alike
    (earlier : Filter)
    (notConjunction : fieldKey schema field ≠ "$and")
    (plain : ¬Misread schema field value) :
    Failing.Alike Eq Draft.Alike
      (placeFields ObjectId.codec schema (earlier ++ [(field, .equals value)])
        {})
      (placeFields ObjectId.codec schema
        (earlier ++ [(field, .conditions [⟨"eq", value⟩])]) {}) := by
  rw [placeFields_append, placeFields_append]
  refine .after (fun _ => rfl) fun draft _ => ?_
  rw [placeFields, placeFields, placeField_equals, placeField_tagged]
  cases encoded : storedValue ObjectId.codec (fieldKey schema field) value with
  | error cause =>
      exact .error rfl
  | ok stored =>
      have entryAlike :=
        entryAlike_equality (readsAsFilter_stored plain encoded)
      exact .ok (draft.alike_place notConjunction entryAlike)

/--
Asking one more field for a value that is not misread is asking for equality.
-/
theorem filterDocument_bare_alike
    (query : Query)
    (earlier : Filter)
    (notConjunction : fieldKey query.schema field ≠ "$and")
    (plain : ¬Misread query.schema field value) :
    Failing.Alike Eq SameMatches
      (filterDocument ObjectId.codec
        { query with filter := earlier ++ [(field, .equals value)] })
      (filterDocument ObjectId.codec
        { query with
          filter := earlier ++ [(field, .conditions [⟨"eq", value⟩])] }) := by
  refine (placeFields_bare_alike earlier notConjunction plain).bind
    fun placed placedToo alike => ?_
  refine .after (fun _ => rfl) fun groups _ => ?_
  exact .ok fun document => (alike.placeGroups _).matches_finish document

end DocumentCompiler

open DocumentCompiler

theorem Collection.matching_congr
    {filter other : Document}
    (same : SameMatches filter other)
    (documents : List Document) :
    matching filter documents = matching other documents := by
  induction documents with
  | nil =>
      rfl
  | cons document rest inductionHypothesis =>
      rw [matching, matching, same document, inductionHypothesis]

namespace Store

/--
Selects whose filter documents hold of the same documents fetch the same rows.
-/
theorem fetch_alike
    {query : Query}
    {first second : Filter}
    (isSelect : query.kind = .select)
    (alike :
      Failing.Alike Eq SameMatches
        (filterDocument ObjectId.codec { query with filter := first })
        (filterDocument ObjectId.codec { query with filter := second }))
    (state : StoreState) :
    (fetch { query with filter := first }).runFrom state =
      (fetch { query with filter := second }).runFrom state := by
  have sameFiltered :
      filtered state.1 { query with filter := first } =
        filtered state.1 { query with filter := second } := by
    refine congrArg (rejectRelational query >>= ·) (funext fun _ => ?_)
    generalize filterDocument ObjectId.codec { query with filter := first } =
      filter at alike
    generalize filterDocument ObjectId.codec { query with filter := second } =
      other at alike
    cases alike with
    | error same =>
        rw [same]
    | ok same =>
        exact Collection.matching_congr same _
  have fetchedBy (filter : Filter) :
      (fetch { query with filter := filter }).runFrom state =
        ((filtered state.1 { query with filter := filter }).map fun found =>
          stretch query (listing query found), state) := by
    rw [fetch_eq (by exact isSelect)]
    rfl
  rw [fetchedBy first, fetchedBy second, sameFiltered]

end Store

namespace Builder

/-- What the select of a builder fetches, and the state that it leaves. -/
def fetched
    (builder : Builder)
    (state : StoreState) :
    Except QueryError (List Document) × StoreState :=
  ((Stateful.ofExcept builder.select : Stateful StoreState Query) >>=
    Store.fetch).runFrom state

variable
  {builder : Builder}
  {schema : Schema}
  {field : String}
  {value : Json}

theorem fetched_of_schema
    (given : builder.schema = some schema)
    (state : StoreState) :
    builder.fetched state =
      (Store.fetch (builder.freeze .select schema none)).runFrom state := by
  have selected :
      builder.select = .ok (builder.freeze .select schema none) := by
    rw [select, requireSchema, given]
    rfl
  rw [fetched, selected, Stateful.runFrom_bind, Stateful.runFrom_ofExcept]

/--
A further condition on a field that has one is asked for as by the
operator of equality.
-/
theorem constrainEqual_of_taken
    (taken : field ∈ builder.filter.keys) :
    builder.constrainEqual field value =
      builder.constrainBy field "eq" value := by
  have sameFilter :
      Filter.constrain builder.filter field (.equals value) =
        Filter.constrain builder.filter field (.conditions [⟨"eq", value⟩]) :=
    Entries.alter_congr taken fun _ => rfl
  rw [constrainEqual, constrainBy, constrain, constrain, sameFilter]

theorem constrain_of_free
    (free : field ∉ builder.filter.keys)
    (asked : FieldFilter) :
    builder.constrain field asked =
      { builder with filter := builder.filter ++ [(field, asked)] } := by
  rw [constrain, Filter.constrain, Entries.alter_of_not_mem free]

/-- A bare value that is not misread asks any builder for equality. -/
theorem fetched_constrainEqual
    (given : builder.schema = some schema)
    (notConjunction : fieldKey schema field ≠ "$and")
    (plain : ¬Misread schema field value)
    (state : StoreState) :
    (builder.constrainEqual field value).fetched state =
      (builder.constrainBy field "eq" value).fetched state := by
  by_cases taken : field ∈ builder.filter.keys
  · rw [constrainEqual_of_taken taken]
  · rw [constrainEqual, constrainBy, constrain_of_free taken,
      constrain_of_free taken]
    have fetchedBy (filter : Filter) :
        ({ builder with filter := filter } : Builder).fetched state =
          (Store.fetch
            { builder.freeze .select schema none with
              filter := filter }).runFrom
            state := by
      rw [fetched_of_schema (by exact given)]
      rfl
    rw [fetchedBy, fetchedBy]
    have alike :=
      filterDocument_bare_alike (builder.freeze .select schema none)
        builder.filter notConjunction plain
    exact Store.fetch_alike rfl alike state

/-- The builder of a select from an entity. -/
def selecting
    (schema : Schema) :
    Builder :=
  ({} : Builder).model schema

/--
A select by a filter alone fetches the documents that match its filter document.
-/
theorem fetched_selecting
    (asked : FieldFilter)
    {convert : Json → Json}
    (placed :
      ∀ draft,
        placeField ObjectId.codec schema draft field asked =
          (storedValue ObjectId.codec (fieldKey schema field) value).map
            fun stored => draft.place (fieldKey schema field) (convert stored))
    (state : StoreState) :
    ((selecting schema).constrain field asked).fetched state =
      ((do
        let stored ← storedValue ObjectId.codec (fieldKey schema field) value
        let found ←
          Collection.matching [(fieldKey schema field, convert stored)]
            (state.1.collection schema.storage).documents
        return found.map (fromStore ObjectId.codec schema)), state) := by
  have compiled :
      filterDocument ObjectId.codec
          (((selecting schema).constrain field asked).freeze .select schema
            none) =
        (storedValue ObjectId.codec (fieldKey schema field) value).map
          fun stored => [(fieldKey schema field, convert stored)] := by
    change
      (placeField ObjectId.codec schema {} field asked >>=
        placeFields ObjectId.codec schema [] >>=
        fun placed => _) = _
    rw [placed]
    cases storedValue ObjectId.codec (fieldKey schema field) value <;> rfl
  have filtered :
      Store.filtered state.1
          (((selecting schema).constrain field asked).freeze .select schema
            none) =
        (filterDocument ObjectId.codec
            (((selecting schema).constrain field asked).freeze .select schema
              none) >>= fun filter =>
          Collection.matching filter
            (state.1.collection schema.storage).documents) :=
    rfl
  rw [fetched_of_schema rfl, Store.fetch_eq rfl, filtered, compiled]
  cases storedValue ObjectId.codec (fieldKey schema field) value with
  | error cause =>
      rfl
  | ok stored =>
      refine congrArg (·, state) ?_
      dsimp only [Except.map, bind, Except.bind]
      cases Collection.matching [(fieldKey schema field, convert stored)]
        (state.1.collection schema.storage).documents <;> rfl

theorem fetched_constrainEqual_selecting
    (state : StoreState) :
    ((selecting schema).constrainEqual field value).fetched state =
      ((do
        let stored ← storedValue ObjectId.codec (fieldKey schema field) value
        let found ←
          Collection.matching [(fieldKey schema field, stored)]
            (state.1.collection schema.storage).documents
        return found.map (fromStore ObjectId.codec schema)), state) :=
  fetched_selecting (.equals value) (placeField_equals ObjectId.codec) state

theorem fetched_constrainBy_selecting
    (state : StoreState) :
    ((selecting schema).constrainBy field "eq" value).fetched state =
      ((do
        let stored ← storedValue ObjectId.codec (fieldKey schema field) value
        let found ←
          Collection.matching
            [(fieldKey schema field, .object [("$eq", stored)])]
            (state.1.collection schema.storage).documents
        return found.map (fromStore ObjectId.codec schema)), state) :=
  fetched_selecting (.conditions [⟨"eq", value⟩])
    (placeField_tagged ObjectId.codec) state

/--
A select by one bare value that is not misread asks for equality,
under whichever key.
-/
theorem fetched_bare_selecting
    (plain : ¬Misread schema field value)
    (state : StoreState) :
    ((selecting schema).constrainEqual field value).fetched state =
      ((selecting schema).constrainBy field "eq" value).fetched state := by
  rw [fetched_constrainEqual_selecting, fetched_constrainBy_selecting]
  cases encoded : storedValue ObjectId.codec (fieldKey schema field) value with
  | error cause =>
      rfl
  | ok stored =>
      have entryAlike :=
        entryAlike_equality (readsAsFilter_stored plain encoded)
      have same :
          SameMatches [(fieldKey schema field, stored)]
            [(fieldKey schema field, .object [("$eq", stored)])] :=
        fun document => filterHolds_congr (.cons (entryAlike.2 document) .nil)
      refine congrArg (·, state) ?_
      dsimp only [bind, Except.bind]
      rw [Collection.matching_congr same]

/--
A select by the operator of equality fetches the rows whose
field equals the value.
-/
theorem fetched_equal_rows
    (unmarked : Operator.isMarked (fieldKey schema field) = false)
    (state : StoreState) :
    ((selecting schema).constrainBy field "eq" value).fetched state =
      ((storedValue ObjectId.codec (fieldKey schema field) value).map
        fun stored =>
          ((state.1.collection schema.storage).documents.filter fun document =>
            equals (document.lookup? (fieldKey schema field)) stored).map
              (fromStore ObjectId.codec schema), state) := by
  rw [fetched_constrainBy_selecting]
  cases storedValue ObjectId.codec (fieldKey schema field) value with
  | error cause =>
      rfl
  | ok stored =>
      have evaluated (document : Document) :
          document.matches
              [(fieldKey schema field, .object [("$eq", stored)])] =
            .ok (equals (document.lookup? (fieldKey schema field)) stored) := by
        rw [matches_single unmarked, conditionHolds_equality]
      refine congrArg (·, state) ?_
      dsimp only [bind, Except.bind]
      rw [Collection.matching_eq_filter fun document _ => evaluated document]
      rfl

/-- A store with one document. -/
def storing
    (name : String)
    (document : Document) :
    Store :=
  [(name, { name := name, documents := [document] })]

/--
From a store with one document, a select by one field fetches it if it
satisfies the condition.
-/
theorem matching_storing
    {key : String}
    (unmarked : Operator.isMarked key = false)
    (name : String)
    (actual condition : Json) :
    Collection.matching [(key, condition)]
        ((storing name (Document.setPath [] key actual)).collection
          name).documents =
      (conditionHolds (some actual) condition).map fun holds =>
        if holds then [Document.setPath [] key actual] else [] := by
  have documents :
      ((storing name (Document.setPath [] key actual)).collection
          name).documents =
        [Document.setPath [] key actual] := by
    simp [storing, Store.collection]
  rw [documents, Collection.matching, matches_single unmarked,
    Document.lookup?_setPath]
  cases conditionHolds (some actual) condition <;> rfl

/--
A bare operator document fetches other rows from some store than equality does.
-/
theorem exists_fetched_ne
    (unmarked : Operator.isMarked (fieldKey schema field) = false)
    (single : value.collapse = value)
    (misread : Misread schema field value) :
    ∃ store, ∀ supply,
      ((selecting schema).constrainEqual field value).fetched (store, supply) ≠
        ((selecting schema).constrainBy field "eq" value).fetched
          (store, supply) := by
  obtain ⟨notIdKey, reads⟩ := misread
  rw [readsAsFilter, unmarked] at reads
  obtain ⟨actual, differ⟩ := exists_conditionHolds_ne reads single
  have asItIs :
      storedValue ObjectId.codec (fieldKey schema field) value = .ok value :=
    if_neg notIdKey
  refine ⟨storing schema.storage
    (Document.setPath [] (fieldKey schema field) actual), ?_⟩
  intro supply same
  rw [fetched_constrainEqual_selecting, fetched_constrainBy_selecting, asItIs]
    at same
  simp only [bind, Except.bind, matching_storing unmarked,
    conditionHolds_equality] at same
  cases holds : conditionHolds (some actual) value with
  | error cause =>
      rw [holds] at same
      cases (Prod.mk.inj same).1
  | ok held =>
      rw [holds] at same differ
      have rows := Except.ok.inj (Prod.mk.inj same).1
      cases held <;> cases answered : equals (some actual) value <;>
        simp [answered] at rows differ

end Builder

open Builder

/--
What a select that asks a field for a bare value fetches.

By itself, it fetches what the operator of equality does, causes of failure
included, unless the value is misread. So does any builder, also for a
misread value if something is asked of the field already. With the operator
of equality, the rows are those whose field equals the value. For a misread
value that repeats no name in an object, there is a store in which the bare
form fetches other rows, or fails.
-/
theorem bare_values_ask_equality_unless_misread
    (schema : Schema)
    (field : String)
    (value : Json) :
    (¬Misread schema field value →
      ∀ state,
        ((selecting schema).constrainEqual field value).fetched state =
          ((selecting schema).constrainBy field "eq" value).fetched state) ∧
      (∀ builder : Builder,
        builder.schema = some schema →
        (field ∈ builder.filter.keys ∨
          fieldKey schema field ≠ "$and" ∧ ¬Misread schema field value) →
        ∀ state,
          (builder.constrainEqual field value).fetched state =
            (builder.constrainBy field "eq" value).fetched state) ∧
      (Operator.isMarked (fieldKey schema field) = false →
        (∀ state,
          ((selecting schema).constrainBy field "eq" value).fetched state =
            ((storedValue ObjectId.codec (fieldKey schema field) value).map
              fun stored =>
                ((state.1.collection schema.storage).documents.filter
                  fun document =>
                    equals (document.lookup? (fieldKey schema field))
                      stored).map (fromStore ObjectId.codec schema), state)) ∧
          (value.collapse = value →
            Misread schema field value →
            ∃ store, ∀ supply,
              ((selecting schema).constrainEqual field value).fetched
                  (store, supply) ≠
                ((selecting schema).constrainBy field "eq" value).fetched
                  (store, supply))) := by
  refine ⟨fetched_bare_selecting, ?_,
    fun unmarked => ⟨fetched_equal_rows unmarked, ?_⟩⟩
  · rintro builder given (taken | ⟨notConjunction, plain⟩) state
    · rw [constrainEqual_of_taken taken]
    · exact fetched_constrainEqual given notConjunction plain state
  · exact fun single misread => exists_fetched_ne unmarked single misread

/-- An entity with an identifier and a secret. -/
def accountSchema : Schema :=
  {
    name := "account"
    storageName := none
    fields :=
      [⟨"id", none, true, none, none⟩, ⟨"secret", none, false, none, none⟩]
  }

/-- A store with one account. -/
def oneAccount : StoreState :=
  (storing "account" [("_id", .ofInt 1), ("secret", .string "s")],
    ⟨0, 0, 0, []⟩)

/-- A bare object fetches an account whose secret does not equal it. -/
theorem bare_operator_fetches_unequal_row :
    ((selecting accountSchema).constrainEqual "secret"
      (.object [("$ne", .null)])).fetched
          oneAccount =
        (.ok [[("id", .ofInt 1), ("secret", .string "s")]], oneAccount) ∧
      ((selecting accountSchema).constrainBy "secret" "eq"
        (.object [("$ne", .null)])).fetched
          oneAccount =
        (.ok [], oneAccount) :=
  ⟨rfl, rfl⟩

end PolyQuery
