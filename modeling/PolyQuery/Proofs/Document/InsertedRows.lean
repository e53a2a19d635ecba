import PolyQuery.Proofs.Document.BuiltStores

namespace PolyQuery

open Failing

/-!
# Inserted rows

The identifier that an insert answers for a row leads to the one document that
it stored for it, and that document reads back as the row with the identifier
put in. This needs the names of the schema to be unambiguous, and no field but
the identifier to be named like the identifier's key.
-/

namespace Store

/-- An inserted document, and what the caller is told of its identifier. -/
def InsertedAs
    (documents : List Document)
    (document : Document)
    (told : Json) :
    Prop :=
  ∃ identifier,
    Collection.withIdFirst identifier document ∈ documents ∧
      told = ObjectId.decode identifier

/--
Items that are related in two steps are related in what the steps come to.
-/
theorem forall₂_of_steps
    {α β γ : Type}
    {first : α → β → Prop}
    {second : β → γ → Prop}
    {related : α → γ → Prop}
    {starts : List α}
    {middles : List β}
    {ends : List γ}
    (firsts : List.Forall₂ first starts middles)
    (seconds : List.Forall₂ second middles ends)
    (steps :
      ∀ start ∈ starts, ∀ middle last, first start middle → second middle last →
        related start last) :
    List.Forall₂ related starts ends := by
  induction firsts generalizing ends with
  | nil =>
      cases seconds
      exact .nil
  | cons headFirst _ inductionHypothesis =>
      obtain ⟨headSteps, restSteps⟩ := List.forall_mem_cons.mp steps
      cases seconds with
      | cons headSecond restSeconds =>
          exact .cons (headSteps _ _ headFirst headSecond)
            (inductionHypothesis restSeconds restSteps)

/--
A successful insert stores every document and tells the
identifiers in their order.
-/
theorem insertDocuments_eq_ok
    {documents : List Document}
    {before told : List Json}
    {collection after : Collection}
    {supply left : Supply}
    (ran :
      (insertDocuments documents before).runFrom (collection, supply) =
        (.ok told, (after, left))) :
    collection.documents ⊆ after.documents ∧
      ∃ added, told = before ++ added ∧
        List.Forall₂ (InsertedAs after.documents) documents added := by
  induction documents generalizing before collection supply with
  | nil =>
      cases ran
      exact ⟨List.Subset.refl _, [], (List.append_nil _).symm, .nil⟩
  | cons document rest inductionHypothesis =>
      rw [insertDocuments, Stateful.runFrom_bind, Collection.insert_runFrom]
        at ran
      split at ran
      next inserted =>
        split at inserted
        next =>
          cases inserted
        next =>
          cases inserted
          obtain ⟨kept, added, isTold, restInserted⟩ := inductionHypothesis ran
          refine ⟨fun present member => kept (List.mem_append_left _ member),
            ObjectId.decode (Collection.chosenId document supply).1 :: added,
            ?_, ?_⟩
          · rw [isTold, List.append_assoc]
            rfl
          · exact .cons
              ⟨_, kept (List.mem_append_right _ List.mem_cons_self), rfl⟩
              restInserted
      next failed =>
        cases ran

/--
A successful insert query stores its rows and tells their identifiers in order.
-/
theorem execute_insert_eq_ok
    {query : Query}
    (isInsert : query.kind = .insert)
    {state after : StoreState}
    {outcome : Outcome}
    (executed : (execute query).runFrom state = (.ok outcome, after)) :
    outcome.affected = outcome.insertedIds.length ∧
      ∃ documents,
        query.rows.mapM (DocumentCompiler.toStore ObjectId.codec query.schema) =
            .ok documents ∧
          List.Forall₂
            (InsertedAs (after.1.collection query.schema.storage).documents)
            documents outcome.insertedIds := by
  have isWrite : query.kind ≠ .select := by
    rw [isInsert]
    exact StatementKind.noConfusion
  rw [execute_runFrom isWrite] at executed
  simp only [DocumentCompiler.compile, isInsert] at executed
  cases traversed :
      query.rows.mapM
        (DocumentCompiler.toStore ObjectId.codec query.schema) with
  | error cause =>
      rw [traversed] at executed
      cases executed
  | ok documents =>
      rw [traversed] at executed
      obtain ⟨store, supply⟩ := state
      change
        (((run (.insert query.schema.storage documents)).runFrom
          (store, supply)).1.map Prod.snd,
          ((run (.insert query.schema.storage documents)).runFrom
            (store, supply)).2) = _
        at executed
      simp only [run, onCollection, Stateful.runFrom_bind, Stateful.runFrom_get,
        Stateful.runFrom_set, Stateful.runFrom_ofExcept] at executed
      cases ran :
          (insertDocuments documents []).runFrom
            (store.collection query.schema.storage, supply) with
      | mk result left =>
          rw [ran] at executed
          cases result with
          | error cause =>
              cases executed
          | ok told =>
              cases executed
              obtain ⟨-, added, isTold, inserted⟩ := insertDocuments_eq_ok ran
              refine ⟨rfl, documents, rfl, ?_⟩
              change
                List.Forall₂
                  (InsertedAs
                    (collection (store.insert query.schema.storage left.1)
                      query.schema.storage).documents)
                  documents told
              rw [collection_insert, isTold]
              exact inserted

/-- The builder of a fetch of the rows under an identifier. -/
def fetchingBy
    (schema : Schema)
    (key : Field)
    (identifier : Json) :
    Builder :=
  (({} : Builder).model schema).constrainEqual key.name identifier

/--
A fetch by an identifier answers one row: a given one, with
the identifier put in.
-/
def FetchedBack
    (state : StoreState)
    (schema : Schema)
    (key : Field)
    (row : Document)
    (identifier : Json) :
    Prop :=
  ∃ query fetched,
    (fetchingBy schema key identifier).select = .ok query ∧
      (fetch query).runFrom state = (.ok [fetched], state) ∧
      fetched.Distinct ∧ fetched.Perm (row.insert key.name identifier)

section Fetching

variable
  {schema : Schema}
  {key : Field}
  (unambiguous : schema.Unambiguous key)

include unambiguous

theorem filterDocument_fetchingBy
    (identifier : ObjectId) :
    DocumentCompiler.filterDocument ObjectId.codec
        ((fetchingBy schema key (.string identifier.hex)).freeze .select schema
          none) =
      .ok [(idKey, identifier.toJson)] := by
  have encoded :
      DocumentCompiler.storedValue ObjectId.codec idKey
          (.string identifier.hex) =
        .ok identifier.toJson :=
    ObjectId.encode_hex identifier
  have placed :
      DocumentCompiler.placeField ObjectId.codec schema {} key.name
          (.equals (.string identifier.hex)) =
        .ok { document := [(idKey, identifier.toJson)] } := by
    rw [DocumentCompiler.placeField, DocumentCompiler.fieldKey_key unambiguous,
      encoded]
    rfl
  have placedAll :
      DocumentCompiler.placeFields ObjectId.codec schema
          [(key.name, .equals (.string identifier.hex))] {} =
        .ok { document := [(idKey, identifier.toJson)] } := by
    rw [DocumentCompiler.placeFields, placed]
    rfl
  change
    (DocumentCompiler.placeFields ObjectId.codec schema
      [(key.name, .equals (.string identifier.hex))] {} >>= fun draft => _) = _
  rw [placedAll]
  rfl

/--
A fetch by the identifier of a stored document answers that document alone.
-/
theorem fetch_fetchingBy
    {state : StoreState}
    (keyed : Collection.Keyed (state.1.collection schema.storage).documents)
    {document : Document}
    (member : document ∈ (state.1.collection schema.storage).documents)
    {identifier : ObjectId}
    (isIdentifier : document.identifier = identifier.toJson) :
    (fetch
      ((fetchingBy schema key (.string identifier.hex)).freeze .select schema
        none)).runFrom state =
      (.ok [DocumentCompiler.fromStore ObjectId.codec schema document],
        state) := by
  have found :
      filtered state.1
          ((fetchingBy schema key (.string identifier.hex)).freeze .select
            schema none) =
        .ok [document] := by
    change
      (do
        let filter ← DocumentCompiler.filterDocument ObjectId.codec
          ((fetchingBy schema key (.string identifier.hex)).freeze .select
            schema none)
        Collection.matching filter
          (state.1.collection schema.storage).documents) = _
    rw [filterDocument_fetchingBy unambiguous]
    exact keyed.matching_eq_singleton member isIdentifier
  rw [fetch_eq rfl, found]
  rfl

/--
Inserted rows are fetched back by the identifiers that the insert tells.

For an insert on a store that inserts and deletes led to, if it succeeds and its
rows use names of the schema only: there is one identifier for each row, in
order, and a fetch by it answers the row with the identifier put in.
-/
theorem inserted_rows_fetched_back
    (reserved : schema.ReservesIdKey)
    {store : Store}
    (reached : Reached store)
    {builder : Builder}
    {before drawn : Supply}
    {query : Query}
    (completed : builder.insert.runFrom before = (.ok query, drawn))
    (isSchema : query.schema = schema)
    (known : ∀ row ∈ query.rows, schema.Knows row)
    {supply : Supply}
    {outcome : Outcome}
    {after : StoreState}
    (executed :
      (execute query).runFrom (store, supply) = (.ok outcome, after)) :
    outcome.affected = query.rows.length ∧
      List.Forall₂ (FetchedBack after schema key) query.rows
        outcome.insertedIds := by
  obtain ⟨isInsert, distinct⟩ := Builder.insert_eq_ok completed
  obtain ⟨counted, documents, traversed, inserted⟩ :=
    execute_insert_eq_ok isInsert executed
  have keyed :
      Collection.Keyed (after.1.collection schema.storage).documents := by
    have reachedAfter := (reached.execute (.insert completed) supply).keyed
    rw [executed] at reachedAfter
    exact documents_collection Collection.keyed_nil reachedAfter schema.storage
  rw [isSchema] at traversed inserted
  have stored := mapM_eq_ok.mp traversed
  refine ⟨?_, ?_⟩
  · rw [counted, ← inserted.length_eq, stored.length_eq]
  · refine forall₂_of_steps stored inserted ?_
    rintro row rowMember document told rowStored ⟨identifier, member, rfl⟩
    obtain ⟨own, isOwn⟩ := keyed.stored _ member
    rw [Collection.get?_withIdFirst, Option.some.injEq] at isOwn
    subst isOwn
    obtain ⟨pairs, rfl, related⟩ := DocumentCompiler.toStore_eq_ok rowStored
    have rowDistinct := distinct row rowMember
    have pairsDistinct :=
      DocumentCompiler.distinct_of_stored unambiguous reserved
        (known row rowMember) related rowDistinct
    rw [Entries.ofList_of_distinct pairsDistinct] at member
    have fetched :=
      fetch_fetchingBy unambiguous keyed member
        (Collection.identifier_withIdFirst _ _)
    rw [DocumentCompiler.fromStore_withIdFirst unambiguous reserved
      (known row rowMember) related rowDistinct] at fetched
    have isHex : ObjectId.codec.decode own.toJson = .string own.hex :=
      ObjectId.decode_toJson own
    have inserted := Entries.insert_perm rowDistinct key.name (.string own.hex)
    rw [isHex] at fetched
    rw [ObjectId.decode_toJson]
    exact
      ⟨_, _, rfl, fetched,
        (inserted.map Prod.fst).nodup_iff.mp
          (Entries.distinct_insert rowDistinct _ _),
        inserted.symm⟩

end Fetching

/-- A field that is stored under a name of its choice. -/
def plainField
    (name column : String) :
    Field :=
  {
    name := name
    column := some column
    primary := false
    onInsert := none
    onUpdate := none
  }

/-- An identifier field. -/
def identifierField : Field :=
  {
    name := "id"
    column := none
    primary := true
    onInsert := none
    onUpdate := none
  }

/--
An entity whose fields besides the identifier are stored
under each other's names.
-/
def swappedSchema : Schema :=
  {
    name := "swapped"
    storageName := none
    fields := [identifierField, plainField "a" "b", plainField "b" "a"]
  }

/-- An insert of two rows, one of them with an identifier of its own. -/
def swappedInsert : Builder :=
  (({} : Builder).model swappedSchema).write
    (.batch [
      [("a", .ofInt 1), ("b", .ofInt 2)],
      [("b", .ofInt 3), ("id", .string "5e53bb135b64856045ccb8dc")]])

theorem exists_executed
    {query : Query}
    {state : StoreState}
    (succeeds : ((execute query).runFrom state).1.isOk = true) :
    ∃ outcome after, (execute query).runFrom state = (.ok outcome, after) := by
  cases executed : (execute query).runFrom state with
  | mk result after =>
      rw [executed] at succeeds
      cases result with
      | error cause =>
          cases succeeds
      | ok outcome =>
          exact ⟨outcome, after, rfl⟩

theorem inserted_rows_fetched_back_of_swapped :
    ∃ query outcome after,
      swappedSchema.Unambiguous identifierField ∧
      swappedSchema.ReservesIdKey ∧
      Reached [] ∧
      swappedInsert.insert.runFrom firstSupply = (.ok query, firstSupply) ∧
      query.schema = swappedSchema ∧
      (∀ row ∈ query.rows, swappedSchema.Knows row) ∧
      (execute query).runFrom ([], firstSupply) = (.ok outcome, after) ∧
      outcome.affected = query.rows.length ∧
      List.Forall₂ (FetchedBack after swappedSchema identifierField) query.rows
        outcome.insertedIds := by
  have unambiguous : swappedSchema.Unambiguous identifierField := {
    identifiers := rfl
    names := by decide
    storages := by decide
    ordinary := by decide
  }
  have reserved : swappedSchema.ReservesIdKey := by
    unfold Schema.ReservesIdKey
    decide
  have completed :
      ∃ query,
        swappedInsert.insert.runFrom firstSupply = (.ok query, firstSupply) ∧
          query.kind ≠ .select ∧ query.schema = swappedSchema ∧
          (∀ row ∈ query.rows, swappedSchema.Knows row) ∧
          DocumentCompiler.compile ObjectId.codec query =
            .ok (.insert "swapped" [
              [("b", .ofInt 1), ("a", .ofInt 2)],
              [("_id", .object [("$oid", .string "5e53bb135b64856045ccb8dc")]),
                ("a", .ofInt 3)]]) := by
    refine ⟨_, rfl, by decide, rfl, ?_, rfl⟩
    unfold Schema.Knows
    decide
  obtain ⟨query, inserts, isWrite, isSchema, known, compiled⟩ := completed
  have succeeds :
      ((execute query).runFrom ([], firstSupply)).1.isOk = true := by
    rw [execute_runFrom isWrite, compiled]
    decide +kernel
  obtain ⟨outcome, after, executed⟩ := exists_executed succeeds
  have fetched :=
    inserted_rows_fetched_back unambiguous reserved .empty inserts isSchema
      known executed
  exact
    ⟨query, outcome, after, unambiguous, reserved, .empty, inserts, isSchema,
      known, executed, fetched⟩

/--
An entity with a field that is named like the identifier's key, but
is not the identifier.
-/
def hiddenSchema : Schema :=
  {
    name := "hidden"
    storageName := none
    fields := [identifierField, plainField "_id" "x"]
  }

/-- An insert of one row with a value for that field. -/
def hiddenInsert : Builder :=
  (({} : Builder).model hiddenSchema).write
    (.single [("_id", .string "5e53bb135b64856045ccb8dc")])

/--
A value for a field that is named like the identifier's key is
taken for the identifier.
-/
theorem hidden_field_not_fetched_back :
    ∃ query outcome after,
      hiddenSchema.Unambiguous identifierField ∧
      Reached [] ∧
      hiddenInsert.insert.runFrom firstSupply = (.ok query, firstSupply) ∧
      query.schema = hiddenSchema ∧
      (∀ row ∈ query.rows, hiddenSchema.Knows row) ∧
      (execute query).runFrom ([], firstSupply) = (.ok outcome, after) ∧
      ¬List.Forall₂ (FetchedBack after hiddenSchema identifierField) query.rows
        outcome.insertedIds := by
  have unambiguous : hiddenSchema.Unambiguous identifierField := {
    identifiers := rfl
    names := by decide
    storages := by decide
    ordinary := by decide
  }
  have completed :
      ∃ query,
        hiddenInsert.insert.runFrom firstSupply = (.ok query, firstSupply) ∧
          query.kind = .insert ∧ query.schema = hiddenSchema ∧
          query.rows = [[("_id", .string "5e53bb135b64856045ccb8dc")]] ∧
          (∀ row ∈ query.rows, hiddenSchema.Knows row) ∧
          query.rows.mapM
              (DocumentCompiler.toStore ObjectId.codec query.schema) =
            .ok
              [[("_id",
                .object [("$oid", .string "5e53bb135b64856045ccb8dc")])]] ∧
          DocumentCompiler.compile ObjectId.codec query =
            .ok (.insert "hidden"
              [[("_id",
                .object [("$oid", .string "5e53bb135b64856045ccb8dc")])]]) := by
    refine ⟨_, rfl, rfl, rfl, rfl, ?_, rfl, rfl⟩
    unfold Schema.Knows
    decide
  obtain ⟨query, inserts, isInsert, isSchema, areRows, known, stored,
      compiled⟩ := completed
  have succeeds :
      ((execute query).runFrom ([], firstSupply)).1.isOk = true := by
    rw [execute_runFrom (by rw [isInsert]; decide), compiled]
    decide +kernel
  obtain ⟨outcome, after, executed⟩ := exists_executed succeeds
  refine
    ⟨query, outcome, after, unambiguous, .empty, inserts, isSchema, known,
      executed, ?_⟩
  intro allFetched
  obtain ⟨-, documents, traversed, inserted⟩ :=
    execute_insert_eq_ok isInsert executed
  have keyed : Collection.Keyed (after.1.collection "hidden").documents := by
    have reached := (Reached.empty.execute (.insert inserts) firstSupply).keyed
    rw [executed] at reached
    exact documents_collection Collection.keyed_nil reached "hidden"
  rw [stored] at traversed
  cases traversed
  rw [areRows] at allFetched
  rw [isSchema] at inserted
  generalize outcome.insertedIds = told at allFetched inserted
  cases inserted with
  | cons headInserted _ =>
      cases allFetched with
      | cons headFetched _ =>
          obtain ⟨identifier, member, rfl⟩ := headInserted
          obtain ⟨own, isOwn⟩ := keyed.stored _ member
          rw [Collection.get?_withIdFirst, Option.some.injEq] at isOwn
          subst isOwn
          rw [ObjectId.decode_toJson] at headFetched
          obtain ⟨fetching, fetched, selected, answered, -, sameRow⟩ :=
            headFetched
          cases selected
          rw [fetch_fetchingBy unambiguous keyed member
            (Collection.identifier_withIdFirst _ _)]
            at answered
          cases answered
          have oneIsTwo : 1 = 2 := sameRow.length_eq
          cases oneIsTwo

end Store

end PolyQuery
