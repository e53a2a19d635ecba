import PolyQuery.Document.Compile
import PolyQuery.Document.Pipeline

namespace PolyQuery

/-!
# Document store

Named collections in memory. An operation that inserts makes the collection
that it names; any other finds an absent one empty.

An operation that fails keeps what it did before it failed.
-/

/-- Collections by name. -/
abbrev Store :=
  Entries Collection

/-- A store with what its operations generate next. -/
abbrev StoreState :=
  Store × Supply

namespace Store

/-- The names of the collections in order of their characters. -/
def names
    (store : Store) :
    List String :=
  store.keys.mergeSort fun left right => left ≤ right

/-- Whether there is a collection with a name. -/
def exists?
    (store : Store)
    (name : String) :
    Bool :=
  store.contains name

/-- The store without a collection, and whether there was one. -/
def drop
    (store : Store)
    (name : String) :
    Bool × Store :=
  (store.contains name, store.erase name)

/-- The collection with a name, empty if it is absent. -/
def collection
    (store : Store)
    (name : String) :
    Collection :=
  (store.get? name).getD { name := name }

/-- Run an action on a collection, which is made if it is absent. -/
def onCollection
    {α : Type}
    (name : String)
    (action : Stateful CollectionState α) :
    Stateful StoreState α := do
  let (store, supply) ← get
  let (result, changed, supply) :=
    action.runFrom (store.collection name, supply)
  set (store.insert name changed, supply)
  Stateful.ofExcept result

/--
Run an action on a collection; an absent one gives the answer for it instead.
-/
def onPresent
    {α : Type}
    (name : String)
    (absent : α)
    (action : Stateful CollectionState α) :
    Stateful StoreState α := do
  let (store, _) ← get
  if store.contains name then
    onCollection name action
  else
    return absent

/--
Insert documents one after the other: their identifiers as the caller sees them.
-/
def insertDocuments :
    List Document →
    List Json →
    Stateful CollectionState (List Json)
  | [], inserted => pure inserted
  | document :: rest, inserted => do
      let identifier ← Collection.insert document
      insertDocuments rest (inserted ++ [ObjectId.decode identifier])

/-- Run the updates of a batch one after the other. -/
def runUpdates
    (upsert : Bool) :
    List FilteredUpdate →
    Outcome →
    Stateful CollectionState Outcome
  | [], total => pure total
  | filtered :: rest, total => do
      let one ← Collection.update filtered.filter filtered.update false upsert
      runUpdates upsert rest {
        affected := total.affected + one.affected
        matched := total.matched + one.matched
        modified := total.modified + one.modified
        upsertedId := none
        insertedIds :=
          total.insertedIds ++ (one.upsertedId.map Json.string).toList
      }

/-- Run an operation: the stored documents that it answers, and what it did. -/
def run :
    DocumentOperation →
    Stateful StoreState (List Document × Outcome)
  | .find name filter window => do
      let (store, _) ← get
      let documents ←
        Stateful.ofExcept
          ((store.collection name).find filter window.projection window.sort
            window.skip window.limit)
      return (documents, {})
  | .count name filter => do
      let (store, _) ← get
      let count ← Stateful.ofExcept ((store.collection name).count filter)
      return ([], { affected := count })
  | .insert name documents => do
      let inserted ← onCollection name (insertDocuments documents [])
      return ([], {
        affected := inserted.length
        insertedIds := inserted
      })
  | .update name filter changes many upsert => do
      let action := Collection.update filter changes many upsert
      let outcome ←
        if upsert then onCollection name action else onPresent name {} action
      return ([], outcome)
  | .bulkUpdate name updates upsert => do
      let outcome ← onCollection name (runUpdates upsert updates {})
      return ([], outcome)
  | .delete name filter many => do
      let removed ← onPresent name 0 (Collection.delete filter many)
      return ([], { affected := removed })

/-- The rows of a select in the caller's form. -/
def fetch
    (query : Query) :
    Stateful StoreState (List Document) := do
  if query.kind ≠ .select then
    throw (.unsupportedClause "fetch on a mutation")
  let operation ←
    Stateful.ofExcept (DocumentCompiler.compile ObjectId.codec query)
  let (documents, _) ← run operation
  return documents.map (DocumentCompiler.fromStore ObjectId.codec query.schema)

/-- The first row of a select, if there is one. -/
def fetchOne
    (query : Query) :
    Stateful StoreState (Option Document) := do
  let rows ← fetch query
  return rows.head?

/-- The number of rows that a query filters. -/
def count
    (query : Query) :
    Stateful StoreState Nat := do
  let operation ←
    Stateful.ofExcept (DocumentCompiler.compileCount ObjectId.codec query)
  let (_, outcome) ← run operation
  return outcome.affected

/-- Run an insert, an update or a delete. -/
def execute
    (query : Query) :
    Stateful StoreState Outcome := do
  if query.kind = .select then
    throw (.unsupportedClause "execute on a select")
  let operation ←
    Stateful.ofExcept (DocumentCompiler.compile ObjectId.codec query)
  let (_, outcome) ← run operation
  return outcome

/--
The rows that leave a pipeline over an entity's collection, cut to a
page if one is given.
-/
def aggregate
    (store : Store)
    (schema : Schema)
    (pipeline : List Json)
    (page : Option Nat)
    (pageSize : Option Nat) :
    Except QueryError (List Document) :=
  match store.get? schema.storage with
  | none => .ok []
  | some collection =>
      (Pipeline.run (Pipeline.paginate pipeline page pageSize)
        collection.documents).map
        fun documents =>
          documents.map (DocumentCompiler.fromStore ObjectId.codec schema)

end Store

end PolyQuery
