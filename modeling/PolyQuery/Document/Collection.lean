import PolyQuery.Document.Outcome
import PolyQuery.Document.Update

namespace PolyQuery

/-!
# Collections

Documents in insertion order, each with its identifier first. No two documents
of a collection are inserted with equal identifiers; one that comes without an
identifier gets a generated one.

An operation that fails keeps what it did before it failed.
-/

/-- The key under which documents store their identifier. -/
def idKey : String :=
  "_id"

/-- A named collection of documents. -/
structure Collection where
  name : String
  documents : List Document := []

/-- A collection with what its operations generate next. -/
abbrev CollectionState :=
  Collection × Supply

namespace Collection

/-- The documents that satisfy a filter, up to the first that it fails on. -/
def matching
    (filter : Document) :
    List Document →
    Except QueryError (List Document)
  | [] => .ok []
  | document :: rest => do
      let holds ← document.matches filter
      let others ← matching filter rest
      return if holds then document :: others else others

/-- Whether a projection keeps what it says of a field. -/
def keeps
    (choice : Json) :
    Bool :=
  choice.signed? ≠ some 0 && choice.bool? ≠ some false

/--
The fields that a projection names; the identifier unless it is
left out on purpose.
-/
def project
    (fields : Document)
    (document : Document) :
    Document :=
  document.filter fun entry =>
    match fields.get? entry.1 with
    | some choice => keeps choice
    | none => entry.1 = idKey

/-- The documents that satisfy a filter: sorted, then cut, then projected. -/
def find
    (collection : Collection)
    (filter : Document)
    (projection : Option Document)
    (sort : Option Document)
    (skip : Option Nat)
    (limit : Option Nat) :
    Except QueryError (List Document) := do
  let found ← matching filter collection.documents
  let sorted :=
    match sort with
    | some spec =>
        Document.sort (Document.orderBy (SortKey.ofDocument spec)) found
    | none => found
  let rest := sorted.drop (skip.getD 0)
  let taken :=
    match limit with
    | some limit => rest.take limit
    | none => rest
  return match projection with
    | some fields => taken.map (project fields)
    | none => taken

/-- The number of documents that satisfy a filter. -/
def count
    (collection : Collection)
    (filter : Document) :
    Except QueryError Nat :=
  (matching filter collection.documents).map List.length

/-- Whether a document has an identifier. -/
def hasId
    (documents : List Document)
    (identifier : Json) :
    Bool :=
  documents.any fun document =>
    match document.get? idKey with
    | some stored => stored.same identifier
    | none => false

/-- A document with its identifier first. -/
def withIdFirst
    (identifier : Json)
    (document : Document) :
    Document :=
  (idKey, identifier) :: document.filter fun entry => entry.1 ≠ idKey

/-- The identifier that a document brings along. -/
def givenId?
    (document : Document) :
    Option Json :=
  match document.get? idKey with
  | some .null => none
  | other => other

/-- Insert a document: its identifier, generated if there is none. -/
def insert
    (document : Document) :
    Stateful CollectionState Json := do
  let (collection, supply) ← get
  let (identifier, supply) :=
    match givenId? document with
    | some identifier => (identifier, supply)
    | none =>
        let (generated, supply) := Supply.objectId.run supply
        (generated.toJson, supply)
  set (collection, supply)
  if hasId collection.documents identifier then
    throw (.duplicateKey (collection.name ++ "._id " ++ identifier.text))
  set
    ({ collection with
        documents :=
          collection.documents ++ [withIdFirst identifier document] },
      supply)
  return identifier

/--
Apply an update to one document: the result, the document and
the supply afterwards.
-/
def applyTo
    (inserting : Bool)
    (update : Document)
    (document : Document)
    (supply : Supply) :
    Except QueryError Unit × Document × Supply :=
  (Update.apply inserting update).runFrom (document, supply)

/-- How many documents an update met, and how many it changed. -/
structure Tally where
  matched : Nat := 0
  modified : Nat := 0

/--
Apply an update to the documents that satisfy a filter, or to the first of them.

The documents afterwards are given also where the filter or the update fails.
-/
def updateMatching
    (filter : Document)
    (update : Document)
    (many : Bool) :
    List Document →
    Tally →
    Supply →
    Except QueryError Tally × List Document × Supply
  | [], tally, supply => (.ok tally, [], supply)
  | document :: rest, tally, supply =>
      match document.matches filter with
      | .error error => (.error error, document :: rest, supply)
      | .ok false =>
          let (result, others, supply) :=
            updateMatching filter update many rest tally supply
          (result, document :: others, supply)
      | .ok true =>
          match applyTo false update document supply with
          | (.error error, changed, supply) =>
              (.error error, changed :: rest, supply)
          | (.ok (), changed, supply) =>
              let differs := !(Json.object changed).same (.object document)
              let tally :=
                {
                  matched := tally.matched + 1
                  modified := tally.modified + (if differs then 1 else 0)
                }
              if many then
                let (result, others, supply) :=
                  updateMatching filter update many rest tally supply
                (result, changed :: others, supply)
              else
                (.ok tally, changed :: rest, supply)

/--
Whether a filter entry asks for equality, so that a new document can satisfy it.
-/
def isSeed
    (key : String)
    (condition : Json) :
    Bool :=
  if Operator.isMarked key then
    false
  else
    match condition with
    | .object members =>
        !(members.any fun member => Operator.isMarked member.1) ||
          (ObjectId.ofJson? (.object members)).isSome
    | _ => true

/-- The document that an upsert starts from: the equalities of its filter. -/
def upsertSeed
    (filter : Document) :
    Document :=
  filter.filter fun entry => isSeed entry.1 entry.2

/--
The text of an identifier: its digits, or its JSON text if it is none of ours.
-/
def idText
    (identifier : Json) :
    String :=
  match ObjectId.ofJson? identifier with
  | some identifier => identifier.hex
  | none => identifier.text

/--
Insert what an update makes of the equalities of a filter:
the identifier's text.
-/
def upsert
    (filter : Document)
    (update : Document) :
    Stateful CollectionState String := do
  let (collection, supply) ← get
  let (result, seed, supply) := applyTo true update (upsertSeed filter) supply
  set (collection, supply)
  Stateful.ofExcept result
  let identifier ← insert seed
  return idText identifier

/--
Update the documents that satisfy a filter, or insert one if so
asked and there is none.
-/
def update
    (filter : Document)
    (update : Document)
    (many : Bool)
    (upserting : Bool) :
    Stateful CollectionState Outcome := do
  let (collection, supply) ← get
  let (result, documents, supply) :=
    updateMatching filter update many collection.documents {} supply
  set ({ collection with documents := documents }, supply)
  let tally ← Stateful.ofExcept result
  if tally.matched = 0 && upserting then
    let identifier ← upsert filter update
    return {
      affected := tally.modified + 1
      matched := tally.matched
      modified := tally.modified
      upsertedId := some identifier
    }
  else
    return {
      affected := tally.modified
      matched := tally.matched
      modified := tally.modified
    }

/-- The documents that a delete leaves, and the number it removes. -/
def deleteMatching
    (filter : Document)
    (many : Bool) :
    List Document →
    Except QueryError (List Document × Nat)
  | [] => .ok ([], 0)
  | document :: rest => do
      let holds ← document.matches filter
      if holds then
        if many then
          let (kept, removed) ← deleteMatching filter many rest
          return (kept, removed + 1)
        else
          return (rest, 1)
      else
        let (kept, removed) ← deleteMatching filter many rest
        return (document :: kept, removed)

/--
Remove the documents that satisfy a filter, or the first of them.

The documents are taken out before the filter is evaluated, so a filter that
fails leaves the collection empty.
-/
def delete
    (filter : Document)
    (many : Bool) :
    Stateful CollectionState Nat := do
  let (collection, supply) ← get
  set ({ collection with documents := [] }, supply)
  let (kept, removed) ←
    Stateful.ofExcept (deleteMatching filter many collection.documents)
  set ({ collection with documents := kept }, supply)
  return removed

end Collection

end PolyQuery
