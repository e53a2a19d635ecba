import PolyQuery.Document.ObjectId
import PolyQuery.Document.Path

namespace PolyQuery

/-!
# Order of values

Numbers, strings, truth values and identifiers are compared with their own
kind; numbers as doubles, strings by code points, identifiers by bytes. For
sorting, what is missing or null comes first and values that do not compare
count as equal.
-/

namespace Json

/-- The order of two values of one kind. -/
def order? : Json → Json → Option Ordering
  | .number left, .number right =>
      match left.binary64?, right.binary64? with
      | some left, some right => some (left.order right)
      | _, _ => none
  | .string left, .string right => some (compare left right)
  | .bool left, .bool right => some (compare left.toNat right.toNat)
  | .object left, .object right =>
      match ObjectId.ofJson? (.object left),
        ObjectId.ofJson? (.object right) with
      | some left, some right => some (left.order right)
      | _, _ => none
  | _, _ => none

/-- Whether a value is missing or null. -/
def isAbsent : Option Json → Bool
  | none => true
  | some value => value.isNull

/-- The order in which values are sorted. -/
def sortOrder
    (left : Option Json)
    (right : Option Json) :
    Ordering :=
  if isAbsent left then
    if isAbsent right then .eq else .lt
  else if isAbsent right then
    .gt
  else
    match left, right with
    | some left, some right => (order? left right).getD .eq
    | _, _ => .eq

end Json

/-- A path to sort by, and whether it is sorted downwards. -/
structure SortKey where
  path : String
  descending : Bool

/--
The keys of a sort document, in which minus one asks for the downward direction.
-/
def SortKey.ofDocument
    (spec : Document) :
    List SortKey :=
  spec.map fun entry => ⟨entry.1, entry.2.signed? = some (-1)⟩

/--
The order of two documents by some keys, the first that tells
them apart deciding.
-/
def Document.orderBy :
    List SortKey →
    Document →
    Document →
    Ordering
  | [], _, _ => .eq
  | key :: rest, left, right =>
      let order :=
        Json.sortOrder (left.lookup? key.path) (right.lookup? key.path)
      let directed := if key.descending then order.swap else order
      match directed with
      | .eq => orderBy rest left right
      | decided => decided

/--
Put a document into sorted ones, the last first: it passes those it precedes.
-/
def Document.insertSorted
    (order : Document → Document → Ordering)
    (document : Document) :
    List Document →
    List Document
  | [] => [document]
  | last :: rest =>
      if order document last = .lt then
        last :: insertSorted order document rest
      else
        document :: last :: rest

/-- Documents sorted by an order; those that count as equal keep their order. -/
def Document.sort
    (order : Document → Document → Ordering)
    (documents : List Document) :
    List Document :=
  (documents.foldl (fun sorted document => insertSorted order document sorted)
    []).reverse

end PolyQuery
