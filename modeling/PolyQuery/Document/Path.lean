import PolyQuery.Json.Basic

namespace PolyQuery

/-!
# Paths

A path leads into a document by segments between dots. Reading goes through
objects by name and through lists by position; writing and removing go through
objects only, and writing puts an object wherever it meets anything else.
-/

namespace Path

/--
The segments of a path whose current segment began with some
characters, in reverse.
-/
def segmentsFrom :
    List Char →
    List Char →
    List String
  | current, [] => [String.ofList current.reverse]
  | current, character :: rest =>
      if character = '.' then
        String.ofList current.reverse :: segmentsFrom [] rest
      else
        segmentsFrom (character :: current) rest

/-- The segments of a path, of which there is always one. -/
def segments
    (path : String) :
    List String :=
  segmentsFrom [] path.toList

/--
The position that a segment gives: decimal digits, perhaps after a plus sign.
-/
def position?
    (segment : String) :
    Option Nat :=
  let digits :=
    match segment.toList with
    | '+' :: rest => rest
    | characters => characters
  if digits.isEmpty || !digits.all Char.isDigit then
    none
  else
    let value : Nat :=
      digits.foldl (fun total digit => total * 10 + (digit.toNat - 48)) 0
    if value ≤ unsignedMax then
      some value
    else
      none

/-- The value at some segments inside a value. -/
def get? :
    List String →
    Json →
    Option Json
  | [], value => some value
  | segment :: rest, .object members =>
      match Entries.get? members segment with
      | some inner => get? rest inner
      | none => none
  | segment :: rest, .array items =>
      match (position? segment).bind fun position => items[position]? with
      | some inner => get? rest inner
      | none => none
  | _ :: _, _ => none

/-- The members of an object, none for anything else. -/
def membersOf : Option Json → Document
  | some (.object members) => members
  | _ => []

/-- Write a value at some segments. -/
def set :
    List String →
    Json →
    Document →
    Document
  | [], _, document => document
  | [last], value, document => document.insert last value
  | segment :: rest, value, document =>
      document.alter segment fun existing =>
        .object (set rest value (membersOf existing))

/--
Remove what stands at some segments: the value and the document without it.
-/
def remove? :
    List String →
    Document →
    Option (Json × Document)
  | [], _ => none
  | [last], document =>
      match document.get? last with
      | some value => some (value, document.erase last)
      | none => none
  | segment :: rest, document =>
      match document.get? segment with
      | some (.object members) =>
          match remove? rest members with
          | some (value, members) =>
              some (value, document.insert segment (.object members))
          | none => none
      | _ => none

end Path

/-- The value at a path of a document. -/
def Document.lookup?
    (document : Document)
    (path : String) :
    Option Json :=
  Path.get? (Path.segments path) (.object document)

/-- A document with a value written at a path. -/
def Document.setPath
    (document : Document)
    (path : String)
    (value : Json) :
    Document :=
  Path.set (Path.segments path) value document

/-- The value removed from a path, with the document that is left. -/
def Document.removePath?
    (document : Document)
    (path : String) :
    Option (Json × Document) :=
  Path.remove? (Path.segments path) document

end PolyQuery
