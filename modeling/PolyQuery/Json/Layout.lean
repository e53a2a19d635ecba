import PolyQuery.Entries

namespace PolyQuery

/-!
# Layouts

A layout says which parts of a written value count. Whoever reads a record
looks at the fields it has and at nothing else, so that the value of any other
member needs to be well formed and no more. Everything that is no member of a
record counts.
-/

namespace Json

/-- Which parts of a value count. -/
inductive Layout where
  /-- Every part counts. -/
  | whole
  /-- The items of a list are laid out alike. -/
  | list (item : Layout)
  /-- Of the members of a record those with the name of a field count. -/
  | record (fields : List (String × Layout))

namespace Layout

/-- A record whose fields count as a whole. -/
def ofNames
    (names : List String) :
    Layout :=
  .record (names.map fun name => (name, .whole))

/-- The names of the fields of a record in order. -/
def names : Layout → List String
  | .record fields => fields.map Prod.fst
  | _ => []

@[simp] theorem names_ofNames
    (fieldNames : List String) :
    (ofNames fieldNames).names = fieldNames := by
  simp [ofNames, names, Function.comp_def]

/-- The layout of the member with a name, if that member counts. -/
def member? :
    Layout →
    String →
    Option Layout
  | .record fields, name => Entries.get? fields name
  | _, _ => some .whole

/--
The layout of the first item of a list, and that of the list of the others.

A record that is written as a list gives its fields in order.
-/
def uncons : Layout → Layout × Layout
  | .list item => (item, .list item)
  | .record ((_, first) :: others) => (first, .record others)
  | _ => (.whole, .whole)

end Layout

end Json

end PolyQuery
