import PolyQuery.Filter.Condition

namespace PolyQuery

/-!
# Filters

A filter constrains fields, all constraints holding together. An alternative
filter holds one group of conditions for each field, of which one must hold.
Constraining a field again adds to what it has: nothing is replaced, and a
field keeps the place of its first mention.
-/

/--
What is asked of one field: equality with a value, or a list of conditions.
-/
inductive FieldFilter where
  | equals (value : Json)
  | conditions (list : List Condition)
  deriving DecidableEq

namespace FieldFilter

/--
An object is read as a mapping from tags to operands, any other
value as an equality.
-/
def ofJson : Json → FieldFilter
  | .object members =>
      .conditions (members.map fun member => ⟨member.1, member.2⟩)
  | value => .equals value

/-- The conditions in order, a bare value counting as equality. -/
def toConditions : FieldFilter → List Condition
  | .equals value => [⟨"eq", value⟩]
  | .conditions list => list

/-- What holds when both are asked. -/
def merge
    (first : FieldFilter)
    (second : FieldFilter) :
    FieldFilter :=
  .conditions (first.toConditions ++ second.toConditions)

end FieldFilter

/-- Constraints on fields that hold together. -/
abbrev Filter :=
  Entries FieldFilter

namespace Filter

/-- Constrain a field. -/
def constrain
    (filter : Filter)
    (field : String)
    (asked : FieldFilter) :
    Filter :=
  filter.alter field fun existing =>
    match existing with
    | some earlier => earlier.merge asked
    | none => asked

/-- Constrain every field that another filter constrains. -/
def constrainAll
    (filter : Filter)
    (other : Filter) :
    Filter :=
  other.foldl (fun merged entry => constrain merged entry.1 entry.2) filter

/-- A filter from a mapping of fields to what is asked of them. -/
def ofMembers
    (members : Entries Json) :
    Filter :=
  members.foldl
    (fun filter member => constrain filter member.1 (.ofJson member.2)) []

end Filter

/-- Groups of alternatives, one for each field. -/
abbrev AlternativeFilter :=
  Entries (List Condition)

namespace AlternativeFilter

/-- Add conditions to the group of a field. -/
def extend
    (filter : AlternativeFilter)
    (field : String)
    (conditions : List Condition) :
    AlternativeFilter :=
  filter.alter field fun existing => existing.getD [] ++ conditions

/-- Add every group of another filter. -/
def extendAll
    (filter : AlternativeFilter)
    (other : AlternativeFilter) :
    AlternativeFilter :=
  other.foldl (fun merged entry => extend merged entry.1 entry.2) filter

/-- A filter from a mapping of fields to what is asked of them. -/
def ofMembers
    (members : Entries Json) :
    AlternativeFilter :=
  members.foldl
    (fun filter member =>
      extend filter member.1 (FieldFilter.ofJson member.2).toConditions) []

end AlternativeFilter

end PolyQuery
