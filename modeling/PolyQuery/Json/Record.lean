import PolyQuery.Json.Basic

namespace PolyQuery

/-!
# Records

A record has named fields in a fixed order. It is read from an object, where a
field must not be named twice and unknown names do not count, or from a list
that gives its fields in order and may leave out the last ones.

A choice among names is read from a name alone or from an object with that name
as its only member.
-/

namespace Json

/-- Whether a name is the name of more than one member. -/
def isRepeated
    (members : List (String × Json))
    (key : String) :
    Bool :=
  1 < members.countP fun member => member.1 = key

/-- The fields that a value gives for a record with the named fields. -/
def record?
    (names : List String) :
    Json →
    Option (Entries Json)
  | .object members =>
      if names.any (isRepeated members) then
        none
      else
        some members
  | .array items =>
      if names.length < items.length then
        none
      else
        some (names.zip items)
  | _ => none

/-- The name that a choice gives, with what it carries. -/
def choice? : Json → Option (String × Option Json)
  | .string name => some (name, none)
  | .object [(name, carried)] => some (name, some carried)
  | _ => none

/-- The name of a choice that carries nothing. -/
def plainChoice?
    (value : Json) :
    Option String :=
  match value.choice? with
  | some (name, none) => some name
  | some (name, some .null) => some name
  | _ => none

/-- An object read as a mapping, repeated names merged. -/
def mapping?
    (value : Json) :
    Option (Entries Json) :=
  value.collapse.object?

/-- A list whose every item is read. -/
def list?
    {α : Type}
    (read : Json → Option α)
    (value : Json) :
    Option (List α) :=
  value.array?.bind fun items => items.mapM read

/-- Null read as absent, any other value by `read`. -/
def nullable?
    {α : Type}
    (read : Json → Option α) :
    Json →
    Option (Option α)
  | .null => some none
  | value => (read value).map some

end Json

namespace Record

/--
The member of a part of a record, which is written only if its value is present.
-/
def member
    (name : String)
    (value : Option Json) :
    Entries Json :=
  (value.map fun value => (name, value)).toList

variable {α : Type}

/-- A field that must be given. -/
def required?
    (fields : Entries Json)
    (name : String)
    (read : Json → Option α) :
    Option α :=
  (fields.get? name).bind read

/-- A field with a value to take when it is not given. -/
def withDefault?
    (fields : Entries Json)
    (name : String)
    (absent : α)
    (read : Json → Option α) :
    Option α :=
  match fields.get? name with
  | none => some absent
  | some value => read value

/-- A field that may be absent or null. -/
def optional?
    (fields : Entries Json)
    (name : String)
    (read : Json → Option α) :
    Option (Option α) :=
  withDefault? fields name none (Json.nullable? read)

end Record

end PolyQuery
