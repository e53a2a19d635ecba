import PolyQuery.Entries
import PolyQuery.Number.Binary64

namespace PolyQuery

/-!
# JSON values

A value is null, a truth value, a number, a string, a list or an object whose
members keep their order.

A number is either an integer of 64 bits, signed or unsigned, or a finite
double. The two kinds are never equal, also where they denote the same number:
`1` is not `1.0`.
-/

/-- The least signed 64-bit integer. -/
def signedMin : Int :=
  -9223372036854775808

/-- The greatest signed 64-bit integer. -/
def signedMax : Int :=
  9223372036854775807

/-- The greatest unsigned 64-bit integer. -/
def unsignedMax : Nat :=
  18446744073709551615

/-- A JSON number: an integer or a finite double. -/
inductive Number where
  | integer (value : Int)
  | real (value : Binary64)
  deriving DecidableEq

namespace Number

/--
Integers lie between the least signed and the greatest unsigned 64-bit integer.
-/
def InRange : Number → Prop
  | .integer value => signedMin ≤ value ∧ value ≤ unsignedMax
  | .real _ => True

/-- The number as a signed 64-bit integer. -/
def signed? : Number → Option Int
  | .integer value =>
      if signedMin ≤ value ∧ value ≤ signedMax then
        some value
      else
        none
  | .real _ => none

/-- The number as an unsigned 64-bit integer. -/
def unsigned? : Number → Option Nat
  | .integer value =>
      if 0 ≤ value ∧ value ≤ unsignedMax then
        some value.toNat
      else
        none
  | .real _ => none

/-- The double nearest to the number. -/
def binary64? : Number → Option Binary64
  | .integer value => Binary64.ofInt? value
  | .real value => some value

/-- Equality of numbers of one kind. -/
def same : Number → Number → Bool
  | .integer left, .integer right => left == right
  | .real left, .real right => left.same right
  | _, _ => false

end Number

/-- A JSON value. -/
inductive Json where
  | null
  | bool (value : Bool)
  | number (value : Number)
  | string (value : String)
  | array (items : List Json)
  | object (members : List (String × Json))
  deriving Inhabited

namespace Json

/-- An integer value. -/
def ofInt
    (value : Int) :
    Json :=
  .number (.integer value)

/-- A natural number value. -/
def ofNat
    (value : Nat) :
    Json :=
  .number (.integer value)

def isNull : Json → Bool
  | .null => true
  | _ => false

def bool? : Json → Option Bool
  | .bool value => some value
  | _ => none

def string? : Json → Option String
  | .string value => some value
  | _ => none

def array? : Json → Option (List Json)
  | .array items => some items
  | _ => none

def isArray
    (value : Json) :
    Bool :=
  value.array?.isSome

def object? : Json → Option (Entries Json)
  | .object members => some members
  | _ => none

def isObject
    (value : Json) :
    Bool :=
  value.object?.isSome

/-- The value as a signed 64-bit integer. -/
def signed? : Json → Option Int
  | .number value => value.signed?
  | _ => none

/-- The value as an unsigned 64-bit integer. -/
def unsigned? : Json → Option Nat
  | .number value => value.unsigned?
  | _ => none

/-- The member of an object under a name. -/
def member?
    (value : Json)
    (key : String) :
    Option Json :=
  value.object?.bind fun members => members.get? key

mutual

/-- Equality of values; the order of an object's members does not count. -/
def same : Json → Json → Bool
  | .null, .null => true
  | .bool left, .bool right => left == right
  | .number left, .number right => left.same right
  | .string left, .string right => left == right
  | .array left, .array right => sameItems left right
  | .object left, .object right =>
      left.length == right.length && sameMembers left right
  | _, _ => false

/-- Lists are equal item by item. -/
def sameItems : List Json → List Json → Bool
  | [], [] => true
  | left :: lefts, right :: rights =>
      same left right && sameItems lefts rights
  | _, _ => false

/--
Every member of the first object stands in the second with an equal value.
-/
def sameMembers : List (String × Json) → List (String × Json) → Bool
  | [], _ => true
  | (key, left) :: rest, others =>
      (match Entries.get? others key with
        | some right => same left right
        | none => false) &&
      sameMembers rest others

end

instance : BEq Json :=
  ⟨same⟩

mutual

/-- Identity of values, the order of members included. -/
def identical : Json → Json → Bool
  | .null, .null => true
  | .bool left, .bool right => left == right
  | .number left, .number right => left == right
  | .string left, .string right => left == right
  | .array left, .array right => identicalItems left right
  | .object left, .object right => identicalMembers left right
  | _, _ => false

/-- Identity of lists of values. -/
def identicalItems : List Json → List Json → Bool
  | [], [] => true
  | left :: lefts, right :: rights =>
      identical left right && identicalItems lefts rights
  | _, _ => false

/-- Identity of members in order. -/
def identicalMembers : List (String × Json) → List (String × Json) → Bool
  | [], [] => true
  | (leftKey, left) :: lefts, (rightKey, right) :: rights =>
      leftKey == rightKey && identical left right &&
        identicalMembers lefts rights
  | _, _ => false

end

mutual

theorem identical_iff
    (left right : Json) :
    identical left right = true ↔ left = right := by
  cases left with
  | null => cases right <;> simp [identical]
  | bool => cases right <;> simp [identical]
  | number => cases right <;> simp [identical]
  | string => cases right <;> simp [identical]
  | array lefts => cases right <;> simp [identical, identicalItems_iff lefts]
  | object lefts => cases right <;> simp [identical, identicalMembers_iff lefts]

theorem identicalItems_iff
    (lefts rights : List Json) :
    identicalItems lefts rights = true ↔ lefts = rights := by
  cases lefts with
  | nil => cases rights <;> simp [identicalItems]
  | cons left lefts =>
      cases rights <;>
        simp [identicalItems, identical_iff left, identicalItems_iff lefts]

theorem identicalMembers_iff
    (lefts rights : List (String × Json)) :
    identicalMembers lefts rights = true ↔ lefts = rights := by
  match lefts, rights with
  | [], [] => simp [identicalMembers]
  | [], _ :: _ => simp [identicalMembers]
  | _ :: _, [] => simp [identicalMembers]
  | (leftKey, left) :: lefts, (rightKey, right) :: rights =>
      simp [identicalMembers, identical_iff left, identicalMembers_iff lefts,
        and_assoc]

end

instance : DecidableEq Json := fun left right =>
  decidable_of_iff _ (identical_iff left right)

mutual

/--
Merge repeated names in every object: the first mention places a member, the
last one sets its value.
-/
def collapse : Json → Json
  | .array items => .array (collapseItems items)
  | .object members => .object (Entries.ofList (collapseMembers members))
  | value => value

/-- Merge repeated names in every item. -/
def collapseItems : List Json → List Json
  | [] => []
  | item :: rest => collapse item :: collapseItems rest

/-- Merge repeated names inside every member. -/
def collapseMembers : List (String × Json) → List (String × Json)
  | [] => []
  | (key, value) :: rest => (key, collapse value) :: collapseMembers rest

end

end Json

/-- A document or a row: named values in order. -/
abbrev Document :=
  Entries Json

end PolyQuery
