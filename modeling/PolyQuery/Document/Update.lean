import PolyQuery.Document.Matching
import PolyQuery.Supply

namespace PolyQuery

/-!
# Update documents

An update document maps operators to the paths they change. Operators are
applied in order, and the paths of each in order. A change that fails leaves
what was changed before it.
-/

namespace Update

/-- An error about the operand of an operator at a path. -/
def invalid
    (path : String)
    (operator : String)
    (reason : String) :
    QueryError :=
  .invalidOperand path operator reason

/--
How two numbers are combined: exactly as signed integers, or rounded as doubles.
-/
structure Arithmetic where
  exact : Int → Int → Int
  rounded? : Binary64 → Binary64 → Option Binary64

/-- Addition. -/
def addition : Arithmetic :=
  {
    exact := fun left right => left + right
    rounded? := Binary64.add?
  }

/-- Multiplication. -/
def multiplication : Arithmetic :=
  {
    exact := fun left right => left * right
    rounded? := Binary64.mul?
  }

/-- The exact result for two signed integers, if it is one itself. -/
def exactResult?
    (arithmetic : Arithmetic)
    (left : Number)
    (right : Number) :
    Option Int :=
  match left.signed?, right.signed? with
  | some left, some right =>
      let result := arithmetic.exact left right
      if signedMin ≤ result ∧ result ≤ signedMax then
        some result
      else
        none
  | _, _ => none

/-- The number that an operator makes of the present one and its operand. -/
def combine
    (arithmetic : Arithmetic)
    (path : String)
    (operator : String)
    (present : Json)
    (operand : Json) :
    Except QueryError Json :=
  match present, operand with
  | .number left, .number right =>
      match exactResult? arithmetic left right with
      | some result => .ok (.ofInt result)
      | none =>
          match left.binary64?, right.binary64? with
          | some left, some right =>
              match arithmetic.rounded? left right with
              | some result => .ok (.number (.real result))
              | none =>
                  .error (invalid path operator "result is not a finite number")
          | _, _ => .error (invalid path operator "expected numbers")
  | _, _ => .error (invalid path operator "expected numbers")

/-- The list at a path; a missing or null one is empty. -/
def listAt
    (document : Document)
    (path : String)
    (operator : String) :
    Except QueryError (List Json) :=
  match document.lookup? path with
  | none => .ok []
  | some .null => .ok []
  | some (.array items) => .ok items
  | some _ => .error (invalid path operator "field is not a list")

/-- Change the list at a path. -/
def changeList
    (document : Document)
    (path : String)
    (operator : String)
    (change : List Json → List Json) :
    Except QueryError Document :=
  (listAt document path operator).map fun items =>
    document.setPath path (.array (change items))

/-- Change the list at a path if there is anything at it. -/
def changeListIfPresent
    (document : Document)
    (path : String)
    (operator : String)
    (change : List Json → List Json) :
    Except QueryError Document :=
  if (document.lookup? path).isSome then
    changeList document path operator change
  else
    .ok document

/-- The items that an operand adds: those of its `$each`, or itself. -/
def addedItems
    (operand : Json) :
    List Json :=
  match operand.member? "$each" with
  | some (.array items) => items
  | _ => [operand]

/-- Whether a list has an item equal to a value. -/
def hasItem
    (items : List Json)
    (value : Json) :
    Bool :=
  items.any fun item => item.same value

/-- Add the items that a list does not have yet. -/
def addMissing
    (items : List Json)
    (added : List Json) :
    List Json :=
  added.foldl
    (fun items item => if hasItem items item then items else items ++ [item])
    items

/-- Keep the items that equal none of some values. -/
def without
    (items : List Json)
    (removed : List Json) :
    List Json :=
  items.filter fun item => !hasItem removed item

/--
Write the operand if there is no value yet or it compares with the
present one as wanted.
-/
def replaceIf
    (document : Document)
    (path : String)
    (operand : Json)
    (wanted : Ordering) :
    Document :=
  let replace :=
    match document.lookup? path with
    | none => true
    | some present => operand.order? present = some wanted
  if replace then
    document.setPath path operand
  else
    document

/-- Move the value at a path to another one. -/
def rename
    (document : Document)
    (path : String)
    (operand : Json) :
    Except QueryError Document :=
  match operand with
  | .string target =>
      match document.removePath? path with
      | some (value, rest) => .ok (rest.setPath target value)
      | none => .ok document
  | _ => .error (invalid path "$rename" "expected the new field name")

/-- One change that needs no clock. -/
def change
    (inserting : Bool)
    (operator : String)
    (path : String)
    (operand : Json)
    (document : Document) :
    Except QueryError Document :=
  let number := fun arithmetic =>
    let present := (document.lookup? path).getD (.ofInt 0)
    (combine arithmetic path operator present operand).map fun result =>
      document.setPath path result
  match operator with
  | "$set" => .ok (document.setPath path operand)
  | "$setOnInsert" =>
      .ok (if inserting then document.setPath path operand else document)
  | "$unset" =>
      match document.removePath? path with
      | some (_, rest) => .ok rest
      | none => .ok document
  | "$inc" => number addition
  | "$mul" => number multiplication
  | "$min" => .ok (replaceIf document path operand .lt)
  | "$max" => .ok (replaceIf document path operand .gt)
  | "$rename" => rename document path operand
  | "$push" =>
      changeList document path operator fun items => items ++ addedItems operand
  | "$addToSet" =>
      changeList document path operator fun items =>
        addMissing items (addedItems operand)
  | "$pull" =>
      changeListIfPresent document path operator fun items =>
        without items [operand]
  | "$pullAll" =>
      match operand with
      | .array removed =>
          changeListIfPresent document path operator fun items =>
            without items removed
      | _ => .error (invalid path operator "expected a list")
  | "$pop" =>
      changeListIfPresent document path operator fun items =>
        if operand.signed? = some (-1) then items.drop 1 else items.dropLast
  | unknown => .error (.invalidFilterOperator unknown)

/-- One change; the present time comes from a supply. -/
def changeAt
    (inserting : Bool)
    (operator : String)
    (path : String)
    (operand : Json) :
    Stateful (Document × Supply) Unit := do
  let (document, supply) ← get
  if operator = "$currentDate" then
    let (time, supply) := Supply.now.run supply
    set (document.setPath path (.string time), supply)
  else
    match change inserting operator path operand document with
    | .ok changed => set (changed, supply)
    | .error error => throw error

/-- The changes of one operator in order. -/
def applyPaths
    (inserting : Bool)
    (operator : String) :
    List (String × Json) →
    Stateful (Document × Supply) Unit
  | [] => pure ()
  | (path, operand) :: rest => do
      changeAt inserting operator path operand
      applyPaths inserting operator rest

/-- The operators of an update document in order. -/
def apply
    (inserting : Bool) :
    List (String × Json) →
    Stateful (Document × Supply) Unit
  | [] => pure ()
  | (operator, fields) :: rest => do
      match fields with
      | .object paths => applyPaths inserting operator paths
      | _ => throw (invalid operator operator "expected a document of fields")
      apply inserting rest

end Update

end PolyQuery
