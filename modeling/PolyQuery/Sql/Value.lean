import PolyQuery.Json.Printer
import PolyQuery.Text.Utf8

namespace PolyQuery

/-!
# Column values

The values that a relational driver binds and reads. Structured values are
bound as their JSON text, and numbers that are no signed 64-bit integers as
doubles.
-/

namespace Sql

/-- A bound value. -/
inductive Value where
  | null
  | integer (value : Int)
  | real (value : Binary64)
  | text (value : String)
  | bool (value : Bool)

namespace Value

/-- The value bound for a JSON value. -/
def ofJson : Json → Value
  | .null => .null
  | .bool value => .bool value
  | .number number =>
      match number.signed? with
      | some value => .integer value
      | none => .real (number.binary64?.getD (Binary64.zero false))
  | .string value => .text value
  | structured => .text structured.text

/-- The kind of a bound value. -/
def kind : Value → String
  | .null => "null"
  | .integer _ => "integer"
  | .real _ => "real"
  | .text _ => "text"
  | .bool _ => "bool"

/-- A bound value as a JSON value. -/
def toJson : Value → Json
  | .null => .null
  | .integer value => .ofInt value
  | .real value => .number (.real value)
  | .text value => .string value
  | .bool value => .bool value

end Value

/-- A column value as it is read. -/
inductive Stored where
  | null
  | integer (value : Int)
  | real (value : Binary64)
  | text (bytes : List Nat)
  | blob (bytes : List Nat)

/--
The JSON value of a column value: bad text is replaced and
blobs are hexadecimal.
-/
def Stored.toJson : Stored → Json
  | .null => .null
  | .integer value => .ofInt value
  | .real value => .number (.real value)
  | .text bytes => .string (Utf8.decode bytes)
  | .blob bytes => .string (HexDigit.render (bytes.flatMap (HexDigit.ofNat 2)))

end Sql

end PolyQuery
