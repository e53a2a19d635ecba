import PolyQuery.Json.Printer
import PolyQuery.QueryError
import PolyQuery.Text.Hex

namespace PolyQuery

/-!
# Document identifiers

An identifier is twelve bytes, written as twenty-four hexadecimal digits. In a
stored document it is the object `$oid` with the lower-case digits; the caller
sees the digits alone. A codec leads from the caller's form to the stored form
and back.
-/

/-- Twelve bytes as hexadecimal digits. -/
structure ObjectId where
  digits : List HexDigit
  length_eq : digits.length = 24
  deriving DecidableEq

namespace ObjectId

/-- The identifier that a number below `16 ^ 24` stands for. -/
def ofNat
    (value : Nat) :
    ObjectId :=
  {
    digits := HexDigit.ofNat 24 value
    length_eq := HexDigit.length_ofNat 24 value
  }

/--
The identifier that exactly twenty-four hexadecimal digits of
either case stand for.
-/
def ofText?
    (text : String) :
    Option ObjectId :=
  match text.toList.mapM HexDigit.ofChar? with
  | some digits =>
      if length_eq : digits.length = 24 then
        some {
          digits := digits
          length_eq := length_eq
        }
      else
        none
  | none => none

/-- The digits in lower case. -/
def hex
    (identifier : ObjectId) :
    String :=
  HexDigit.render identifier.digits

/-- The stored form. -/
def toJson
    (identifier : ObjectId) :
    Json :=
  .object [("$oid", .string identifier.hex)]

/-- The identifier of a stored form. -/
def ofJson? : Json → Option ObjectId
  | .object [("$oid", .string digits)] => ofText? digits
  | _ => none

/-- Order by bytes. -/
def order
    (left : ObjectId)
    (right : ObjectId) :
    Ordering :=
  compare (HexDigit.toNat left.digits) (HexDigit.toNat right.digits)

end ObjectId

/-- The way from the caller's identifiers to the store's and back. -/
structure IdentifierCodec where
  encode : Json → Except QueryError Json
  decode : Json → Json

namespace ObjectId

/-- Stored form of a caller's identifier; null stays null. -/
def encode : Json → Except QueryError Json
  | .null => .ok .null
  | .string text =>
      match ofText? text with
      | some identifier => .ok identifier.toJson
      | none => .error (.invalidIdentifier text)
  | other =>
      match ofJson? other with
      | some identifier => .ok identifier.toJson
      | none => .error (.invalidIdentifier other.text)

/-- The caller's form of a stored identifier; any other value stays as it is. -/
def decode
    (value : Json) :
    Json :=
  match ofJson? value with
  | some identifier => .string identifier.hex
  | none => value

/-- The codec of hexadecimal identifiers. -/
def codec : IdentifierCodec :=
  {
    encode := encode
    decode := decode
  }

end ObjectId

end PolyQuery
