import PolyQuery.Json.Basic
import PolyQuery.Number.Numeral
import PolyQuery.Text.Hex

namespace PolyQuery

/-!
# JSON text

Compact text has no blanks. Pretty text indents by two blanks, puts one after a
colon and writes empty containers as `[]` and an empty pair of braces. A string
escapes the quote, the backslash and the characters below U+0020, all else
stands for itself.
-/

namespace Json

/-- A character inside a quoted string. -/
def escape
    (character : Char) :
    List Char :=
  match character with
  | '\x22' => ['\\', '\x22']
  | '\\' => ['\\', '\\']
  | '\x08' => ['\\', 'b']
  | '\x0c' => ['\\', 'f']
  | '\n' => ['\\', 'n']
  | '\r' => ['\\', 'r']
  | '\t' => ['\\', 't']
  | other =>
      if other.toNat < 0x20 then
        ['\\', 'u'] ++ (HexDigit.ofNat 4 other.toNat).map HexDigit.toChar
      else
        [other]

/-- A quoted string. -/
def quote
    (text : String) :
    String :=
  "\"" ++ String.ofList (text.toList.flatMap escape) ++ "\""

end Json

/--
The text of a number: integers in decimal, doubles as their shortest numeral.
-/
def Number.text : Number → String
  | .integer value => toString value
  | .real value => value.numeral

namespace Json

mutual

/-- The compact text of a value. -/
def text : Json → String
  | .null => "null"
  | .bool value => if value then "true" else "false"
  | .number value => value.text
  | .string value => quote value
  | .array items => "[" ++ ",".intercalate (itemTexts items) ++ "]"
  | .object members => "\x7b" ++ ",".intercalate (memberTexts members) ++ "\x7d"

/-- The compact texts of the items of a list. -/
def itemTexts : List Json → List String
  | [] => []
  | item :: rest => text item :: itemTexts rest

/-- The compact texts of the members of an object. -/
def memberTexts : List (String × Json) → List String
  | [] => []
  | (key, value) :: rest => (quote key ++ ":" ++ text value) :: memberTexts rest

end

/-- A new line indented to a depth. -/
def lineBreak
    (depth : Nat) :
    String :=
  "\n" ++ String.ofList (List.replicate (2 * depth) ' ')

/-- Pretty elements between brackets, each on a line of its own. -/
def block
    (opening : String)
    (closing : String)
    (depth : Nat)
    (elements : List String) :
    String :=
  match elements with
  | [] => opening ++ closing
  | _ =>
      opening ++ lineBreak (depth + 1) ++
        ("," ++ lineBreak (depth + 1)).intercalate elements ++
        lineBreak depth ++ closing

mutual

/-- The pretty text of a value that starts at a depth. -/
def prettyAt : Nat → Json → String
  | depth, .array items => block "[" "]" depth (prettyItems (depth + 1) items)
  | depth, .object members =>
      block "\x7b" "\x7d" depth (prettyMembers (depth + 1) members)
  | _, .null => "null"
  | _, .bool value => if value then "true" else "false"
  | _, .number value => value.text
  | _, .string value => quote value

/-- The pretty texts of the items of a list. -/
def prettyItems : Nat → List Json → List String
  | _, [] => []
  | depth, item :: rest => prettyAt depth item :: prettyItems depth rest

/-- The pretty texts of the members of an object. -/
def prettyMembers : Nat → List (String × Json) → List String
  | _, [] => []
  | depth, (key, value) :: rest =>
      (quote key ++ ": " ++ prettyAt depth value) :: prettyMembers depth rest

end

/-- The pretty text of a value. -/
def pretty
    (value : Json) :
    String :=
  prettyAt 0 value

end Json

end PolyQuery
