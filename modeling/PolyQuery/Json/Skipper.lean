import PolyQuery.Text.Hex

namespace PolyQuery

/-!
# Skipping JSON text

Each function drops one construct from the front of a text and answers the
characters after it. Only the grammar counts here: a number may be out of every
range, an escape may name half of a pair, and values may nest to any depth.
-/

namespace Json.Skipper

/-- Drop blanks, tabs and line ends. -/
def blanks : List Char → List Char
  | [] => []
  | character :: rest =>
      if character = ' ' || character = '\n' || character = '\t' ||
          character = '\r' then
        blanks rest
      else
        character :: rest

/-- Drop the characters of a word if the text begins with it. -/
def word? :
    List Char →
    List Char →
    Option (List Char)
  | [], rest => some rest
  | _ :: _, [] => none
  | wanted :: word, character :: rest =>
      if wanted = character then
        word? word rest
      else
        none

/-- Whether a backslash and this character alone are an escape. -/
def isShortEscape
    (character : Char) :
    Bool :=
  ['\x22', '\\', '/', 'b', 'f', 'n', 'r', 't'].contains character

/-- Drop the rest of a string after its opening quote. -/
def string? : List Char → Option (List Char)
  | [] => none
  | '\x22' :: rest => some rest
  | '\\' :: 'u' :: first :: second :: third :: fourth :: rest =>
      if [first, second, third, fourth].all fun digit =>
          (HexDigit.ofChar? digit).isSome then
        string? rest
      else
        none
  | '\\' :: escaped :: rest =>
      if isShortEscape escaped then
        string? rest
      else
        none
  | character :: rest =>
      if character.toNat < 0x20 then
        none
      else
        string? rest

/-- Drop decimal digits, of which there must be one. -/
def digits? : List Char → Option (List Char)
  | [] => none
  | character :: rest =>
      if character.isDigit then
        some (rest.dropWhile Char.isDigit)
      else
        none

/--
Drop the integral digits of a number: no zero stands before another digit.
-/
def integral? : List Char → Option (List Char)
  | '0' :: rest => if (digits? rest).isSome then none else some rest
  | characters => digits? characters

/-- Drop the fraction of a number, if there is one. -/
def fraction? : List Char → Option (List Char)
  | '.' :: rest => digits? rest
  | characters => some characters

/-- Drop the sign of an exponent, if there is one. -/
def sign : List Char → List Char
  | '+' :: rest => rest
  | '-' :: rest => rest
  | characters => characters

/-- Drop the exponent of a number, if there is one. -/
def exponent? : List Char → Option (List Char)
  | 'e' :: rest => digits? (sign rest)
  | 'E' :: rest => digits? (sign rest)
  | characters => some characters

/-- Drop a number after its sign. -/
def magnitude?
    (characters : List Char) :
    Option (List Char) := do
  exponent? (← fraction? (← integral? characters))

/-- Drop a value that is no container. -/
def scalar? : List Char → Option (List Char)
  | 'n' :: rest => word? ['u', 'l', 'l'] rest
  | 't' :: rest => word? ['r', 'u', 'e'] rest
  | 'f' :: rest => word? ['a', 'l', 's', 'e'] rest
  | '\x22' :: rest => string? rest
  | '-' :: rest => magnitude? rest
  | characters => magnitude? characters

/-- A container whose end is still to come. -/
inductive Container where
  | array
  | object
  deriving DecidableEq, Repr

/-- What stands next in a value that is being skipped. -/
inductive Expected where
  | value
  /-- The first element of the innermost container, or its end. -/
  | content
  /-- The name of a member, with its colon and its value. -/
  | member
  /-- A comma or the end of the innermost container. -/
  | continuation
  deriving DecidableEq, Repr

/-- What an element of a container begins with. -/
def Container.element : Container → Expected
  | .array => .value
  | .object => .member

/-- The characters after the end of a container, if it ends here. -/
def Container.close? :
    Container →
    List Char →
    Option (List Char)
  | .array, ']' :: rest => some rest
  | .object, '\x7d' :: rest => some rest
  | _, _ => none

/-- Drop the name of a member and its colon. -/
def name? : List Char → Option (List Char)
  | '\x22' :: rest => (string? rest).bind fun rest => word? [':'] (blanks rest)
  | _ => none

/--
Drop what is still to come of a value, inside the containers that are open.

`fuel` bounds the steps; two for each character and two more are enough.
-/
def rest? :
    Nat →
    Expected →
    List Container →
    List Char →
    Option (List Char)
  | 0, _, _, _ => none
  | fuel + 1, .value, opened, characters =>
      match blanks characters with
      | '[' :: rest => rest? fuel .content (.array :: opened) rest
      | '\x7b' :: rest => rest? fuel .content (.object :: opened) rest
      | start =>
          match scalar? start with
          | some rest => rest? fuel .continuation opened rest
          | none => none
  | fuel + 1, .member, opened, characters =>
      match name? (blanks characters) with
      | some rest => rest? fuel .value opened rest
      | none => none
  | _ + 1, _, [], characters => some characters
  | fuel + 1, .content, container :: outer, characters =>
      match container.close? (blanks characters) with
      | some rest => rest? fuel .continuation outer rest
      | none => rest? fuel container.element (container :: outer) characters
  | fuel + 1, .continuation, container :: outer, characters =>
      match container.close? (blanks characters) with
      | some rest => rest? fuel .continuation outer rest
      | none =>
          match word? [','] (blanks characters) with
          | some rest => rest? fuel container.element (container :: outer) rest
          | none => none

/-- Drop a value; `fuel` is as for its parts. -/
def value?
    (fuel : Nat)
    (characters : List Char) :
    Option (List Char) :=
  rest? fuel .value [] characters

end Json.Skipper

end PolyQuery
