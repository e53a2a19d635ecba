import PolyQuery.Json.Basic
import PolyQuery.Json.Layout
import PolyQuery.Json.Skipper
import PolyQuery.Number.Numeral

namespace PolyQuery

/-!
# Reading JSON text

A reader takes the characters that are left and answers a value with the
characters after it. Members keep their order and repeated names are kept, so
that a reader of records can refuse them; `Json.collapse` merges them.

A number without fraction and exponent that fits 64 bits is an integer, any
other number a double. A significand that no longer fits 64 bits drops its
further digits. Values nest at most 127 deep.

A layout says which members of a record count. The value of any other member is
skipped and reads as null.
-/

namespace Json.Reader

/-- Four hexadecimal digits. -/
def readUnit? : List Char → Option (Nat × List Char)
  | first :: second :: third :: fourth :: rest => do
      let digits ← [first, second, third, fourth].mapM HexDigit.ofChar?
      return (HexDigit.toNat digits, rest)
  | _ => none

/--
The character of an escape that begins after its backslash and `u`; halves
of a pair must meet.
-/
def readEscapedUnit?
    (characters : List Char) :
    Option (Char × List Char) := do
  let (high, rest) ← readUnit? characters
  if 0xD800 ≤ high ∧ high ≤ 0xDBFF then
    let rest ← Skipper.word? ['\\', 'u'] rest
    let (low, rest) ← readUnit? rest
    if 0xDC00 ≤ low ∧ low ≤ 0xDFFF then
      return (Char.ofNat (0x10000 + (high - 0xD800) * 0x400 + (low - 0xDC00)),
        rest)
    else
      none
  else if 0xDC00 ≤ high ∧ high ≤ 0xDFFF then
    none
  else
    return (Char.ofNat high, rest)

/-- The character of an escape that begins after its backslash. -/
def readEscape? : List Char → Option (Char × List Char)
  | '\x22' :: rest => some ('\x22', rest)
  | '\\' :: rest => some ('\\', rest)
  | '/' :: rest => some ('/', rest)
  | 'b' :: rest => some ('\x08', rest)
  | 'f' :: rest => some ('\x0c', rest)
  | 'n' :: rest => some ('\n', rest)
  | 'r' :: rest => some ('\r', rest)
  | 't' :: rest => some ('\t', rest)
  | 'u' :: rest => readEscapedUnit? rest
  | _ => none

/--
The rest of a string after its opening quote. `fuel` bounds the characters read.
-/
def readString? :
    Nat →
    List Char →
    List Char →
    Option (String × List Char)
  | 0, _, _ => none
  | _ + 1, _, [] => none
  | fuel + 1, reversed, character :: rest =>
      if character = '\x22' then
        some (String.ofList reversed.reverse, rest)
      else if character = '\\' then
        match readEscape? rest with
        | some (escaped, rest) => readString? fuel (escaped :: reversed) rest
        | none => none
      else if character.toNat < 0x20 then
        none
      else
        readString? fuel (character :: reversed) rest

/--
Extend a significand by the decimal digits that still fit 64 bits.

Answers the significand, the number of digits taken, the number of digits
dropped and the characters after the digits.
-/
def readDigits :
    Nat →
    Bool →
    List Char →
    Nat × Nat × Nat × List Char
  | significand, _, [] => (significand, 0, 0, [])
  | significand, full, character :: rest =>
      if character.isDigit then
        let extended := significand * 10 + (character.toNat - 48)
        if full || unsignedMax < extended then
          let (final, taken, dropped, after) := readDigits significand true rest
          (final, taken, dropped + 1, after)
        else
          let (final, taken, dropped, after) := readDigits extended false rest
          (final, taken + 1, dropped, after)
      else
        (significand, 0, 0, character :: rest)

/-- The value of an exponent part that begins after its letter. -/
def readExponent?
    (characters : List Char) :
    Option (Int × List Char) :=
  let (negative, digits) :=
    match characters with
    | '+' :: rest => (false, rest)
    | '-' :: rest => (true, rest)
    | other => (false, other)
  let written := digits.takeWhile Char.isDigit
  let rest := digits.dropWhile Char.isDigit
  if written.isEmpty then
    none
  else
    let magnitude : Nat :=
      written.foldl (fun total digit => total * 10 + (digit.toNat - 48)) 0
    some (if negative then -(magnitude : Int) else magnitude, rest)

/-- A double from its sign, significand and power of ten. -/
def finishReal?
    (negative : Bool)
    (significand : Nat)
    (exponent : Int)
    (rest : List Char) :
    Option (Number × List Char) :=
  (Binary64.ofNumeral? negative significand exponent).map fun value =>
    (.real value, rest)

/--
The exponent part, if there is one, of a number that has a
double's form already.
-/
def readScale?
    (negative : Bool)
    (significand : Nat)
    (exponent : Int) :
    List Char →
    Option (Number × List Char)
  | 'e' :: rest | 'E' :: rest => do
      let (scale, rest) ← readExponent? rest
      finishReal? negative significand (exponent + scale) rest
  | rest => finishReal? negative significand exponent rest

/-- What follows the integral digits of a number. -/
def readFraction?
    (negative : Bool)
    (significand : Nat)
    (dropped : Nat) :
    List Char →
    Option (Number × List Char)
  | '.' :: rest =>
      let (extended, taken, skipped, after) := readDigits significand false rest
      if taken = 0 ∧ skipped = 0 then
        none
      else
        readScale? negative extended ((dropped : Int) - taken) after
  | rest@('e' :: _) | rest@('E' :: _) =>
      readScale? negative significand dropped rest
  | rest =>
      if dropped ≠ 0 then
        finishReal? negative significand dropped rest
      else if negative then
        if significand = 0 ∨ signedMin.natAbs < significand then
          finishReal? true significand 0 rest
        else
          some (.integer (-(significand : Int)), rest)
      else
        some (.integer significand, rest)

/-- A number after its sign: no leading zero stands before another digit. -/
def readMagnitude?
    (negative : Bool) :
    List Char →
    Option (Number × List Char)
  | '0' :: rest =>
      match rest with
      | next :: _ =>
          if next.isDigit then
            none
          else
            readFraction? negative 0 0 rest
      | [] => readFraction? negative 0 0 rest
  | characters =>
      let (significand, taken, dropped, rest) := readDigits 0 false characters
      if taken = 0 then
        none
      else
        readFraction? negative significand dropped rest

mutual

/--
A value with at most `depth` levels of containers, as far as its layout goes.

`fuel` bounds the nesting of calls, the characters of a string and the steps of
a skipped value; four for each character of the text are enough.
-/
def readValue? :
    Nat →
    Nat →
    Layout →
    List Char →
    Option (Json × List Char)
  | 0, _, _, _ => none
  | fuel + 1, depth, layout, characters =>
      match Skipper.blanks characters with
      | [] => none
      | 'n' :: rest =>
          (Skipper.word? ['u', 'l', 'l'] rest).map fun rest => (.null, rest)
      | 't' :: rest =>
          (Skipper.word? ['r', 'u', 'e'] rest).map fun rest =>
            (.bool true, rest)
      | 'f' :: rest =>
          (Skipper.word? ['a', 'l', 's', 'e'] rest).map fun rest =>
            (.bool false, rest)
      | '\x22' :: rest =>
          (readString? fuel [] rest).map fun (value, rest) =>
            (.string value, rest)
      | '[' :: rest =>
          match depth with
          | 0 => none
          | depth + 1 =>
              match Skipper.blanks rest with
              | ']' :: rest => some (.array [], rest)
              | rest =>
                  (readItems? fuel depth layout [] rest).map
                    fun (items, rest) => (.array items, rest)
      | '\x7b' :: rest =>
          match depth with
          | 0 => none
          | depth + 1 =>
              match Skipper.blanks rest with
              | '\x7d' :: rest => some (.object [], rest)
              | rest =>
                  (readMembers? fuel depth layout [] rest).map
                    fun (members, rest) => (.object members, rest)
      | '-' :: rest =>
          (readMagnitude? true rest).map fun (value, rest) =>
            (.number value, rest)
      | rest =>
          (readMagnitude? false rest).map fun (value, rest) =>
            (.number value, rest)

/-- The items of a list that has at least one more. -/
def readItems? :
    Nat →
    Nat →
    Layout →
    List Json →
    List Char →
    Option (List Json × List Char)
  | 0, _, _, _, _ => none
  | fuel + 1, depth, layout, reversed, characters =>
      match readValue? fuel depth layout.uncons.1 characters with
      | none => none
      | some (item, rest) =>
          match Skipper.blanks rest with
          | ',' :: rest =>
              readItems? fuel depth layout.uncons.2 (item :: reversed) rest
          | ']' :: rest => some ((item :: reversed).reverse, rest)
          | _ => none

/-- The value of a member, null if the member does not count. -/
def readMember? :
    Nat →
    Nat →
    Option Layout →
    List Char →
    Option (Json × List Char)
  | 0, _, _, _ => none
  | fuel + 1, depth, some layout, characters =>
      readValue? fuel depth layout characters
  | fuel + 1, _, none, characters =>
      (Skipper.value? fuel characters).map fun rest => (.null, rest)

/-- The members of an object that has at least one more. -/
def readMembers? :
    Nat →
    Nat →
    Layout →
    List (String × Json) →
    List Char →
    Option (List (String × Json) × List Char)
  | 0, _, _, _, _ => none
  | fuel + 1, depth, layout, reversed, characters =>
      match Skipper.blanks characters with
      | '\x22' :: rest =>
          match readString? fuel [] rest with
          | none => none
          | some (key, rest) =>
              match Skipper.blanks rest with
              | ':' :: rest =>
                  match readMember? fuel depth (layout.member? key) rest with
                  | none => none
                  | some (value, rest) =>
                      match Skipper.blanks rest with
                      | ',' :: rest =>
                          readMembers? fuel depth layout
                            ((key, value) :: reversed) rest
                      | '\x7d' :: rest =>
                          some (((key, value) :: reversed).reverse, rest)
                      | _ => none
              | _ => none
      | _ => none

end

end Json.Reader

/-- How many levels of containers a text may have. -/
def Json.depthLimit : Nat :=
  127

/--
The value of a text that holds exactly one, repeated names kept.

The members that do not count in the layout are skipped and read as null.
-/
def Json.ofTextWithin?
    (layout : Json.Layout)
    (text : String) :
    Option Json :=
  let characters := text.toList
  match
    Json.Reader.readValue? (4 * characters.length + 4) Json.depthLimit layout
    characters
  with
  | some (value, rest) =>
      if (Json.Skipper.blanks rest).isEmpty then
        some value
      else
        none
  | none => none

/-- The value of a text that holds exactly one and counts as a whole. -/
def Json.ofText?
    (text : String) :
    Option Json :=
  Json.ofTextWithin? .whole text

end PolyQuery
