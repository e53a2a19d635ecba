namespace PolyQuery

/-!
# Lossy UTF-8

Text from bytes that may not be well-formed UTF-8. Every maximal bad run, the
longest beginning of a well-formed character that is not completed or a single
byte that begins none, is replaced by one U+FFFD.
-/

namespace Utf8

/-- The character put in place of bad bytes. -/
def replacement : Char :=
  Char.ofNat 0xFFFD

/--
How a lead byte opens a character: bytes to follow, its payload, and the range
of the next byte.
-/
structure Lead where
  following : Nat
  payload : Nat
  low : Nat
  high : Nat

/--
The opening that a byte makes, if it can begin a character of two bytes or more.
-/
def lead?
    (byte : Nat) :
    Option Lead :=
  if 0xC2 ≤ byte ∧ byte ≤ 0xDF then
    some ⟨1, byte - 0xC0, 0x80, 0xBF⟩
  else if byte = 0xE0 then
    some ⟨2, 0, 0xA0, 0xBF⟩
  else if byte = 0xED then
    some ⟨2, 13, 0x80, 0x9F⟩
  else if 0xE1 ≤ byte ∧ byte ≤ 0xEF then
    some ⟨2, byte - 0xE0, 0x80, 0xBF⟩
  else if byte = 0xF0 then
    some ⟨3, 0, 0x90, 0xBF⟩
  else if 0xF1 ≤ byte ∧ byte ≤ 0xF3 then
    some ⟨3, byte - 0xF0, 0x80, 0xBF⟩
  else if byte = 0xF4 then
    some ⟨3, 4, 0x80, 0x8F⟩
  else
    none

/--
A character under way: bytes still to come, the bits so far and the
range of the next byte.
-/
structure Pending where
  following : Nat
  bits : Nat
  low : Nat
  high : Nat

/--
Begin a character with a byte, giving what is complete and what is under way.
-/
def start
    (byte : Nat) :
    List Char × Option Pending :=
  if byte < 0x80 then
    ([Char.ofNat byte], none)
  else
    match lead? byte with
    | some lead =>
        ([], some ⟨lead.following, lead.payload, lead.low, lead.high⟩)
    | none => ([replacement], none)

/--
Read bytes with a character under way; an unfinished one is replaced
where it breaks off.
-/
def decodeFrom :
    Option Pending →
    List Nat →
    List Char
  | none, [] => []
  | some _, [] => [replacement]
  | none, byte :: rest =>
      let (complete, pending) := start byte
      complete ++ decodeFrom pending rest
  | some pending, byte :: rest =>
      if pending.low ≤ byte ∧ byte ≤ pending.high then
        let bits := pending.bits * 64 + (byte - 0x80)
        if pending.following = 1 then
          Char.ofNat bits :: decodeFrom none rest
        else
          decodeFrom (some ⟨pending.following - 1, bits, 0x80, 0xBF⟩) rest
      else
        let (complete, restarted) := start byte
        replacement :: complete ++ decodeFrom restarted rest

/-- The text of bytes, bad runs replaced. -/
def decode
    (bytes : List Nat) :
    String :=
  String.ofList (decodeFrom none bytes)

end Utf8

end PolyQuery
