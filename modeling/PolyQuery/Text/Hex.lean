namespace PolyQuery

/-!
# Hexadecimal digits

A digit is a number below sixteen. It is written in lower case and read in
either case, so reading a written digit gives it back and writing a read digit
lowers its case.
-/

/-- One hexadecimal digit. -/
abbrev HexDigit :=
  Fin 16

namespace HexDigit

/-- The lower-case character of a digit. -/
def toChar
    (digit : HexDigit) :
    Char :=
  if digit.val < 10 then
    Char.ofNat (48 + digit.val)
  else
    Char.ofNat (87 + digit.val)

/-- The digit that a character stands for, in either case. -/
def ofChar?
    (character : Char) :
    Option HexDigit :=
  let code := character.toNat
  if decimal : 48 ≤ code ∧ code ≤ 57 then
    some ⟨code - 48, by omega⟩
  else if lower : 97 ≤ code ∧ code ≤ 102 then
    some ⟨code - 87, by omega⟩
  else if upper : 65 ≤ code ∧ code ≤ 70 then
    some ⟨code - 55, by omega⟩
  else
    none

/-- The last `count` hexadecimal digits of a number, most significant first. -/
def ofNat :
    Nat →
    Nat →
    List HexDigit
  | 0, _ => []
  | count + 1, value =>
      ofNat count (value / 16) ++ [⟨value % 16, Nat.mod_lt _ (by decide)⟩]

/-- The number that digits stand for, most significant first. -/
def toNat
    (digits : List HexDigit) :
    Nat :=
  digits.foldl (fun total digit => 16 * total + digit.val) 0

/-- The lower-case text of digits. -/
def render
    (digits : List HexDigit) :
    String :=
  String.ofList (digits.map toChar)

@[simp] theorem length_ofNat
    (count value : Nat) :
    (ofNat count value).length = count := by
  induction count generalizing value with
  | zero => rfl
  | succ count inductionHypothesis => simp [ofNat, inductionHypothesis]

/-- A written digit reads back. -/
theorem ofChar?_toChar
    (digit : HexDigit) :
    ofChar? digit.toChar = some digit := by
  revert digit
  decide

end HexDigit

end PolyQuery
