namespace PolyQuery

/-!
# Dialects of SQL

Where the three dialects differ: the quoting of identifiers, the form of
placeholders, the clauses that only one of them knows, and the stand-in for
"no limit" that an offset without a limit needs.
-/

/-- A dialect of SQL. -/
inductive Dialect where
  | sqlite
  | postgres
  | mysql
  deriving DecidableEq, Repr

namespace Dialect

/-- The name of a dialect. -/
def name : Dialect → String
  | .sqlite => "sqlite"
  | .postgres => "postgres"
  | .mysql => "mysql"

/-- The dialect with exactly a name. -/
def ofName? : String → Option Dialect
  | "sqlite" => some .sqlite
  | "postgres" => some .postgres
  | "mysql" => some .mysql
  | _ => none

/--
The dialect that a name or one of its aliases calls, in any letter case.

Folding the ASCII letters is enough: no other character lowers to a
letter of these names.
-/
def parse?
    (name : String) :
    Option Dialect :=
  match name.map Char.toLower with
  | "sqlite" => some .sqlite
  | "sqlite3" => some .sqlite
  | "postgres" => some .postgres
  | "postgresql" => some .postgres
  | "pg" => some .postgres
  | "mysql" => some .mysql
  | "mariadb" => some .mysql
  | _ => none

/-- The character around an identifier. -/
def quoteMark : Dialect → Char
  | .sqlite => '\x22'
  | .postgres => '\x22'
  | .mysql => '\x60'

/-- The characters of a name with every quote character written twice. -/
def doubled
    (mark : Char)
    (characters : List Char) :
    List Char :=
  characters.flatMap fun character =>
    if character = mark then [mark, mark] else [character]

section Doubled

variable {mark character : Char}

@[simp] theorem doubled_nil :
    doubled mark [] = [] :=
  rfl

@[simp] theorem doubled_cons_mark
    (rest : List Char) :
    doubled mark (mark :: rest) = mark :: mark :: doubled mark rest := by
  simp [doubled]

theorem doubled_cons_of_ne
    (notMark : character ≠ mark)
    (rest : List Char) :
    doubled mark (character :: rest) = character :: doubled mark rest := by
  simp [doubled, notMark]

end Doubled

/-- A quoted identifier. -/
def quote
    (dialect : Dialect)
    (name : String) :
    String :=
  let mark := dialect.quoteMark
  String.ofList ([mark] ++ doubled mark name.toList ++ [mark])

/--
The placeholder of the parameter bound under a name at a
position counted from one.
-/
def placeholder
    (dialect : Dialect)
    (name : String)
    (position : Nat) :
    String :=
  match dialect with
  | .sqlite => ":" ++ name
  | .postgres => "$" ++ toString position
  | .mysql => "%(" ++ name ++ ")s"

/-- Whether there is an operator for patterns that ignores letter case. -/
def hasCaseBlindLike : Dialect → Bool
  | .postgres => true
  | _ => false

/-- Whether rows can be told apart by some of their columns. -/
def hasDistinctOn : Dialect → Bool
  | .postgres => true
  | _ => false

/-- The clause that limits and shifts the rows of a result. -/
def limitClause?
    (dialect : Dialect)
    (limit : Option Nat)
    (offset : Option Nat) :
    Option String :=
  match limit, offset with
  | none, none => none
  | some limit, none => some ("LIMIT " ++ toString limit)
  | some limit, some offset =>
      some ("LIMIT " ++ toString limit ++ " OFFSET " ++ toString offset)
  | none, some offset =>
      match dialect with
      | .sqlite => some ("LIMIT -1 OFFSET " ++ toString offset)
      | .postgres => some ("OFFSET " ++ toString offset)
      | .mysql => some ("LIMIT 18446744073709551615 OFFSET " ++ toString offset)

end Dialect

end PolyQuery
