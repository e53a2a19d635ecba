import PolyQuery.Sql.Binding
import PolyQuery.Json.Printer

namespace PolyQuery

/-!
# Reports

The text that the program writes: headings, blocks of code, named values and
items.
-/

namespace Report

/-- A bound value as it is shown: strings in quotes, structures as JSON. -/
def valueText : Json → String
  | .string value => "'" ++ value ++ "'"
  | .null => "NULL"
  | value => value.text

/-- A line. -/
def line
    (text : String) :
    String :=
  text ++ "\n"

/-- A heading with a rule of its length. -/
def heading
    (title : String) :
    String :=
  "\n" ++ line title ++ line (String.ofList (List.replicate title.length '─'))

/-- A named value. -/
def namedValue
    (name : String)
    (value : String) :
    String :=
  line ("  " ++ name ++ ": " ++ value)

/-- An item. -/
def item
    (text : String) :
    String :=
  line ("  • " ++ text)

/--
Lines of a text: what stands between line feeds, without a
carriage return at the end.
-/
def linesFrom :
    List Char →
    List Char →
    List String
  | [], [] => []
  | current, [] => [String.ofList current.reverse]
  | current, '\n' :: rest =>
      let ended :=
        match current with
        | '\r' :: earlier => earlier
        | _ => current
      String.ofList ended.reverse :: linesFrom [] rest
  | current, character :: rest => linesFrom (character :: current) rest

/-- A block of code in a language. -/
def codeBlock
    (code : String)
    (language : String) :
    String :=
  "\n" ++ line ("```" ++ language) ++
    String.join
      ((linesFrom [] code.toList).map fun text => line ("  " ++ text)) ++
    line "```" ++ "\n"

/-- The values of a payload. -/
def payload
    (values : Document) :
    String :=
  if values.isEmpty then
    item "(no parameters)"
  else
    String.join (values.map fun entry => namedValue entry.1 (valueText entry.2))

/-- The payloads of a statement, numbered if there is more than one. -/
def payloadsFrom
    (numbered : Bool) :
    Nat →
    List Document →
    String
  | _, [] => ""
  | row, values :: rest =>
      (if numbered then item ("row " ++ toString row) else "") ++
        payload values ++ payloadsFrom numbered (row + 1) rest

/-- A statement under a title. -/
def statement
    (title : String)
    (rendered : Sql.Rendered) :
    String :=
  let payloads := rendered.params.payloads
  heading title ++ codeBlock rendered.sql "sql" ++
    payloadsFrom (1 < payloads.length) 1 payloads

end Report

end PolyQuery
