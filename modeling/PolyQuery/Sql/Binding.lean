import PolyQuery.Query.Basic
import PolyQuery.Sql.Compile
import PolyQuery.Sql.Render

namespace PolyQuery

/-!
# Named parameters

Every operand of a statement is bound under a name of its own. An operand of a
filter takes the name of its column and a number, an assigned value the name of
its column, and the identifier of a batch row the name of its column with
`_match`. Characters that a driver cannot bind, all outside letters, digits and
the underscore of ASCII, become underscores; a name without characters becomes
`p`. A name that is taken goes on to the next free number.

The payload of a statement holds the values by name in the order of their
placeholders: one payload, or one for each row of a batch.
-/

namespace Sql

/-- Whether a character may stand in the name of a parameter. -/
def isBindable
    (character : Char) :
    Bool :=
  character.isAlphanum || character = '_'

/-- A name made fit for a parameter. -/
def bindSafe
    (name : String) :
    String :=
  if name.isEmpty then
    "p"
  else
    name.map fun character => if isBindable character then character else '_'

/-- Names handed out so far, and the last number tried for each base. -/
structure Binder where
  used : List String
  counters : Entries Nat

namespace Binder

/-- No name handed out. -/
def empty : Binder :=
  {
    used := []
    counters := []
  }

/-- A base with a number. -/
def numberedName
    (base : String)
    (number : Nat) :
    String :=
  base ++ "_" ++ toString number

/--
The first number from a start on that gives a free name.

`fuel` bounds the names tried; one more than the names in use is enough.
-/
def firstFree
    (used : List String)
    (base : String) :
    Nat →
    Nat →
    Nat
  | 0, number => number
  | fuel + 1, number =>
      if used.contains (numberedName base number) then
        firstFree used base fuel (number + 1)
      else
        number

/-- Hand out the next free number of a base that is safe already. -/
def number
    (binder : Binder)
    (base : String) :
    String × Binder :=
  let last := (binder.counters.get? base).getD 0
  let next := firstFree binder.used base (binder.used.length + 1) (last + 1)
  let name := numberedName base next
  (name, {
    used := binder.used ++ [name]
    counters := binder.counters.insert base next
  })

/-- Hand out a name. -/
def bind
    (binder : Binder) :
    Naming →
    String × Binder
  | .exact name =>
      let safe := bindSafe name
      if binder.used.contains safe then
        binder.number safe
      else
        (safe, { binder with used := binder.used ++ [safe] })
  | .numbered base => binder.number (bindSafe base)

end Binder

/-- Text with the parameters that its placeholders stand for, in order. -/
structure BoundText where
  texts : List String
  slots : List (String × Slot)

/-- Name the operands of pieces from left to right. -/
def bindPieces
    (dialect : Dialect) :
    Binder →
    List Piece →
    BoundText
  | _, [] => ⟨[], []⟩
  | binder, .operand naming slot :: rest =>
      let (name, next) := binder.bind naming
      let bound := bindPieces dialect next rest
      ⟨dialect.placeholder name next.used.length :: bound.texts,
        (name, slot) :: bound.slots⟩
  | binder, .word word :: rest =>
      let bound := bindPieces dialect binder rest
      ⟨word.text :: bound.texts, bound.slots⟩
  | binder, .identifier name :: rest =>
      let bound := bindPieces dialect binder rest
      ⟨dialect.quote name :: bound.texts, bound.slots⟩
  | binder, .raw sql :: rest =>
      let bound := bindPieces dialect binder rest
      ⟨sql :: bound.texts, bound.slots⟩

/-- The values of a statement's parameters: one payload, or one for each row. -/
inductive Params where
  | single (payload : Document)
  | batch (payloads : List Document)

namespace Params

/-- The payloads in order. -/
def payloads : Params → List Document
  | .single payload => [payload]
  | .batch payloads => payloads

/-- The payload as an object, the payloads of a batch as a list of them. -/
def toJson : Params → Json
  | .single payload => .object payload
  | .batch payloads => .array (payloads.map Json.object)

end Params

/-- A statement as text and parameters. -/
structure Rendered where
  sql : String
  params : Params

/-- A statement's text and parameters as a JSON value. -/
def Rendered.toJson
    (rendered : Rendered) :
    Json :=
  .object [("sql", .string rendered.sql), ("params", rendered.params.toJson)]

/-- The value of a slot for a row and its identifier. -/
def Slot.value
    (row : List Json)
    (key : Option Json) :
    Slot →
    Json
  | .fixed value => value
  | .column index => row[index]?.getD .null
  | .rowKey => key.getD .null

/-- The values of bound parameters for a row and its identifier. -/
def payload
    (slots : List (String × Slot))
    (row : List Json)
    (key : Option Json) :
    Document :=
  slots.map fun bound => (bound.1, bound.2.value row key)

/-- The payloads of a statement whose parameters are bound. -/
def Statement.params
    (slots : List (String × Slot)) :
    Statement →
    Params
  | .select _ => .single (payload slots [] none)
  | .delete _ => .single (payload slots [] none)
  | .insert statement =>
      match statement.rows with
      | [row] => .single (payload slots row none)
      | rows => .batch (rows.map fun row => payload slots row none)
  | .update statement =>
      match statement.rowKey with
      | some key =>
          .batch (List.zipWith (fun row value => payload slots row (some value))
            statement.rows key.values)
      | none => .single (payload slots (statement.rows.head?.getD []) none)

/-- The text and parameters of a statement in a dialect. -/
def Statement.render
    (dialect : Dialect)
    (statement : Statement) :
    Rendered :=
  let bound := bindPieces dialect .empty (statement.pieces dialect)
  {
    sql := String.join bound.texts
    params := statement.params bound.slots
  }

end Sql

namespace Query

/-- The SQL of a query. -/
def toSql
    (query : Query)
    (dialect : Dialect) :
    Except QueryError Sql.Rendered :=
  (Sql.compile query).map (Sql.Statement.render dialect)

/-- The SQL that counts the rows of a query. -/
def countSql
    (query : Query)
    (dialect : Dialect) :
    Except QueryError Sql.Rendered :=
  (Sql.compileCount query).map (Sql.Statement.render dialect)

end Query

end PolyQuery
