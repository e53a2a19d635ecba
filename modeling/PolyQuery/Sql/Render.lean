import PolyQuery.Sql.Dialect
import PolyQuery.Sql.Expr

namespace PolyQuery

/-!
# Statements as pieces of text

A statement is rendered to a list of pieces: words of SQL, identifiers still to
be quoted, fragments of the caller's and operands still to be named. Pieces
stand in the order of the text, so operands are named in the order in which
their placeholders are met.

A conjunction puts parentheses around its disjunctions and a disjunction around
its conjunctions; nothing else needs them.
-/

namespace Sql

/-- A word of SQL with the blanks around it. -/
inductive Word where
  | select
  | distinct
  | distinctOn
  | endDistinctOn
  | renamed
  | source
  | filtered
  | grouped
  | having
  | ordered
  | ascending
  | descending
  | insertInto
  | emptyRow
  | defaultRow
  | openColumns
  | openValues
  | update
  | set
  | assign
  | deleteFrom
  | dot
  | comma
  | openParen
  | closeParen
  | both
  | either
  | sign (comparison : Comparison)
  | isNull
  | isNotNull
  | inList
  | notInList
  | between
  | like
  | caseBlindLike
  | lowered
  | countAll
  | always
  | never
  | blank
  deriving DecidableEq

/-- The text of a word. -/
def Word.text : Word → String
  | .select => "SELECT "
  | .distinct => "DISTINCT "
  | .distinctOn => "DISTINCT ON ("
  | .endDistinctOn => ") "
  | .renamed => " AS "
  | .source => " FROM "
  | .filtered => " WHERE "
  | .grouped => " GROUP BY "
  | .having => " HAVING "
  | .ordered => " ORDER BY "
  | .ascending => " ASC"
  | .descending => " DESC"
  | .insertInto => "INSERT INTO "
  | .emptyRow => " () VALUES ()"
  | .defaultRow => " DEFAULT VALUES"
  | .openColumns => " ("
  | .openValues => " VALUES ("
  | .update => "UPDATE "
  | .set => " SET "
  | .assign => " = "
  | .deleteFrom => "DELETE FROM "
  | .dot => "."
  | .comma => ", "
  | .openParen => "("
  | .closeParen => ")"
  | .both => " AND "
  | .either => " OR "
  | .sign comparison => " " ++ comparison.sign ++ " "
  | .isNull => " IS NULL"
  | .isNotNull => " IS NOT NULL"
  | .inList => " IN "
  | .notInList => " NOT IN "
  | .between => " BETWEEN "
  | .like => " LIKE "
  | .caseBlindLike => " ILIKE "
  | .lowered => "lower"
  | .countAll => "count(*)"
  | .always => "1 = 1"
  | .never => "1 = 0"
  | .blank => " "

/-- Where a bound parameter takes its value from. -/
inductive Slot where
  /-- A value of the statement's own. -/
  | fixed (value : Json)
  /-- A column of the row that is written. -/
  | column (index : Nat)
  /-- The identifier of the row that is written. -/
  | rowKey

/-- How a parameter is named. -/
inductive Naming where
  /-- By a name itself as long as it is free. -/
  | exact (name : String)
  /-- By a name and a number. -/
  | numbered (base : String)

/-- A piece of a statement. -/
inductive Piece where
  | word (word : Word)
  | identifier (name : String)
  | raw (sql : String)
  | operand (naming : Naming) (slot : Slot)

/-- Lists of pieces with a word between them. -/
def separated
    (word : Word)
    (parts : List (List Piece)) :
    List Piece :=
  [Piece.word word].intercalate parts

/-- Pieces in parentheses. -/
def enclosed
    (pieces : List Piece) :
    List Piece :=
  [.word .openParen] ++ pieces ++ [.word .closeParen]

/-- Pieces in parentheses if they are needed. -/
def enclosedIf
    (needed : Bool)
    (pieces : List Piece) :
    List Piece :=
  if needed then enclosed pieces else pieces

mutual

/-- The pieces of an expression. -/
def exprPieces
    (dialect : Dialect) :
    Expr →
    List Piece
  | .column (some table) name =>
      [.identifier table, .word .dot, .identifier name]
  | .column none name => [.identifier name]
  | .operand base value => [.operand (.numbered base) (.fixed value)]
  | .raw sql => [.raw sql]
  | .countAll => [.word .countAll]
  | .comparison left sign right =>
      exprPieces dialect left ++ [.word (.sign sign)] ++
        exprPieces dialect right
  | .isNull subject negated =>
      exprPieces dialect subject ++
        [.word (if negated then .isNotNull else .isNull)]
  | .inList subject items negated =>
      exprPieces dialect subject ++
        [.word (if negated then .notInList else .inList)] ++
        enclosed (separated .comma (itemPieces dialect items))
  | .between subject low high =>
      exprPieces dialect subject ++ [.word .between] ++
        exprPieces dialect low ++ [.word .both] ++ exprPieces dialect high
  | .like subject pattern ignoringCase =>
      if !ignoringCase then
        exprPieces dialect subject ++ [.word .like] ++
          exprPieces dialect pattern
      else if dialect.hasCaseBlindLike then
        exprPieces dialect subject ++ [.word .caseBlindLike] ++
          exprPieces dialect pattern
      else
        [.word .lowered] ++ enclosed (exprPieces dialect subject) ++
          [.word .like] ++
          [.word .lowered] ++ enclosed (exprPieces dialect pattern)
  | .conjunction terms => separated .both (conjunctPieces dialect terms)
  | .disjunction terms => separated .either (disjunctPieces dialect terms)
  | .constant value => [.word (if value then .always else .never)]

/-- The pieces of each expression. -/
def itemPieces
    (dialect : Dialect) :
    List Expr →
    List (List Piece)
  | [] => []
  | item :: rest => exprPieces dialect item :: itemPieces dialect rest

/-- The pieces of each term of a conjunction. -/
def conjunctPieces
    (dialect : Dialect) :
    List Expr →
    List (List Piece)
  | [] => []
  | term :: rest =>
      enclosedIf term.isDisjunction (exprPieces dialect term) ::
        conjunctPieces dialect rest

/-- The pieces of each term of a disjunction. -/
def disjunctPieces
    (dialect : Dialect) :
    List Expr →
    List (List Piece)
  | [] => []
  | term :: rest =>
      enclosedIf term.isConjunction (exprPieces dialect term) ::
        disjunctPieces dialect rest

end

/-- A clause that is left out if it is empty. -/
def clausePieces
    (word : Word)
    (parts : List (List Piece)) :
    List Piece :=
  if parts.isEmpty then
    []
  else
    [.word word] ++ separated .comma parts

/-- A clause of one expression that may be absent. -/
def conditionPieces
    (dialect : Dialect)
    (word : Word) :
    Option Expr →
    List Piece
  | none => []
  | some condition => [.word word] ++ exprPieces dialect condition

/-- The pieces that tell repeated rows apart. -/
def distinctPieces
    (dialect : Dialect) :
    Distinct →
    List Piece
  | .none => []
  | .all => [.word .distinct]
  | .on exprs =>
      if dialect.hasDistinctOn then
        [.word .distinctOn] ++ separated .comma (itemPieces dialect exprs) ++
          [.word .endDistinctOn]
      else
        [.word .distinct]

/-- The pieces of a column of a result. -/
def resultPieces
    (dialect : Dialect)
    (item : Item) :
    List Piece :=
  exprPieces dialect item.expr ++
    match item.resultName with
    | some name => [.word .renamed, .identifier name]
    | none => []

/-- The pieces of an order term. -/
def orderPieces
    (dialect : Dialect)
    (term : Expr × Direction) :
    List Piece :=
  exprPieces dialect term.1 ++
    [.word (match term.2 with
      | .ascending => .ascending
      | .descending => .descending)]

/-- The pieces of a select before its source. -/
def headPieces
    (dialect : Dialect)
    (body : SelectBody) :
    List Piece :=
  [.word .select] ++ distinctPieces dialect body.distinct ++
    separated .comma (body.items.map (resultPieces dialect)) ++ [.word .source]

/-- The pieces of a select after its source. -/
def tailPieces
    (dialect : Dialect)
    (body : SelectBody) :
    List Piece :=
  conditionPieces dialect .filtered body.filter ++
    clausePieces .grouped (itemPieces dialect body.groups) ++
    conditionPieces dialect .having body.having ++
    clausePieces .ordered (body.order.map (orderPieces dialect)) ++
    match dialect.limitClause? body.limit body.offset with
    | some clause => [.word .blank, .raw clause]
    | none => []

/-- The pieces of a select. -/
def selectPieces
    (dialect : Dialect) :
    Select →
    List Piece
  | .fromTable table body =>
      headPieces dialect body ++ [.identifier table] ++ tailPieces dialect body
  | .fromSelect source name body =>
      headPieces dialect body ++ enclosed (selectPieces dialect source) ++
        [.word .renamed, .identifier name] ++ tailPieces dialect body

/-- The pieces of an insert. -/
def insertPieces
    (dialect : Dialect)
    (insert : Insert) :
    List Piece :=
  [.word .insertInto, .identifier insert.table] ++
    if insert.columns.isEmpty then
      match dialect with
      | .mysql => [.word .emptyRow]
      | _ => [.word .defaultRow]
    else
      [.word .openColumns] ++
        separated .comma
          (insert.columns.map fun column => [.identifier column]) ++
        [.word .closeParen, .word .openValues] ++
        separated .comma (insert.columns.mapIdx fun index column =>
          [.operand (.exact column) (.column index)]) ++
        [.word .closeParen]

/-- The pieces of an assignment to a column. -/
def assignmentPieces
    (index : Nat)
    (column : String) :
    List Piece :=
  [.identifier column, .word .assign, .operand (.exact column) (.column index)]

/-- The pieces that find the row of a batch update. -/
def rowKeyPieces
    (key : RowKey) :
    List Piece :=
  [.identifier key.table, .word .dot, .identifier key.column, .word .assign,
    .operand (.exact (key.column ++ "_match")) .rowKey]

/-- The conditions of an update: the row key, then the filter. -/
def updateConditions
    (dialect : Dialect)
    (update : Update) :
    List (List Piece) :=
  (update.rowKey.map rowKeyPieces).toList ++
    (update.filter.map fun filter =>
      enclosedIf (update.rowKey.isSome && filter.isDisjunction)
        (exprPieces dialect filter)).toList

/-- The pieces of an update. -/
def updatePieces
    (dialect : Dialect)
    (update : Update) :
    List Piece :=
  let conditions := updateConditions dialect update
  [.word .update, .identifier update.table, .word .set] ++
    separated .comma (update.columns.mapIdx assignmentPieces) ++
    if conditions.isEmpty then
      []
    else
      [.word .filtered] ++ separated .both conditions

/-- The pieces of a delete. -/
def deletePieces
    (dialect : Dialect)
    (delete : Delete) :
    List Piece :=
  [.word .deleteFrom, .identifier delete.table] ++
    conditionPieces dialect .filtered delete.filter

/-- The pieces of a statement. -/
def Statement.pieces
    (dialect : Dialect) :
    Statement →
    List Piece
  | .select statement => selectPieces dialect statement
  | .insert statement => insertPieces dialect statement
  | .update statement => updatePieces dialect statement
  | .delete statement => deletePieces dialect statement

end Sql

end PolyQuery
