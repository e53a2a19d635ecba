import PolyQuery.Proofs.Sql.Layout

namespace PolyQuery.Sql

/-!
# Placeholders and payloads

The placeholders that are met in the text of a statement are those of its
parameters, in order. Every payload has their names for keys, and under each of
them the value that stands at its place in the statement.
-/

namespace Expr

mutual

/--
The expressions without parts that an expression is made of, from left to right.
-/
def leaves : Expr → List Expr
  | .comparison left _ right => left.leaves ++ right.leaves
  | .isNull subject _ => subject.leaves
  | .inList subject items _ => subject.leaves ++ leavesOfAll items
  | .between subject low high => subject.leaves ++ low.leaves ++ high.leaves
  | .like subject pattern _ => subject.leaves ++ pattern.leaves
  | .conjunction terms => leavesOfAll terms
  | .disjunction terms => leavesOfAll terms
  | leaf => [leaf]

/-- The expressions without parts that expressions are made of. -/
def leavesOfAll : List Expr → List Expr
  | [] => []
  | expr :: rest => expr.leaves ++ leavesOfAll rest

end

/-- The slot of an operand. -/
def slot? : Expr → Option Slot
  | .operand _ value => some (.fixed value)
  | _ => none

/-- The text of a fragment of the caller's. -/
def fragment? : Expr → Option String
  | .raw sql => some sql
  | _ => none

/-- The slots of an expression's operands, from left to right. -/
def slots
    (expr : Expr) :
    List Slot :=
  expr.leaves.filterMap slot?

/-- The fragments of the caller's in an expression. -/
def fragments
    (expr : Expr) :
    List String :=
  expr.leaves.filterMap fragment?

theorem leavesOfAll_eq_flatMap
    (exprs : List Expr) :
    leavesOfAll exprs = exprs.flatMap leaves := by
  induction exprs with
  | nil => rw [leavesOfAll, List.flatMap_nil]
  | cons expr rest inductionHypothesis =>
      rw [leavesOfAll, inductionHypothesis, List.flatMap_cons]

end Expr

/--
The expressions that rows are told apart by, if a dialect
can tell them apart so.
-/
def SelectBody.distinctExprs
    (dialect : Dialect)
    (body : SelectBody) :
    List Expr :=
  match body.distinct with
  | .none => []
  | .all => []
  | .on exprs => if dialect.hasDistinctOn then exprs else []

/-- The expressions of a select before its source. -/
def SelectBody.headExprs
    (dialect : Dialect)
    (body : SelectBody) :
    List Expr :=
  body.distinctExprs dialect ++ body.items.map Item.expr

/-- The expressions of a select after its source. -/
def SelectBody.tailExprs
    (body : SelectBody) :
    List Expr :=
  body.filter.toList ++ body.groups ++ body.having.toList ++
    body.order.map Prod.fst

/-- The expressions of a select in the order of the text. -/
def Select.exprs
    (dialect : Dialect) :
    Select →
    List Expr
  | .fromTable _ body => body.headExprs dialect ++ body.tailExprs
  | .fromSelect source _ body =>
      body.headExprs dialect ++ source.exprs dialect ++ body.tailExprs

namespace Statement

/-- The expressions of a statement in the order of the text. -/
def exprs
    (dialect : Dialect) :
    Statement →
    List Expr
  | .select selected => selected.exprs dialect
  | .insert _ => []
  | .update updated => updated.filter.toList
  | .delete deleted => deleted.filter.toList

/--
What takes the places of a statement's parameters that are no
operands of an expression.
-/
def rowSlots : Statement → List Slot
  | .insert inserted => (List.range inserted.columns.length).map Slot.column
  | .update updated =>
      (List.range updated.columns.length).map Slot.column ++
        (updated.rowKey.map fun _ => Slot.rowKey).toList
  | _ => []

/-- The operands of a statement that stand in no expression. -/
def rowPieces : Statement → List Piece
  | .insert inserted =>
      inserted.columns.mapIdx fun index column =>
        .operand (.exact column) (.column index)
  | .update updated =>
      (updated.columns.mapIdx fun index column =>
        .operand (.exact column) (.column index)) ++
        (updated.rowKey.map fun key =>
          .operand (.exact (key.column ++ "_match")) .rowKey).toList
  | _ => []

/--
What takes the places of a statement's parameters, in the order of the text.
-/
def slots
    (dialect : Dialect)
    (statement : Statement) :
    List Slot :=
  statement.rowSlots ++ (statement.exprs dialect).flatMap Expr.slots

/-- The fragments of the caller's in a statement. -/
def fragments
    (dialect : Dialect)
    (statement : Statement) :
    List String :=
  (statement.exprs dialect).flatMap Expr.fragments

/--
The rows that a statement's payloads are for, with the identifiers of
the rows of a batch.
-/
def sources : Statement → List (List Json × Option Json)
  | .insert inserted => inserted.rows.map fun row => (row, none)
  | .update updated =>
      match updated.rowKey with
      | some key => updated.rows.zip (key.values.map some)
      | none => [(updated.rows.head?.getD [], none)]
  | _ => [([], none)]

end Statement

/--
What is chosen of pieces and of expressions without parts is chosen alike, and
nothing is chosen of the clauses that limit selects.
-/
structure ChosenAlike
    {α : Type}
    (ofPiece : Piece → Option α)
    (ofLeaf : Expr → Option α) :
    Prop where
  word : ∀ sqlWord, ofPiece (.word sqlWord) = none
  identifier : ∀ name, ofPiece (.identifier name) = none
  raw : ∀ sql, ofPiece (.raw sql) = ofLeaf (.raw sql)
  operand :
    ∀ base value,
      ofPiece (.operand (.numbered base) (.fixed value)) =
        ofLeaf (.operand base value)
  column : ∀ table name, ofLeaf (.column table name) = none
  countAll : ofLeaf .countAll = none
  constant : ∀ value, ofLeaf (.constant value) = none
  limit :
    ∀ (dialect : Dialect) (limit offset : Option Nat) (clause : String),
      dialect.limitClause? limit offset = some clause →
        ofPiece (.raw clause) = none

section Choosing

variable
  {α : Type}
  {ofPiece : Piece → Option α}

theorem filterMap_separated
    (skipped : ∀ sqlWord, ofPiece (.word sqlWord) = none)
    (sqlWord : Word)
    (parts : List (List Piece)) :
    (separated sqlWord parts).filterMap ofPiece =
      parts.flatMap (List.filterMap ofPiece) := by
  induction parts with
  | nil => rfl
  | cons part rest inductionHypothesis =>
      cases rest with
      | nil => simp [separated_singleton]
      | cons next others =>
          rw [separated_cons_cons, List.flatMap_cons, ← inductionHypothesis]
          simp [skipped]

theorem filterMap_enclosed
    (skipped : ∀ sqlWord, ofPiece (.word sqlWord) = none)
    (pieces : List Piece) :
    (enclosed pieces).filterMap ofPiece = pieces.filterMap ofPiece := by
  simp [enclosed, skipped]

theorem filterMap_enclosedIf
    (skipped : ∀ sqlWord, ofPiece (.word sqlWord) = none)
    (needed : Bool)
    (pieces : List Piece) :
    (enclosedIf needed pieces).filterMap ofPiece =
      pieces.filterMap ofPiece := by
  unfold enclosedIf
  split
  · exact filterMap_enclosed skipped pieces
  · rfl

variable
  {ofLeaf : Expr → Option α}
  (alike : ChosenAlike ofPiece ofLeaf)
  (dialect : Dialect)

include alike

/-- The pieces of an expression are chosen as its parts are. -/
theorem ChosenAlike.exprPieces
    (expr : Expr) :
    (Sql.exprPieces dialect expr).filterMap ofPiece =
      expr.leaves.filterMap ofLeaf := by
  have skipped := alike.word
  induction expr using Expr.inductionOn with
  | column table name =>
      cases table <;>
        simp [Sql.exprPieces, Expr.leaves, alike.word, alike.identifier,
          alike.column]
  | operand base value =>
      simp only [Sql.exprPieces, Expr.leaves, List.filterMap_cons,
        List.filterMap_nil, alike.operand]
  | raw sql =>
      simp only [Sql.exprPieces, Expr.leaves, List.filterMap_cons,
        List.filterMap_nil, alike.raw]
  | countAll => simp [Sql.exprPieces, Expr.leaves, alike.word, alike.countAll]
  | constant value =>
      simp [Sql.exprPieces, Expr.leaves, alike.word, alike.constant]
  | comparison left sign right leftAlike rightAlike =>
      simp [Sql.exprPieces, Expr.leaves, skipped, leftAlike, rightAlike]
  | isNull subject negated subjectAlike =>
      simp [Sql.exprPieces, Expr.leaves, skipped, subjectAlike]
  | inList subject items negated subjectAlike itemsAlike =>
      have listed :
          (separated .comma (itemPieces dialect items)).filterMap ofPiece =
            (Expr.leavesOfAll items).filterMap ofLeaf := by
        rw [filterMap_separated skipped, itemPieces_eq_map, List.flatMap_map,
          Expr.leavesOfAll_eq_flatMap, List.filterMap_flatMap]
        exact List.flatMap_congr itemsAlike
      simp [Sql.exprPieces, Expr.leaves, skipped, subjectAlike,
        filterMap_enclosed skipped, listed]
  | between subject low high subjectAlike lowAlike highAlike =>
      simp [Sql.exprPieces, Expr.leaves, skipped, subjectAlike, lowAlike,
        highAlike]
  | like subject pattern ignoringCase subjectAlike patternAlike =>
      rw [Sql.exprPieces]
      split
      · simp [Expr.leaves, skipped, subjectAlike, patternAlike]
      · split <;>
          simp [Expr.leaves, skipped, subjectAlike, patternAlike,
            filterMap_enclosed skipped]
  | conjunction terms termsAlike =>
      rw [Sql.exprPieces, filterMap_separated skipped, conjunctPieces_eq_map,
        List.flatMap_map, Expr.leaves, Expr.leavesOfAll_eq_flatMap,
        List.filterMap_flatMap]
      exact List.flatMap_congr fun term member =>
        (filterMap_enclosedIf skipped _ _).trans (termsAlike term member)
  | disjunction terms termsAlike =>
      rw [Sql.exprPieces, filterMap_separated skipped, disjunctPieces_eq_map,
        List.flatMap_map, Expr.leaves, Expr.leavesOfAll_eq_flatMap,
        List.filterMap_flatMap]
      exact List.flatMap_congr fun term member =>
        (filterMap_enclosedIf skipped _ _).trans (termsAlike term member)

theorem ChosenAlike.itemPieces
    (exprs : List Expr) :
    (Sql.itemPieces dialect exprs).flatMap (List.filterMap ofPiece) =
      exprs.flatMap fun expr => expr.leaves.filterMap ofLeaf := by
  rw [itemPieces_eq_map, List.flatMap_map]
  exact List.flatMap_congr fun expr _ => alike.exprPieces dialect expr

theorem ChosenAlike.conditionPieces
    (sqlWord : Word)
    (condition : Option Expr) :
    (Sql.conditionPieces dialect sqlWord condition).filterMap ofPiece =
      condition.toList.flatMap fun expr => expr.leaves.filterMap ofLeaf := by
  cases condition with
  | none => rfl
  | some expr => simp [Sql.conditionPieces, alike.word, alike.exprPieces]

theorem ChosenAlike.clausePieces
    (sqlWord : Word)
    (parts : List (List Piece)) :
    (Sql.clausePieces sqlWord parts).filterMap ofPiece =
      parts.flatMap (List.filterMap ofPiece) := by
  unfold Sql.clausePieces
  split
  next noParts => simp [List.isEmpty_iff.mp noParts]
  next => simp [alike.word, filterMap_separated alike.word]

theorem ChosenAlike.distinctPieces
    (body : SelectBody) :
    (Sql.distinctPieces dialect body.distinct).filterMap ofPiece =
      (body.distinctExprs dialect).flatMap fun expr =>
        expr.leaves.filterMap ofLeaf := by
  unfold SelectBody.distinctExprs
  cases body.distinct with
  | none => rfl
  | all => simp [Sql.distinctPieces, alike.word]
  | on exprs =>
      rw [Sql.distinctPieces]
      split
      · simp [alike.word, filterMap_separated alike.word, alike.itemPieces]
      · simp [alike.word]

/--
The pieces before the source of a select are chosen as its
expressions there are.
-/
theorem ChosenAlike.headPieces
    (body : SelectBody) :
    (Sql.headPieces dialect body).filterMap ofPiece =
      (body.headExprs dialect).flatMap fun expr =>
        expr.leaves.filterMap ofLeaf := by
  have items :
      (body.items.map (resultPieces dialect)).flatMap (List.filterMap ofPiece) =
        (body.items.map Item.expr).flatMap fun expr =>
          expr.leaves.filterMap ofLeaf := by
    rw [List.flatMap_map, List.flatMap_map]
    refine List.flatMap_congr fun item _ => ?_
    rw [resultPieces, List.filterMap_append, alike.exprPieces]
    cases item.resultName <;> simp [alike.word, alike.identifier]
  simp [Sql.headPieces, SelectBody.headExprs, alike.word, alike.distinctPieces,
    items, filterMap_separated alike.word]

theorem ChosenAlike.tailPieces
    (body : SelectBody) :
    (Sql.tailPieces dialect body).filterMap ofPiece =
      body.tailExprs.flatMap fun expr => expr.leaves.filterMap ofLeaf := by
  have order :
      (body.order.map (orderPieces dialect)).flatMap (List.filterMap ofPiece) =
        (body.order.map Prod.fst).flatMap fun expr =>
          expr.leaves.filterMap ofLeaf := by
    rw [List.flatMap_map, List.flatMap_map]
    exact List.flatMap_congr fun term _ => by
      simp [orderPieces, alike.word, alike.exprPieces]
  simp only [Sql.tailPieces, SelectBody.tailExprs, List.filterMap_append,
    List.flatMap_append, alike.conditionPieces, alike.clausePieces,
    alike.itemPieces, order]
  split
  next clause isClause =>
    simp [alike.word, alike.limit dialect _ _ clause isClause]
  next => simp

theorem ChosenAlike.selectPieces
    (select : Select) :
    (Sql.selectPieces dialect select).filterMap ofPiece =
      (select.exprs dialect).flatMap fun expr =>
        expr.leaves.filterMap ofLeaf := by
  induction select with
  | fromTable table body =>
      simp [Sql.selectPieces, Select.exprs, alike.identifier, alike.headPieces,
        alike.tailPieces]
  | fromSelect source name body sourceAlike =>
      simp [Sql.selectPieces, Select.exprs, alike.word, alike.identifier,
        alike.headPieces, alike.tailPieces, filterMap_enclosed alike.word,
        sourceAlike]

omit alike in
/-- Of the pieces for each column, one is chosen if the others are not. -/
theorem flatMap_mapIdx
    {columns : List String}
    {pieces : Nat → String → List Piece}
    {piece : Nat → String → Piece}
    (alone :
      ∀ index column,
        (pieces index column).filterMap ofPiece =
          (ofPiece (piece index column)).toList) :
    (columns.mapIdx pieces).flatMap (List.filterMap ofPiece) =
      (columns.mapIdx piece).filterMap ofPiece := by
  rw [List.mapIdx_eq_zipIdx_map, List.mapIdx_eq_zipIdx_map,
    List.filterMap_eq_flatMap_toList, List.flatMap_map, List.flatMap_map]
  exact List.flatMap_congr fun entry _ => alone entry.2 entry.1

theorem ChosenAlike.insertPieces
    (insert : Insert) :
    (Sql.insertPieces dialect insert).filterMap ofPiece =
      (Statement.insert insert).rowPieces.filterMap ofPiece := by
  have names :
      (insert.columns.map fun column => [Piece.identifier column]).flatMap
          (List.filterMap ofPiece) = [] := by
    simp [List.flatMap_map, alike.identifier]
  have values :
      (insert.columns.mapIdx fun index column =>
          [Piece.operand (.exact column) (.column index)]).flatMap
          (List.filterMap ofPiece) =
        (Statement.insert insert).rowPieces.filterMap ofPiece := by
    refine flatMap_mapIdx fun index column => ?_
    cases chosen : ofPiece (.operand (.exact column) (.column index)) <;>
      simp [chosen]
  unfold Sql.insertPieces
  split
  next noColumns =>
    have isNil := List.isEmpty_iff.mp noColumns
    cases dialect <;>
      simp [alike.word, alike.identifier, Statement.rowPieces, isNil]
  next =>
    simp [alike.word, alike.identifier, filterMap_separated alike.word, names,
      values]

theorem ChosenAlike.updatePieces
    (update : Update) :
    (Sql.updatePieces dialect update).filterMap ofPiece =
      (Statement.update update).rowPieces.filterMap ofPiece ++
        update.filter.toList.flatMap fun expr =>
          expr.leaves.filterMap ofLeaf := by
  have assignments :
      (update.columns.mapIdx assignmentPieces).flatMap
          (List.filterMap ofPiece) =
        (update.columns.mapIdx fun index column =>
          Piece.operand (.exact column) (.column index)).filterMap ofPiece := by
    refine flatMap_mapIdx fun index column => ?_
    cases chosen : ofPiece (.operand (.exact column) (.column index)) <;>
      simp [assignmentPieces, alike.word, alike.identifier, chosen]
  have conditions :
      (updateConditions dialect update).flatMap (List.filterMap ofPiece) =
        (update.rowKey.map fun key =>
            Piece.operand (.exact (key.column ++ "_match"))
              .rowKey).toList.filterMap ofPiece ++
          update.filter.toList.flatMap fun expr =>
            expr.leaves.filterMap ofLeaf := by
    have ofKey :
        ∀ key : RowKey, (rowKeyPieces key).filterMap ofPiece =
          [Piece.operand (.exact (key.column ++ "_match")) .rowKey].filterMap
            ofPiece := by
      intro key
      simp only [rowKeyPieces, List.filterMap_cons, alike.word,
        alike.identifier]
    unfold updateConditions
    cases update.rowKey <;> cases update.filter <;>
      simp [ofKey, filterMap_enclosedIf alike.word, alike.exprPieces]
  have restriction :
      (if (updateConditions dialect update).isEmpty then
          []
        else
          [Piece.word .filtered] ++
            separated .both (updateConditions dialect update)).filterMap
            ofPiece =
        (updateConditions dialect update).flatMap (List.filterMap ofPiece) := by
    split
    next noConditions => simp [List.isEmpty_iff.mp noConditions]
    next => simp [alike.word, filterMap_separated alike.word]
  simp only [Sql.updatePieces, List.filterMap_append, restriction, conditions,
    filterMap_separated alike.word, assignments]
  simp [alike.word, alike.identifier, Statement.rowPieces]

/--
The pieces of a statement are chosen as its rows' operands and its
expressions' parts are.
-/
theorem ChosenAlike.pieces
    (statement : Statement) :
    (statement.pieces dialect).filterMap ofPiece =
      statement.rowPieces.filterMap ofPiece ++
        (statement.exprs dialect).flatMap fun expr =>
          expr.leaves.filterMap ofLeaf := by
  cases statement with
  | select statement => exact alike.selectPieces dialect statement
  | insert statement =>
      rw [Statement.exprs, List.flatMap_nil, List.append_nil]
      exact alike.insertPieces dialect statement
  | update statement => exact alike.updatePieces dialect statement
  | delete statement =>
      simp [Statement.pieces, deletePieces, Statement.rowPieces,
        Statement.exprs, alike.word, alike.identifier, alike.conditionPieces]

end Choosing

/-- The text of a raw piece, unless it is plain. -/
def Piece.risky? : Piece → Option String
  | .raw sql => if isPlainText sql then none else some sql
  | _ => none

/-- The text of a fragment of the caller's, unless it is plain. -/
def Expr.risky? : Expr → Option String
  | .raw sql => if isPlainText sql then none else some sql
  | _ => none

theorem isPlainText_limitClause?
    {dialect : Dialect}
    {limit offset : Option Nat}
    {clause : String}
    (isClause : dialect.limitClause? limit offset = some clause) :
    isPlainText clause = true := by
  have numbered :
      ∀ {label : String} (number : Nat), isPlainText label = true →
        isPlainText (label ++ toString number) = true :=
    fun number plain => isPlainText_append plain (isPlainText_toString number)
  unfold Dialect.limitClause? at isClause
  split at isClause
  · cases isClause
  · cases isClause
    exact numbered _ rfl
  · cases isClause
    exact numbered _ (isPlainText_append (numbered _ rfl) rfl)
  · split at isClause <;>
      · cases isClause
        exact numbered _ rfl

theorem chosenAlike_slot? :
    ChosenAlike Piece.slot? Expr.slot? := by
  constructor <;> intros <;> rfl

theorem chosenAlike_risky? :
    ChosenAlike Piece.risky? Expr.risky? where
  word _ := rfl
  identifier _ := rfl
  raw _ := rfl
  operand _ _ := rfl
  column _ _ := rfl
  countAll := rfl
  constant _ := rfl
  limit _ _ _ _ isClause := if_pos (isPlainText_limitClause? isClause)

section Statements

variable
  (dialect : Dialect)
  (statement : Statement)

theorem filterMap_rowPieces :
    statement.rowPieces.filterMap Piece.slot? = statement.rowSlots := by
  have columns :
      ∀ names : List String,
        (names.mapIdx fun index column =>
            Piece.operand (.exact column) (.column index)).filterMap
            Piece.slot? =
          (List.range names.length).map Slot.column := by
    intro names
    rw [List.mapIdx_eq_zipIdx_map, List.filterMap_map, List.range_eq_range',
      ← List.zipIdx_map_snd, List.map_map, ← List.filterMap_eq_map]
    rfl
  cases statement with
  | select | delete => rfl
  | insert insert => exact columns insert.columns
  | update update =>
      simp only [Statement.rowPieces, Statement.rowSlots, List.filterMap_append,
        columns]
      cases update.rowKey <;> rfl

/-- The operands of a statement are those that its slots are for. -/
theorem filterMap_pieces :
    (statement.pieces dialect).filterMap Piece.slot? =
      statement.slots dialect := by
  rw [chosenAlike_slot?.pieces, filterMap_rowPieces]
  rfl

theorem rowPieces_are_operands
    {piece : Piece}
    (member : piece ∈ statement.rowPieces) :
    ∃ naming slot, piece = .operand naming slot := by
  have ofColumns :
      ∀ names : List String,
        (piece ∈ names.mapIdx fun index column =>
          .operand (.exact column) (.column index)) →
          ∃ naming slot, piece = .operand naming slot := by
    intro names inColumns
    obtain ⟨index, within, isPiece⟩ := List.mem_mapIdx.mp inColumns
    exact ⟨_, _, isPiece.symm⟩
  cases statement with
  | select | delete => cases member
  | insert insert => exact ofColumns insert.columns member
  | update update =>
      rcases List.mem_append.mp member with inColumns | isKey
      · exact ofColumns update.columns inColumns
      · obtain ⟨key, -, isPiece⟩ :=
          Option.map_eq_some_iff.mp (Option.mem_toList.mp isKey)
        exact ⟨_, _, isPiece.symm⟩

/--
No raw piece of a statement holds a placeholder if no fragment
of the caller's does.
-/
theorem holdsNoPlaceholder_of_raw_mem
    (neutral :
      ∀ sql ∈ statement.fragments dialect, HoldsNoPlaceholder dialect sql)
    {sql : String}
    (member : .raw sql ∈ statement.pieces dialect) :
    HoldsNoPlaceholder dialect sql := by
  cases plain : isPlainText sql with
  | true => exact holdsNoPlaceholder_of_plain dialect plain
  | false =>
      have chosen : sql ∈ (statement.pieces dialect).filterMap Piece.risky? :=
        List.mem_filterMap.mpr ⟨.raw sql, member, by simp [Piece.risky?, plain]⟩
      rw [chosenAlike_risky?.pieces, List.mem_append] at chosen
      rcases chosen with inRow | inExprs
      · obtain ⟨piece, pieceMember, isRisky⟩ := List.mem_filterMap.mp inRow
        obtain ⟨naming, slot, rfl⟩ :=
          rowPieces_are_operands statement pieceMember
        cases isRisky
      · obtain ⟨expr, exprMember, inExpr⟩ := List.mem_flatMap.mp inExprs
        obtain ⟨leaf, leafMember, isRisky⟩ := List.mem_filterMap.mp inExpr
        refine neutral sql (List.mem_flatMap.mpr ⟨expr, exprMember, ?_⟩)
        refine List.mem_filterMap.mpr ⟨leaf, leafMember, ?_⟩
        cases leaf with
        | raw text =>
            simp only [Expr.risky?] at isRisky
            split at isRisky
            · cases isRisky
            · exact isRisky
        | _ => cases isRisky

/-- A payload is made for every row that a statement has values for. -/
theorem payloads_params
    (slots : List (String × Slot)) :
    (statement.params slots).payloads =
      statement.sources.map fun source => payload slots source.1 source.2 := by
  cases statement with
  | select | delete => rfl
  | insert insert =>
      simp only [Statement.params, Statement.sources, List.map_map]
      split
      next row isRow => rw [isRow]; rfl
      next => rfl
  | update update =>
      simp only [Statement.params, Statement.sources]
      cases update.rowKey with
      | none => rfl
      | some key =>
          simp only [Params.payloads, List.zip_map_right, List.map_map]
          rw [List.zip, List.map_zipWith]
          rfl

theorem payload_eq_zip
    (slots : List (String × Slot))
    (row : List Json)
    (key : Option Json) :
    payload slots row key =
      (slots.map Prod.fst).zip
        ((slots.map Prod.snd).map (Slot.value row key)) := by
  rw [List.map_map, List.zip_map']
  rfl

end Statements

/--
The placeholders of pieces are those of their parameters, counted
on from those before.
-/
theorem placeholders_bindPieces
    (dialect : Dialect)
    {pieces : List Piece}
    (spaced : Spaced pieces)
    (neutral : ∀ sql, .raw sql ∈ pieces → HoldsNoPlaceholder dialect sql)
    (binder : Binder) :
    placeholders dialect
        (String.join (bindPieces dialect binder pieces).texts) =
      ((bindPieces dialect binder pieces).slots.map Prod.fst).mapIdx
        fun index name =>
          dialect.placeholder name (binder.used.length + index + 1) := by
  rw [placeholders,
    lex_join dialect spaced fun sql member => (neutral sql member).settled,
    List.filterMap_flatMap]
  clear spaced
  induction pieces generalizing binder with
  | nil => rfl
  | cons piece rest inductionHypothesis =>
      have restRead :=
        inductionHypothesis
          (fun sql member => neutral sql (List.mem_cons_of_mem _ member))
          (binder.past piece)
      rw [bindPieces_cons, List.flatMap_cons, restRead]
      cases piece with
      | word sqlWord =>
          have noneRead :=
            (holdsNoPlaceholder_of_plain dialect
              (isPlainText_word sqlWord)).none
          rw [Piece.text,
            show (lex dialect sqlWord.text).filterMap _ = [] from noneRead]
          rfl
      | identifier name =>
          rw [Piece.text, lex_quote]
          rfl
      | raw sql =>
          have noneRead := (neutral sql List.mem_cons_self).none
          rw [Piece.text, show (lex dialect sql).filterMap _ = [] from noneRead]
          rfl
      | operand naming slot =>
          have moved :
              ∀ index,
                binder.used.length + 1 + index =
                  binder.used.length + (index + 1) := by
            omega
          rw [Piece.text, lex_placeholder (binder.isBindableName_bind naming),
            Binder.past, Binder.used_bind]
          simp [Piece.parameter?, Token.placeholder?, List.mapIdx_cons, moved]

/--
Placeholders and payloads line up.

If no fragment of the caller's holds a placeholder, the placeholders met in the
text of a statement are those of its parameters in order. Their names differ,
and can be bound. Every payload has just these names for keys, in this order,
each with the value that stands at its place of the statement.
-/
theorem parameters_line_up
    (dialect : Dialect)
    (statement : Statement)
    (neutral :
      ∀ sql ∈ statement.fragments dialect, HoldsNoPlaceholder dialect sql) :
    ∃ names : List String,
      placeholders dialect (statement.render dialect).sql =
          (names.mapIdx fun index name =>
            dialect.placeholder name (index + 1)) ∧
        names.Nodup ∧
        (∀ name ∈ names, IsBindableName name) ∧
        names.length = (statement.slots dialect).length ∧
        (statement.render dialect).params.payloads =
          statement.sources.map fun source =>
            names.zip
              ((statement.slots dialect).map
                (Slot.value source.1 source.2)) := by
  have areSlots :
      (bindPieces dialect .empty (statement.pieces dialect)).slots.map
          Prod.snd =
        statement.slots dialect :=
    (map_snd_slots dialect .empty _).trans (filterMap_pieces dialect statement)
  refine
    ⟨(bindPieces dialect .empty (statement.pieces dialect)).slots.map Prod.fst,
      ?_, ?_, ?_, ?_, ?_⟩
  · have read :=
      placeholders_bindPieces dialect (spaced_pieces dialect statement)
        (fun sql => holdsNoPlaceholder_of_raw_mem dialect statement neutral)
        .empty
    simpa [Statement.render, Binder.empty] using read
  · have distinct :=
      nodup_names dialect .empty List.nodup_nil (statement.pieces dialect)
    simpa [Binder.empty] using distinct
  · intro name member
    obtain ⟨parameter, parameterMember, isName⟩ := List.mem_map.mp member
    rw [← isName]
    exact isBindableName_of_mem_slots dialect .empty parameterMember
  · rw [← areSlots, List.length_map, List.length_map]
  · rw [← areSlots, Statement.render, payloads_params]
    exact List.map_congr_left fun source _ => payload_eq_zip _ source.1 source.2

/--
A select whose parameters are named after one text, with signs that are quoted.
-/
def collapsingSelect : Statement :=
  .select (.fromTable "t" {
    items := [⟨.raw "':x'", none⟩]
    filter := some (.conjunction [
      .comparison (.column none "a b") .equal (.operand "a b" (.ofInt 1)),
      .comparison (.column none "a:b") .equal (.operand "a:b" (.ofInt 2))])
  })

theorem parameters_line_up_for_collapsing_names :
    (∀ sql ∈ collapsingSelect.fragments .sqlite,
      HoldsNoPlaceholder .sqlite sql) ∧
      ∃ names : List String,
        placeholders .sqlite (collapsingSelect.render .sqlite).sql =
            (names.mapIdx fun index name =>
              Dialect.placeholder .sqlite name (index + 1)) ∧
          names.Nodup ∧
          (∀ name ∈ names, IsBindableName name) ∧
          names.length = (collapsingSelect.slots .sqlite).length ∧
          (collapsingSelect.render .sqlite).params.payloads =
            collapsingSelect.sources.map fun source =>
              names.zip
                ((collapsingSelect.slots .sqlite).map
                  (Slot.value source.1 source.2)) := by
  have neutral :
      ∀ sql ∈ collapsingSelect.fragments .sqlite,
        HoldsNoPlaceholder .sqlite sql := by
    intro sql member
    have isQuoted : sql = "':x'" := List.mem_singleton.mp member
    subst isQuoted
    exact
      {
        none := rfl
        settled := by
          simp only [Mode.IsSettled, separators, List.forall_mem_cons,
            List.not_mem_nil, false_implies, implies_true]
          decide
      }
  exact ⟨neutral, parameters_line_up .sqlite collapsingSelect neutral⟩

end PolyQuery.Sql
