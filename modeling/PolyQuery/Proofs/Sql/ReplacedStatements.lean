import PolyQuery.Proofs.Sql.Replacement

namespace PolyQuery.Sql

/-!
# Statements with replaced values

Two statements that are equal up to an exchange of scalars have the same pieces
but for the values in their slots. Names are handed out without looking at
values, so the texts are equal, and the payloads differ by the exchange only.
-/

/-- The same column of a result, with replaced values. -/
structure Item.Replaced
    (exchanged : Json → Json → Prop)
    (left right : Item) :
    Prop where
  expr : left.expr.Replaced exchanged right.expr
  sameName : left.resultName = right.resultName

/-- Rows told apart by the same expressions, with replaced values. -/
inductive Distinct.Replaced
    (exchanged : Json → Json → Prop) :
    Distinct →
    Distinct →
    Prop where
  | none : Replaced exchanged .none .none
  | all : Replaced exchanged .all .all
  | on
      {left right : List Expr}
      (exprs : List.Forall₂ (Expr.Replaced exchanged) left right) :
      Replaced exchanged (.on left) (.on right)

/-- The same clauses, with replaced values. -/
structure SelectBody.Replaced
    (exchanged : Json → Json → Prop)
    (left right : SelectBody) :
    Prop where
  items : List.Forall₂ (Item.Replaced exchanged) left.items right.items
  distinct : left.distinct.Replaced exchanged right.distinct
  filter : Option.Rel (Expr.Replaced exchanged) left.filter right.filter
  groups : List.Forall₂ (Expr.Replaced exchanged) left.groups right.groups
  having : Option.Rel (Expr.Replaced exchanged) left.having right.having
  order :
    List.Forall₂
      (fun term other => term.1.Replaced exchanged other.1 ∧ term.2 = other.2)
      left.order right.order
  sameLimit : left.limit = right.limit
  sameOffset : left.offset = right.offset

/-- The same select, with replaced values. -/
inductive Select.Replaced
    (exchanged : Json → Json → Prop) :
    Select →
    Select →
    Prop where
  | fromTable
      (table : String)
      {left right : SelectBody}
      (body : left.Replaced exchanged right) :
      Replaced exchanged (.fromTable table left) (.fromTable table right)
  | fromSelect
      {source sourceToo : Select}
      (sources : Replaced exchanged source sourceToo)
      (name : String)
      {left right : SelectBody}
      (body : left.Replaced exchanged right) :
      Replaced exchanged (.fromSelect source name left)
        (.fromSelect sourceToo name right)

/-- Rows of the same lengths with replaced values. -/
abbrev RowsReplaced
    (exchanged : Json → Json → Prop) :
    List (List Json) →
    List (List Json) →
    Prop :=
  List.Forall₂ (List.Forall₂ (Json.Replaced exchanged))

/-- The same insert, with replaced values. -/
structure Insert.Replaced
    (exchanged : Json → Json → Prop)
    (left right : Insert) :
    Prop where
  sameTable : left.table = right.table
  sameColumns : left.columns = right.columns
  rows : RowsReplaced exchanged left.rows right.rows

/-- The same identifier column, with replaced identifiers. -/
structure RowKey.Replaced
    (exchanged : Json → Json → Prop)
    (left right : RowKey) :
    Prop where
  sameTable : left.table = right.table
  sameColumn : left.column = right.column
  values : List.Forall₂ (Json.Replaced exchanged) left.values right.values

/-- The same update, with replaced values. -/
structure Update.Replaced
    (exchanged : Json → Json → Prop)
    (left right : Update) :
    Prop where
  sameTable : left.table = right.table
  sameColumns : left.columns = right.columns
  rows : RowsReplaced exchanged left.rows right.rows
  filter : Option.Rel (Expr.Replaced exchanged) left.filter right.filter
  rowKey : Option.Rel (RowKey.Replaced exchanged) left.rowKey right.rowKey

/-- The same delete, with replaced values. -/
structure Delete.Replaced
    (exchanged : Json → Json → Prop)
    (left right : Delete) :
    Prop where
  sameTable : left.table = right.table
  filter : Option.Rel (Expr.Replaced exchanged) left.filter right.filter

/-- The same statement, with replaced values. -/
inductive Statement.Replaced
    (exchanged : Json → Json → Prop) :
    Statement →
    Statement →
    Prop where
  | select
      {left right : Select}
      (statement : left.Replaced exchanged right) :
      Replaced exchanged (.select left) (.select right)
  | insert
      {left right : Insert}
      (statement : left.Replaced exchanged right) :
      Replaced exchanged (.insert left) (.insert right)
  | update
      {left right : Update}
      (statement : left.Replaced exchanged right) :
      Replaced exchanged (.update left) (.update right)
  | delete
      {left right : Delete}
      (statement : left.Replaced exchanged right) :
      Replaced exchanged (.delete left) (.delete right)

section Rendering

variable
  {exchanged : Json → Json → Prop}
  (dialect : Dialect)

theorem piecesReplaced_conditionPieces
    (sqlWord : Word)
    {left right : Option Expr}
    (condition : Option.Rel (Expr.Replaced exchanged) left right) :
    PiecesReplaced exchanged (conditionPieces dialect sqlWord left)
      (conditionPieces dialect sqlWord right) := by
  cases condition with
  | none =>
      exact .nil
  | some replaced =>
      exact List.rel_append (piecesReplaced_word sqlWord)
        (replaced.pieces dialect)

theorem Distinct.Replaced.pieces
    {left right : Distinct}
    (distinct : left.Replaced exchanged right) :
    PiecesReplaced exchanged (distinctPieces dialect left)
      (distinctPieces dialect right) := by
  cases distinct with
  | none =>
      exact .nil
  | all =>
      exact piecesReplaced_word .distinct
  | on exprs =>
      rw [distinctPieces, distinctPieces]
      split
      · have listed :=
          piecesReplaced_separated .comma
            (Expr.Replaced.itemPieces dialect exprs)
        exact
          List.rel_append
            (List.rel_append (piecesReplaced_word .distinctOn) listed)
            (piecesReplaced_word .endDistinctOn)
      · exact piecesReplaced_word .distinct

theorem Item.Replaced.pieces
    {left right : Item}
    (item : left.Replaced exchanged right) :
    PiecesReplaced exchanged (resultPieces dialect left)
      (resultPieces dialect right) := by
  rw [resultPieces, resultPieces, item.sameName]
  apply List.rel_append (item.expr.pieces dialect)
  split
  · exact .cons (.word .renamed) (.cons (.identifier _) .nil)
  · exact .nil

namespace SelectBody.Replaced

variable
  {left right : SelectBody}
  (body : left.Replaced exchanged right)

include body

theorem headPieces :
    PiecesReplaced exchanged (headPieces dialect left)
      (headPieces dialect right) := by
  have listed :
      List.Forall₂ (PiecesReplaced exchanged)
        (left.items.map (resultPieces dialect))
        (right.items.map (resultPieces dialect)) :=
    List.rel_map (fun _ _ item => item.pieces dialect) body.items
  have distinct :=
    List.rel_append (piecesReplaced_word .select) (body.distinct.pieces dialect)
  have items :=
    List.rel_append distinct (piecesReplaced_separated .comma listed)
  exact List.rel_append items (piecesReplaced_word .source)

theorem tailPieces :
    PiecesReplaced exchanged (tailPieces dialect left)
      (tailPieces dialect right) := by
  have order :
      List.Forall₂ (PiecesReplaced exchanged)
        (left.order.map (orderPieces dialect))
        (right.order.map (orderPieces dialect)) := by
    refine List.rel_map (fun term other replaced => ?_) body.order
    rw [orderPieces, orderPieces, replaced.2]
    exact List.rel_append (replaced.1.pieces dialect) (piecesReplaced_word _)
  have groups :=
    piecesReplaced_clausePieces .grouped
      (Expr.Replaced.itemPieces dialect body.groups)
  have grouped :=
    List.rel_append
      (piecesReplaced_conditionPieces dialect .filtered body.filter) groups
  have restricted :=
    List.rel_append grouped
      (piecesReplaced_conditionPieces dialect .having body.having)
  have ordered :=
    List.rel_append restricted (piecesReplaced_clausePieces .ordered order)
  rw [Sql.tailPieces, Sql.tailPieces, body.sameLimit, body.sameOffset]
  apply List.rel_append ordered
  split
  · exact .cons (.word .blank) (.cons (.raw _) .nil)
  · exact .nil

end SelectBody.Replaced

theorem Select.Replaced.pieces
    {left right : Select}
    (select : left.Replaced exchanged right) :
    PiecesReplaced exchanged (selectPieces dialect left)
      (selectPieces dialect right) := by
  induction select with
  | fromTable table body =>
      have named :=
        List.rel_append (body.headPieces dialect)
          (.cons (.identifier table) .nil)
      exact List.rel_append named (body.tailPieces dialect)
  | fromSelect _ name body sourcePieces =>
      have sourced :=
        List.rel_append (body.headPieces dialect)
          (piecesReplaced_enclosed sourcePieces)
      have named :=
        List.rel_append sourced
          (.cons (.word .renamed) (.cons (.identifier name) .nil))
      exact List.rel_append named (body.tailPieces dialect)

/-- The slots of row values are the same whatever the values. -/
theorem piecesReplaced_columns
    (exchanged : Json → Json → Prop)
    (columns : List String)
    (pieces : Nat → String → List Piece)
    (ofColumn :
      ∀ index column,
        PiecesReplaced exchanged (pieces index column) (pieces index column)) :
    List.Forall₂ (PiecesReplaced exchanged) (columns.mapIdx pieces)
      (columns.mapIdx pieces) := by
  apply List.forall₂_same.mpr
  intro part member
  obtain ⟨index, inRange, rfl⟩ := List.mem_mapIdx.mp member
  exact ofColumn index _

theorem Insert.Replaced.pieces
    {left right : Insert}
    (insert : left.Replaced exchanged right) :
    PiecesReplaced exchanged (insertPieces dialect left)
      (insertPieces dialect right) := by
  unfold insertPieces
  rw [insert.sameTable, insert.sameColumns]
  apply List.rel_append (.cons (.word .insertInto) (.cons (.identifier _) .nil))
  split
  · split <;> exact piecesReplaced_word _
  · have names :
        List.Forall₂ (PiecesReplaced exchanged)
          (right.columns.map fun column => [.identifier column])
          (right.columns.map fun column => [.identifier column]) :=
      List.forall₂_map_left_iff.mpr <| List.forall₂_map_right_iff.mpr <|
        List.forall₂_same.mpr fun column _ => .cons (.identifier column) .nil
    have values :=
      piecesReplaced_columns exchanged right.columns
        (fun index column => [.operand (.exact column) (.column index)])
        fun index _ => .cons (.operand _ (.column index)) .nil
    have opened :=
      List.rel_append (piecesReplaced_word .openColumns)
        (piecesReplaced_separated .comma names)
    have between :=
      List.rel_append opened
        (.cons (.word .closeParen) (.cons (.word .openValues) .nil))
    have listed :=
      List.rel_append between (piecesReplaced_separated .comma values)
    exact List.rel_append listed (piecesReplaced_word .closeParen)

theorem RowKey.Replaced.pieces
    {left right : RowKey}
    (key : left.Replaced exchanged right) :
    PiecesReplaced exchanged (rowKeyPieces left) (rowKeyPieces right) := by
  rw [rowKeyPieces, rowKeyPieces, key.sameTable, key.sameColumn]
  have named :
      PiecesReplaced exchanged
        [.identifier right.table, .word .dot, .identifier right.column,
          .word .assign]
        [.identifier right.table, .word .dot, .identifier right.column,
          .word .assign] :=
    .cons (.identifier _)
      (.cons (.word _) (.cons (.identifier _) (.cons (.word _) .nil)))
  exact List.rel_append named (.cons (.operand _ .rowKey) .nil)

theorem Update.Replaced.conditions
    {left right : Update}
    (update : left.Replaced exchanged right) :
    List.Forall₂ (PiecesReplaced exchanged) (updateConditions dialect left)
      (updateConditions dialect right) := by
  have keys := update.rowKey
  have filters := update.filter
  rw [updateConditions, updateConditions, Entries.isSome_eq_of_rel keys]
  apply List.rel_append
  · generalize left.rowKey = key at keys ⊢
    generalize right.rowKey = keyToo at keys ⊢
    cases keys with
    | none =>
        exact .nil
    | some replaced =>
        exact .cons replaced.pieces .nil
  · generalize left.filter = filter at filters ⊢
    generalize right.filter = filterToo at filters ⊢
    cases filters with
    | none =>
        exact .nil
    | some replaced =>
        refine .cons ?_ .nil
        dsimp only
        rw [replaced.sameDisjunction]
        exact piecesReplaced_enclosedIf _ (replaced.pieces dialect)

theorem Update.Replaced.pieces
    {left right : Update}
    (update : left.Replaced exchanged right) :
    PiecesReplaced exchanged (updatePieces dialect left)
      (updatePieces dialect right) := by
  have conditions := update.conditions dialect
  rw [updatePieces, updatePieces, update.sameTable, update.sameColumns]
  have assignments :=
    piecesReplaced_columns exchanged right.columns assignmentPieces
      fun index column =>
        .cons (.identifier column)
          (.cons (.word .assign) (.cons (.operand _ (.column index)) .nil))
  have opened :
      PiecesReplaced exchanged
        [.word .update, .identifier right.table, .word .set]
        [.word .update, .identifier right.table, .word .set] :=
    .cons (.word .update) (.cons (.identifier _) (.cons (.word .set) .nil))
  have assigned :=
    List.rel_append opened (piecesReplaced_separated .comma assignments)
  apply List.rel_append assigned
  rw [Entries.isEmpty_eq_of_forall₂ conditions]
  split
  · exact .nil
  · exact
      List.rel_append (piecesReplaced_word .filtered)
      (piecesReplaced_separated .both conditions)

theorem Statement.Replaced.pieces
    {left right : Statement}
    (statement : left.Replaced exchanged right) :
    PiecesReplaced exchanged (left.pieces dialect) (right.pieces dialect) := by
  cases statement with
  | select replaced =>
      exact replaced.pieces dialect
  | insert replaced =>
      exact replaced.pieces dialect
  | update replaced =>
      exact replaced.pieces dialect
  | delete replaced =>
      rw [Statement.pieces, Statement.pieces, deletePieces, deletePieces,
        replaced.sameTable]
      apply List.rel_append
        (.cons (.word .deleteFrom) (.cons (.identifier _) .nil))
      exact piecesReplaced_conditionPieces dialect .filtered replaced.filter

end Rendering

/-- Bound parameters of the same names with replaced values. -/
abbrev SlotsReplaced
    (exchanged : Json → Json → Prop) :
    List (String × Slot) →
    List (String × Slot) →
    Prop :=
  Entries.Alike Eq (Slot.Replaced exchanged)

/-- Payloads with replaced values under the same names. -/
inductive Params.Replaced
    (exchanged : Json → Json → Prop) :
    Params →
    Params →
    Prop where
  | single
      {left right : Document}
      (payload : left.Replaced exchanged right) :
      Replaced exchanged (.single left) (.single right)
  | batch
      {left right : List Document}
      (payloads : List.Forall₂ (Document.Replaced exchanged) left right) :
      Replaced exchanged (.batch left) (.batch right)

/-- The same text with payloads that differ by the exchange. -/
structure Rendered.Replaced
    (exchanged : Json → Json → Prop)
    (left right : Rendered) :
    Prop where
  sameText : left.sql = right.sql
  params : left.params.Replaced exchanged right.params

section Binding

variable
  {exchanged : Json → Json → Prop}
  {slots slotsToo : List (String × Slot)}

/-- Names and texts do not depend on the values in the slots. -/
theorem bindPieces_replaced
    (dialect : Dialect)
    {left right : List Piece}
    (pieces : PiecesReplaced exchanged left right)
    (binder : Binder) :
    (bindPieces dialect binder left).texts =
        (bindPieces dialect binder right).texts ∧
      SlotsReplaced exchanged (bindPieces dialect binder left).slots
        (bindPieces dialect binder right).slots := by
  induction pieces generalizing binder with
  | nil =>
      exact ⟨rfl, .nil⟩
  | cons headReplaced _ inductionHypothesis =>
      cases headReplaced with
      | operand naming slot =>
          obtain ⟨sameTexts, restSlots⟩ :=
            inductionHypothesis (binder.bind naming).2
          exact ⟨congrArg (List.cons _) sameTexts, .cons ⟨rfl, slot⟩ restSlots⟩
      | _ =>
          obtain ⟨sameTexts, restSlots⟩ := inductionHypothesis binder
          exact ⟨congrArg (List.cons _) sameTexts, restSlots⟩

/-- The value of a slot is replaced where the values it is taken from are. -/
theorem value_replaced
    {slot slotToo : Slot}
    (replaced : slot.Replaced exchanged slotToo)
    {row rowToo : List Json}
    (values : List.Forall₂ (Json.Replaced exchanged) row rowToo)
    {key keyToo : Option Json}
    (keys : Option.Rel (Json.Replaced exchanged) key keyToo) :
    (slot.value row key).Replaced exchanged (slotToo.value rowToo keyToo) := by
  cases replaced with
  | fixed value =>
      exact value
  | rowKey =>
      cases keys with
      | none =>
          exact .null
      | some value =>
          exact value
  | column index =>
      rw [Slot.value, Slot.value]
      by_cases inRow : index < row.length
      · have inRowToo : index < rowToo.length := values.length_eq ▸ inRow
        rw [List.getElem?_eq_getElem inRow, List.getElem?_eq_getElem inRowToo]
        exact values.get inRow inRowToo
      · have notInRowToo : ¬index < rowToo.length := values.length_eq ▸ inRow
        rw [List.getElem?_eq_none (Nat.le_of_not_lt inRow),
          List.getElem?_eq_none (Nat.le_of_not_lt notInRowToo)]
        exact .null

variable (bound : SlotsReplaced exchanged slots slotsToo)

include bound

theorem payload_replaced
    {row rowToo : List Json}
    (values : List.Forall₂ (Json.Replaced exchanged) row rowToo)
    {key keyToo : Option Json}
    (keys : Option.Rel (Json.Replaced exchanged) key keyToo) :
    Document.Replaced exchanged (payload slots row key)
      (payload slotsToo rowToo keyToo) := by
  refine List.rel_map (fun entry other replaced => ?_) bound
  exact ⟨replaced.1, value_replaced replaced.2 values keys⟩

theorem payloads_replaced
    {rows rowsToo : List (List Json)}
    (replaced : RowsReplaced exchanged rows rowsToo) :
    List.Forall₂ (Document.Replaced exchanged)
      (rows.map fun row => payload slots row none)
      (rowsToo.map fun row => payload slotsToo row none) := by
  refine List.rel_map (fun row rowToo values => ?_) replaced
  exact payload_replaced bound values .none

theorem keyedPayloads_replaced
    {rows rowsToo : List (List Json)}
    (replaced : RowsReplaced exchanged rows rowsToo)
    {keys keysToo : List Json}
    (keysReplaced : List.Forall₂ (Json.Replaced exchanged) keys keysToo) :
    List.Forall₂ (Document.Replaced exchanged)
      (List.zipWith (fun row key => payload slots row (some key)) rows keys)
      (List.zipWith (fun row key => payload slotsToo row (some key)) rowsToo
        keysToo) := by
  induction replaced generalizing keys keysToo with
  | nil =>
      exact .nil
  | cons values _ inductionHypothesis =>
      cases keysReplaced with
      | nil =>
          exact .nil
      | cons key restKeys =>
          exact .cons (payload_replaced bound values (.some key))
            (inductionHypothesis restKeys)

/-- The payloads of a statement are replaced as its values are. -/
theorem Statement.Replaced.params
    {left right : Statement}
    (statement : left.Replaced exchanged right) :
    (left.params slots).Replaced exchanged (right.params slotsToo) := by
  cases statement with
  | select _ =>
      exact .single (payload_replaced bound .nil .none)
  | delete _ =>
      exact .single (payload_replaced bound .nil .none)
  | @insert inserted insertedToo replaced =>
      have rows := replaced.rows
      unfold Statement.params
      dsimp only
      generalize inserted.rows = lefts at rows ⊢
      generalize insertedToo.rows = rights at rows ⊢
      have payloads := payloads_replaced bound rows
      cases rows with
      | nil =>
          exact .batch .nil
      | cons row rest =>
          cases rest with
          | nil =>
              exact .single (payload_replaced bound row .none)
          | cons _ _ =>
              exact .batch payloads
  | @update updated updatedToo replaced =>
      have rows := replaced.rows
      have keys := replaced.rowKey
      unfold Statement.params
      dsimp only
      generalize updated.rowKey = key at keys ⊢
      generalize updatedToo.rowKey = keyToo at keys ⊢
      cases keys with
      | none =>
          refine .single (payload_replaced bound ?_ .none)
          have firsts := Entries.rel_head? rows
          generalize updated.rows.head? = first at firsts ⊢
          generalize updatedToo.rows.head? = firstToo at firsts ⊢
          cases firsts with
          | none =>
              exact .nil
          | some values =>
              exact values
      | some keyReplaced =>
          exact .batch (keyedPayloads_replaced bound rows keyReplaced.values)

omit bound

/--
A statement with replaced values has the same text, and the
payloads are so replaced.
-/
theorem Statement.Replaced.render
    (dialect : Dialect)
    {left right : Statement}
    (statement : left.Replaced exchanged right) :
    (left.render dialect).Replaced exchanged (right.render dialect) := by
  obtain ⟨sameTexts, slotsReplaced⟩ :=
    bindPieces_replaced dialect (statement.pieces dialect) .empty
  exact ⟨congrArg String.join sameTexts, statement.params slotsReplaced⟩

end Binding

end PolyQuery.Sql
