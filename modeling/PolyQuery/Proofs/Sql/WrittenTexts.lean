import PolyQuery.Proofs.Sql.Layout
import PolyQuery.Proofs.Sql.Resolution

namespace PolyQuery.Sql

/-!
# Texts of inserts and updates

The text of a written row names its columns in one order and has one placeholder
for each, in the same order: after each other in the list of values, or behind
the column that it is assigned to.
-/

section Texts

variable
  (dialect : Dialect)
  (binder : Binder)

/-- The text of pieces whose operands a binder names. -/
def piecesText
    (pieces : List Piece) :
    String :=
  String.join (bindPieces dialect binder pieces).texts

theorem piecesText_append
    (first second : List Piece) :
    piecesText dialect binder (first ++ second) =
      piecesText dialect binder first ++
        piecesText dialect (binder.pastAll first) second := by
  rw [piecesText, bindPieces_append, String.join_append]
  rfl

theorem piecesText_word_cons
    (sqlWord : Word)
    (rest : List Piece) :
    piecesText dialect binder (.word sqlWord :: rest) =
      sqlWord.text ++ piecesText dialect binder rest := by
  rw [piecesText, bindPieces_cons, String.join_cons]
  rfl

/--
Pieces that have one text whatever is bound before them, and bind nothing.
-/
structure Constant
    (dialect : Dialect)
    (pieces : List Piece)
    (text : String) :
    Prop where
  text : ∀ binder, piecesText dialect binder pieces = text
  past : ∀ binder : Binder, binder.pastAll pieces = binder
  placed : ∀ binder, placed dialect binder pieces = []

variable {dialect}

theorem constant_nil :
    Constant dialect [] "" where
  text _ := rfl
  past _ := rfl
  placed _ := rfl

theorem Constant.word_cons
    {pieces : List Piece}
    {text : String}
    (constant : Constant dialect pieces text)
    (sqlWord : Word) :
    Constant dialect (.word sqlWord :: pieces) (sqlWord.text ++ text) where
  text binder := by rw [piecesText_word_cons, constant.text]
  past := constant.past
  placed binder := by rw [placed_word_cons, constant.placed]

theorem Constant.identifier_cons
    {pieces : List Piece}
    {text : String}
    (constant : Constant dialect pieces text)
    (name : String) :
    Constant dialect (.identifier name :: pieces)
      (dialect.quote name ++ text) where
  text binder := by
    rw [← constant.text binder, piecesText, bindPieces_cons, String.join_cons]
    rfl
  past := constant.past
  placed binder := by
    have rest := constant.placed binder
    rw [Sql.placed, bindPieces_cons] at *
    exact rest

theorem Constant.append
    {first second : List Piece}
    {text other : String}
    (firstConstant : Constant dialect first text)
    (secondConstant : Constant dialect second other) :
    Constant dialect (first ++ second) (text ++ other) where
  text binder := by
    rw [piecesText_append, firstConstant.past, firstConstant.text,
      secondConstant.text]
  past binder := by
    rw [Binder.pastAll_append, firstConstant.past, secondConstant.past]
  placed binder := by
    rw [placed_append, firstConstant.past, firstConstant.placed,
      secondConstant.placed]
    rfl

/-- The text of a list of names is constant. -/
theorem constant_identifiers
    (columns : List String) :
    Constant dialect
      (separated .comma (columns.map fun column => [.identifier column]))
      (", ".intercalate (columns.map dialect.quote)) := by
  have quoted :
      ∀ column : String,
        Constant dialect [.identifier column] (dialect.quote column) := by
    intro column
    simpa using constant_nil.identifier_cons column
  induction columns with
  | nil =>
      exact constant_nil
  | cons column rest inductionHypothesis =>
      cases rest with
      | nil =>
          simpa [separated_singleton] using quoted column
      | cons next others =>
          simp only [List.map_cons] at inductionHypothesis ⊢
          rw [separated_cons_cons, List.append_assoc,
            String.intercalate_cons_cons, String.append_assoc]
          exact (quoted column).append (inductionHypothesis.word_cons .comma)

/--
An operand behind constant pieces has one placeholder, at the end of the text.
-/
theorem Constant.operand
    {lead : List Piece}
    {told : String}
    (constant : Constant dialect lead told)
    (binder : Binder)
    (naming : Naming)
    (slot : Slot) :
    ∃ placeholder,
      Sql.placed dialect binder (lead ++ [.operand naming slot]) =
          [(placeholder, slot)] ∧
        piecesText dialect binder (lead ++ [.operand naming slot]) =
          told ++ placeholder := by
  refine ⟨dialect.placeholder (binder.bind naming).1 (binder.used.length + 1),
    ?_, ?_⟩
  · rw [placed_append, constant.placed, constant.past, Sql.placed,
      bindPieces_cons]
    rfl
  · rw [piecesText_append, constant.text, constant.past, piecesText,
      bindPieces_cons]
    simp [bindPieces, Piece.text]

/-- The operand of a column behind some pieces. -/
def columnPieces
    (lead : String → List Piece)
    (index : Nat)
    (column : String) :
    List Piece :=
  lead column ++ [.operand (.exact column) (.column index)]

/-- Columns in a list have a placeholder each, in their order. -/
theorem exists_placeholders
    {lead : String → List Piece}
    {told : String → String}
    (constant : ∀ column, Constant dialect (lead column) (told column))
    (binder : Binder)
    (start : Nat)
    (columns : List String) :
    ∃ placeholders : List String,
      placeholders.length = columns.length ∧
        placed dialect binder
            (separated .comma
              (columns.mapIdx fun index column =>
                columnPieces lead (start + index) column)) =
          (placeholders.mapIdx fun index placeholder =>
            (placeholder, Slot.column (start + index))) ∧
        piecesText dialect binder
            (separated .comma
              (columns.mapIdx fun index column =>
                columnPieces lead (start + index) column)) =
          ", ".intercalate
            (List.zipWith (fun column placeholder => told column ++ placeholder)
              columns placeholders) := by
  induction columns generalizing binder start with
  | nil =>
      exact ⟨[], rfl, rfl, rfl⟩
  | cons column rest inductionHypothesis =>
      obtain ⟨placeholder, isPlaced, isText⟩ :
          ∃ placeholder,
            placed dialect binder (columnPieces lead start column) =
                [(placeholder, .column start)] ∧
              piecesText dialect binder (columnPieces lead start column) =
                told column ++ placeholder :=
        (constant column).operand binder (.exact column) (.column start)
      cases rest with
      | nil =>
          refine ⟨[placeholder], rfl, ?_, ?_⟩
          · simpa [separated_singleton] using isPlaced
          · simpa [separated_singleton] using isText
      | cons next others =>
          obtain ⟨placeholders, sameLength, restPlaced, restText⟩ :=
            inductionHypothesis
              (binder.pastAll (columnPieces lead start column)) (start + 1)
          have moved : ∀ index, start + 1 + index = start + (index + 1) := by
            omega
          simp only [moved] at restPlaced restText
          have laidOut :
              separated .comma
                  ((column :: next :: others).mapIdx fun index column =>
                    columnPieces lead (start + index) column) =
                columnPieces lead start column ++
                  .word .comma ::
                    separated .comma
                      ((next :: others).mapIdx fun index column =>
                        columnPieces lead (start + (index + 1)) column) := by
            rw [List.mapIdx_cons, List.mapIdx_cons, separated_cons_cons,
              List.append_assoc]
            rfl
          rw [laidOut]
          refine ⟨placeholder :: placeholders,
            by rw [List.length_cons, sameLength]; rfl, ?_, ?_⟩
          · rw [placed_append, isPlaced, placed_word_cons, restPlaced,
              List.mapIdx_cons]
            rfl
          · have someRest :
                List.zipWith
                    (fun column placeholder => told column ++ placeholder)
                    (next :: others) placeholders ≠ [] := by
              intro isNil
              have sameNone := congrArg List.length isNil
              rw [List.length_zipWith, sameLength, Nat.min_self] at sameNone
              cases sameNone
            rw [piecesText_append, isText, piecesText_word_cons, restText,
              List.zipWith_cons_cons,
              String.intercalate_cons_of_ne_nil someRest]
            exact String.append_assoc.symm

end Texts

/-- The text of an insert with its columns and their placeholders. -/
def insertText
    (dialect : Dialect)
    (table : String)
    (columns placeholders : List String) :
    String :=
  "INSERT INTO " ++ dialect.quote table ++
    if columns.isEmpty then
      match dialect with
      | .mysql => " () VALUES ()"
      | _ => " DEFAULT VALUES"
    else
      " (" ++ ", ".intercalate (columns.map dialect.quote) ++
        ") VALUES (" ++ ", ".intercalate placeholders ++ ")"

/--
The text of an update up to its conditions, with its columns
and their placeholders.
-/
def updateText
    (dialect : Dialect)
    (table : String)
    (columns placeholders : List String) :
    String :=
  "UPDATE " ++ dialect.quote table ++ " SET " ++
    ", ".intercalate
      (List.zipWith
        (fun column placeholder => dialect.quote column ++ " = " ++ placeholder)
        columns placeholders)

/-- The text of the condition that finds the row of a batch update. -/
def rowKeyText
    (dialect : Dialect)
    (key : RowKey)
    (placeholder : String) :
    String :=
  dialect.quote key.table ++ "." ++ dialect.quote key.column ++ " = " ++
    placeholder

theorem insertText_of_pieces
    (dialect : Dialect)
    (insert : Insert) :
    ∃ placeholders : List String,
      placeholders.length = insert.columns.length ∧
        placed dialect .empty (insertPieces dialect insert) =
          (placeholders.mapIdx fun index placeholder =>
            (placeholder, Slot.column index)) ∧
        piecesText dialect .empty (insertPieces dialect insert) =
          insertText dialect insert.table insert.columns placeholders := by
  have heading :
      Constant dialect [.word .insertInto, .identifier insert.table]
        ("INSERT INTO " ++ (dialect.quote insert.table ++ "")) :=
    (constant_nil.identifier_cons insert.table).word_cons .insertInto
  unfold insertPieces insertText
  split
  next noColumns =>
    refine ⟨[], by simp [List.isEmpty_iff.mp noColumns], ?_, ?_⟩
    · rw [placed_append, heading.placed]
      cases dialect <;> rfl
    · rw [piecesText_append, heading.text]
      cases dialect <;> simp [piecesText_word_cons] <;> rfl
  next someColumns =>
    have listed :
        Constant dialect
          ([.word .openColumns] ++
            separated .comma
              (insert.columns.map fun column => [.identifier column]) ++
            [.word .closeParen, .word .openValues])
          (" (" ++ "" ++ ", ".intercalate (insert.columns.map dialect.quote) ++
            (")" ++ (" VALUES (" ++ ""))) :=
      ((constant_nil.word_cons .openColumns).append
        (constant_identifiers insert.columns)).append
        ((constant_nil.word_cons .openValues).word_cons .closeParen)
    have before := heading.append listed
    have noLead : ∀ column : String, Constant dialect [] "" :=
      fun _ => constant_nil
    obtain ⟨placeholders, sameLength, isPlaced, isText⟩ :=
      exists_placeholders noLead .empty 0 insert.columns
    have alone :
        List.zipWith (fun (_ : String) placeholder => "" ++ placeholder)
            insert.columns placeholders =
          placeholders := by
      have paired :
          List.zipWith (fun (_ : String) placeholder => "" ++ placeholder)
              insert.columns placeholders =
            (insert.columns.zip placeholders).map Prod.snd := by
        rw [List.zip, List.map_zipWith]
        simp only [String.empty_append]
      rw [paired, List.map_snd_zip sameLength.le]
    simp only [columnPieces, Nat.zero_add, List.nil_append, alone]
      at isPlaced isText
    have closing : Constant dialect [.word .closeParen] (")" ++ "") :=
      constant_nil.word_cons .closeParen
    refine ⟨placeholders, sameLength, ?_, ?_⟩
    · rw [← List.append_assoc, ← List.append_assoc, placed_append,
        placed_append, before.placed, before.past, isPlaced, closing.placed,
        List.append_nil]
      rfl
    · rw [← List.append_assoc, ← List.append_assoc, piecesText_append,
        piecesText_append, before.text, before.past, isText, closing.text]
      simp [String.append_assoc]

/--
The assignments come first and then the condition for the row, which
a filter may follow.
-/
theorem updatePieces_of_rowKey
    (dialect : Dialect)
    {update : Update}
    {key : RowKey}
    (isKey : update.rowKey = some key) :
    ∃ more,
      updatePieces dialect update =
        update.head ++ ([.word .filtered] ++ rowKeyPieces key) ++ more := by
  unfold updatePieces updateConditions Update.head
  rw [isKey]
  cases update.filter with
  | none =>
      exact ⟨[], by simp [separated_singleton]⟩
  | some filter =>
      exact ⟨_, by simp [separated_cons_cons]; rfl⟩

theorem updateText_of_head
    (dialect : Dialect)
    (update : Update) :
    ∃ placeholders : List String,
      placeholders.length = update.columns.length ∧
        placed dialect .empty update.head =
          (placeholders.mapIdx fun index placeholder =>
            (placeholder, Slot.column index)) ∧
        piecesText dialect .empty update.head =
          updateText dialect update.table update.columns placeholders := by
  have heading :
      Constant dialect [.word .update, .identifier update.table, .word .set]
        ("UPDATE " ++ (dialect.quote update.table ++ (" SET " ++ ""))) :=
    ((constant_nil.word_cons .set).identifier_cons update.table).word_cons
      .update
  have assigned :
      ∀ column,
        Constant dialect [.identifier column, .word .assign]
          (dialect.quote column ++ (" = " ++ "")) := fun column =>
    (constant_nil.word_cons .assign).identifier_cons column
  obtain ⟨placeholders, sameLength, isPlaced, isText⟩ :=
    exists_placeholders assigned .empty 0 update.columns
  simp only [Nat.zero_add] at isPlaced isText
  have columnsPlaced :
      placed dialect .empty
          (separated .comma (update.columns.mapIdx assignmentPieces)) =
        placeholders.mapIdx fun index placeholder =>
          (placeholder, Slot.column index) :=
    isPlaced
  have columnsText :
      piecesText dialect .empty
          (separated .comma (update.columns.mapIdx assignmentPieces)) =
        ", ".intercalate
          (List.zipWith
            (fun column placeholder =>
              dialect.quote column ++ (" = " ++ "") ++ placeholder)
            update.columns placeholders) :=
    isText
  refine ⟨placeholders, sameLength, ?_, ?_⟩
  · rw [Update.head, placed_append, heading.placed, heading.past,
      columnsPlaced]
    rfl
  · rw [Update.head, piecesText_append, heading.text, heading.past,
      columnsText]
    simp only [updateText, String.append_assoc, String.append_empty]

theorem rowKeyText_of_pieces
    (dialect : Dialect)
    (binder : Binder)
    (key : RowKey) :
    ∃ placeholder,
      placed dialect binder ([.word .filtered] ++ rowKeyPieces key) =
          [(placeholder, Slot.rowKey)] ∧
        piecesText dialect binder ([.word .filtered] ++ rowKeyPieces key) =
          " WHERE " ++ rowKeyText dialect key placeholder := by
  have lead :
      Constant dialect
        [.word .filtered, .identifier key.table, .word .dot,
          .identifier key.column, .word .assign]
        (" WHERE " ++ (dialect.quote key.table ++
          ("." ++ (dialect.quote key.column ++ (" = " ++ ""))))) :=
    ((((constant_nil.word_cons .assign).identifier_cons key.column).word_cons
      .dot).identifier_cons key.table).word_cons .filtered
  obtain ⟨placeholder, isPlaced, isText⟩ :=
    lead.operand binder (.exact (key.column ++ "_match")) .rowKey
  refine ⟨placeholder, isPlaced, isText.trans ?_⟩
  simp only [rowKeyText, String.append_assoc, String.append_empty]

theorem updateText_of_pieces
    (dialect : Dialect)
    {update : Update}
    {key : RowKey}
    (isKey : update.rowKey = some key) :
    ∃ (placeholders : List String) (keyPlaceholder rest : String),
      placeholders.length = update.columns.length ∧
        ((placeholders.mapIdx fun index placeholder =>
          (placeholder, Slot.column index)) ++
            [(keyPlaceholder, Slot.rowKey)]) ⊆
          placed dialect .empty (updatePieces dialect update) ∧
        piecesText dialect .empty (updatePieces dialect update) =
          updateText dialect update.table update.columns placeholders ++
            " WHERE " ++ rowKeyText dialect key keyPlaceholder ++ rest := by
  obtain ⟨more, isMore⟩ := updatePieces_of_rowKey dialect isKey
  obtain ⟨placeholders, sameLength, isPlaced, isText⟩ :=
    updateText_of_head dialect update
  obtain ⟨keyPlaceholder, keyPlaced, keyText⟩ :=
    rowKeyText_of_pieces dialect (Binder.empty.pastAll update.head) key
  refine ⟨placeholders, keyPlaceholder,
    piecesText dialect
      (Binder.empty.pastAll
        (update.head ++ ([.word .filtered] ++ rowKeyPieces key))) more,
    sameLength, ?_, ?_⟩
  · rw [isMore, placed_append, placed_append, isPlaced, keyPlaced]
    exact List.subset_append_left _ _
  · rw [isMore, piecesText_append, piecesText_append, isText, keyText]
    simp only [String.append_assoc]

end PolyQuery.Sql
