import Mathlib.Data.List.Chain
import PolyQuery.Proofs.Sql.Names

namespace PolyQuery.Sql

/-!
# Layout of pieces

Of two pieces that stand side by side, one is a word that keeps them apart: the
first ends, or the second begins, with a separator. So no token reaches over the
end of a piece, and the tokens of a statement are those of its pieces.
-/

theorem separated_singleton
    (sqlWord : Word)
    (part : List Piece) :
    separated sqlWord [part] = part := by
  simp [separated]

theorem separated_cons_cons
    (sqlWord : Word)
    (part next : List Piece)
    (others : List (List Piece)) :
    separated sqlWord (part :: next :: others) =
      part ++ [.word sqlWord] ++ separated sqlWord (next :: others) :=
  List.intercalate_cons_cons

/-- Whether a piece is a word that begins with a separator. -/
def Piece.opens : Piece → Bool
  | .word sqlWord => sqlWord.text.toList.head?.any separators.contains
  | _ => false

/-- Whether a piece is a word that ends with a separator. -/
def Piece.closes : Piece → Bool
  | .word sqlWord => sqlWord.text.toList.getLast?.any separators.contains
  | _ => false

/-- A separator keeps two pieces apart. -/
def Apart
    (left right : Piece) :
    Prop :=
  left.closes = true ∨ right.opens = true

/-- Separators keep pieces apart from their neighbours. -/
def Spaced
    (pieces : List Piece) :
    Prop :=
  pieces.IsChain Apart

section Spacing

variable {pieces first second : List Piece}

theorem spaced_nil :
    Spaced [] :=
  .nil

theorem spaced_singleton
    (piece : Piece) :
    Spaced [piece] :=
  .singleton piece

/--
Pieces may follow others that end with a separator, or be there
with one at their start.
-/
theorem Spaced.append
    (firstSpaced : Spaced first)
    (secondSpaced : Spaced second)
    (kept :
      (∀ last ∈ first.getLast?, last.closes = true) ∨ ∀ next ∈ second.head?,
        next.opens = true) :
    Spaced (first ++ second) := by
  refine List.isChain_append.mpr ⟨firstSpaced, secondSpaced, ?_⟩
  intro last isLast next isNext
  exact kept.imp (fun closed => closed last isLast) fun opened =>
    opened next isNext

/-- A word with separators on both sides keeps pieces apart. -/
theorem Spaced.around
    {sqlWord : Word}
    (firstSpaced : Spaced first)
    (secondSpaced : Spaced second)
    (opened : (Piece.word sqlWord).opens = true)
    (closed : (Piece.word sqlWord).closes = true) :
    Spaced (first ++ [.word sqlWord] ++ second) := by
  refine (firstSpaced.append (spaced_singleton _) (.inr ?_)).append secondSpaced
    (.inl ?_)
  · simpa using opened
  · simpa using closed

/-- A word that ends with a separator may come before pieces. -/
theorem Spaced.after
    {sqlWord : Word}
    (spaced : Spaced pieces)
    (closed : (Piece.word sqlWord).closes = true) :
    Spaced ([.word sqlWord] ++ pieces) :=
  (spaced_singleton _).append spaced (.inl (by simpa using closed))

/-- A word that begins with a separator may come after pieces. -/
theorem Spaced.before
    {sqlWord : Word}
    (spaced : Spaced pieces)
    (opened : (Piece.word sqlWord).opens = true) :
    Spaced (pieces ++ [.word sqlWord]) :=
  spaced.append (spaced_singleton _) (.inr (by simpa using opened))

theorem Spaced.enclosed
    (spaced : Spaced pieces) :
    Spaced (enclosed pieces) :=
  (spaced.after rfl).before rfl

theorem Spaced.lowered
    (spaced : Spaced pieces) :
    Spaced ([.word .lowered] ++ Sql.enclosed pieces) := by
  refine (spaced_singleton _).append spaced.enclosed (.inr ?_)
  intro next isNext
  cases isNext
  rfl

theorem Spaced.enclosedIf
    (spaced : Spaced pieces)
    (needed : Bool) :
    Spaced (enclosedIf needed pieces) := by
  unfold Sql.enclosedIf
  split
  · exact spaced.enclosed
  · exact spaced

theorem spaced_separated
    {sqlWord : Word}
    {parts : List (List Piece)}
    (spaced : ∀ part ∈ parts, Spaced part)
    (opened : (Piece.word sqlWord).opens = true)
    (closed : (Piece.word sqlWord).closes = true) :
    Spaced (separated sqlWord parts) := by
  induction parts with
  | nil =>
      exact spaced_nil
  | cons part rest inductionHypothesis =>
      obtain ⟨partSpaced, restSpaced⟩ := List.forall_mem_cons.mp spaced
      cases rest with
      | nil =>
          rw [separated_singleton]
          exact partSpaced
      | cons next others =>
          rw [separated_cons_cons]
          exact partSpaced.around (inductionHypothesis restSpaced) opened closed

end Spacing

/--
What holds of an expression if it does of the expressions in it holds of all.
-/
theorem Expr.inductionOn
    {motive : Expr → Prop}
    (column : ∀ table name, motive (.column table name))
    (operand : ∀ base value, motive (.operand base value))
    (raw : ∀ sql, motive (.raw sql))
    (countAll : motive .countAll)
    (comparison :
      ∀ left sign right,
        motive left → motive right → motive (.comparison left sign right))
    (isNull :
      ∀ subject negated, motive subject → motive (.isNull subject negated))
    (inList :
      ∀ subject items negated, motive subject → (∀ item ∈ items, motive item) →
        motive (.inList subject items negated))
    (between :
      ∀ subject low high, motive subject → motive low → motive high →
        motive (.between subject low high))
    (like :
      ∀ subject pattern ignoringCase, motive subject → motive pattern →
        motive (.like subject pattern ignoringCase))
    (conjunction :
      ∀ terms, (∀ term ∈ terms, motive term) → motive (.conjunction terms))
    (disjunction :
      ∀ terms, (∀ term ∈ terms, motive term) → motive (.disjunction terms))
    (constant : ∀ value, motive (.constant value))
    (expr : Expr) :
    motive expr :=
  @Expr.rec motive (fun exprs => ∀ expr ∈ exprs, motive expr) column operand raw
    countAll comparison isNull inList between like conjunction disjunction
    constant
    (fun _ none => absurd none List.not_mem_nil)
    (fun _ _ first rest => List.forall_mem_cons.mpr ⟨first, rest⟩) expr

section Parts

variable (dialect : Dialect)

theorem itemPieces_eq_map
    (items : List Expr) :
    itemPieces dialect items = items.map (exprPieces dialect) := by
  induction items with
  | nil => rw [itemPieces, List.map_nil]
  | cons item rest inductionHypothesis =>
      rw [itemPieces, inductionHypothesis, List.map_cons]

theorem conjunctPieces_eq_map
    (terms : List Expr) :
    conjunctPieces dialect terms =
      terms.map fun term =>
        enclosedIf term.isDisjunction (exprPieces dialect term) := by
  induction terms with
  | nil => rw [conjunctPieces, List.map_nil]
  | cons term rest inductionHypothesis =>
      rw [conjunctPieces, inductionHypothesis, List.map_cons]

theorem disjunctPieces_eq_map
    (terms : List Expr) :
    disjunctPieces dialect terms =
      terms.map fun term =>
        enclosedIf term.isConjunction (exprPieces dialect term) := by
  induction terms with
  | nil => rw [disjunctPieces, List.map_nil]
  | cons term rest inductionHypothesis =>
      rw [disjunctPieces, inductionHypothesis, List.map_cons]

theorem spaced_exprPieces
    (expr : Expr) :
    Spaced (exprPieces dialect expr) := by
  induction expr using Expr.inductionOn with
  | column table name =>
      cases table with
      | none => exact spaced_singleton _
      | some table =>
          exact (spaced_singleton _).around (spaced_singleton _) rfl rfl
  | operand base value => exact spaced_singleton _
  | raw sql => exact spaced_singleton _
  | countAll => exact spaced_singleton _
  | comparison left sign right leftSpaced rightSpaced =>
      exact leftSpaced.around rightSpaced (by cases sign <;> rfl)
        (by cases sign <;> rfl)
  | isNull subject negated subjectSpaced =>
      exact subjectSpaced.before (by cases negated <;> rfl)
  | inList subject items negated subjectSpaced itemsSpaced =>
      have listed : Spaced (separated .comma (itemPieces dialect items)) := by
        rw [itemPieces_eq_map]
        exact spaced_separated (List.forall_mem_map.mpr itemsSpaced) rfl rfl
      exact
        subjectSpaced.around listed.enclosed (by cases negated <;> rfl)
          (by cases negated <;> rfl)
  | between subject low high subjectSpaced lowSpaced highSpaced =>
      exact (subjectSpaced.around lowSpaced rfl rfl).around highSpaced rfl rfl
  | like subject pattern ignoringCase subjectSpaced patternSpaced =>
      rw [exprPieces]
      split
      · exact subjectSpaced.around patternSpaced rfl rfl
      · split
        · exact subjectSpaced.around patternSpaced rfl rfl
        · simpa only [List.append_assoc] using
            subjectSpaced.lowered.around patternSpaced.lowered rfl rfl
  | conjunction terms termsSpaced =>
      rw [exprPieces, conjunctPieces_eq_map]
      exact
        spaced_separated
          (List.forall_mem_map.mpr fun term member =>
            (termsSpaced term member).enclosedIf _)
          rfl rfl
  | disjunction terms termsSpaced =>
      rw [exprPieces, disjunctPieces_eq_map]
      exact
        spaced_separated
          (List.forall_mem_map.mpr fun term member =>
            (termsSpaced term member).enclosedIf _)
          rfl rfl
  | constant value => exact spaced_singleton _

end Parts

/--
Pieces that may come after any others: a separator is at their
start, if they are any.
-/
structure IsClause
    (pieces : List Piece) :
    Prop where
  spaced : Spaced pieces
  opened : ∀ next ∈ pieces.head?, next.opens = true

/--
Pieces that may come before any others: a separator is at their
end, if they are any.
-/
structure IsLead
    (pieces : List Piece) :
    Prop where
  spaced : Spaced pieces
  closed : ∀ last ∈ pieces.getLast?, last.closes = true

section Clauses

variable {pieces first second : List Piece}

theorem IsLead.spaced_append
    (isLead : IsLead first)
    (spaced : Spaced second) :
    Spaced (first ++ second) :=
  isLead.spaced.append spaced (.inl isLead.closed)

theorem IsLead.append
    (firstLead : IsLead first)
    (secondLead : IsLead second) :
    IsLead (first ++ second) where
  spaced := firstLead.spaced_append secondLead.spaced
  closed := by
    rcases List.eq_nil_or_concat second with isNil | ⟨front, last, isConcat⟩
    · rw [isNil, List.append_nil]
      exact firstLead.closed
    · intro final isFinal
      refine secondLead.closed final ?_
      simpa [isConcat] using isFinal

theorem isLead_singleton
    {sqlWord : Word}
    (closed : (Piece.word sqlWord).closes = true) :
    IsLead [.word sqlWord] where
  spaced := spaced_singleton _
  closed := by simpa using closed

/-- Pieces before a word with separators on both sides. -/
theorem Spaced.isLead
    {sqlWord : Word}
    (spaced : Spaced pieces)
    (opened : (Piece.word sqlWord).opens = true)
    (closed : (Piece.word sqlWord).closes = true) :
    IsLead (pieces ++ [.word sqlWord]) where
  spaced := spaced.before opened
  closed := by simpa using closed

theorem Spaced.clause
    (spaced : Spaced first)
    (isClause : IsClause second) :
    Spaced (first ++ second) :=
  spaced.append isClause.spaced (.inr isClause.opened)

theorem isClause_nil :
    IsClause [] where
  spaced := spaced_nil
  opened := by simp

theorem IsClause.append
    (firstClause : IsClause first)
    (secondClause : IsClause second) :
    IsClause (first ++ second) where
  spaced := firstClause.spaced.clause secondClause
  opened := by
    cases first with
    | nil => exact secondClause.opened
    | cons piece rest => exact firstClause.opened

theorem isClause_singleton
    {sqlWord : Word}
    (opened : (Piece.word sqlWord).opens = true) :
    IsClause [.word sqlWord] where
  spaced := spaced_singleton _
  opened := by simpa using opened

/-- Pieces after a word with separators on both sides. -/
theorem Spaced.isClause
    {sqlWord : Word}
    (spaced : Spaced pieces)
    (opened : (Piece.word sqlWord).opens = true)
    (closed : (Piece.word sqlWord).closes = true) :
    IsClause ([.word sqlWord] ++ pieces) where
  spaced := spaced.after closed
  opened := by simpa using opened

end Clauses

section Statements

variable (dialect : Dialect)

theorem isClause_conditionPieces
    {sqlWord : Word}
    (opened : (Piece.word sqlWord).opens = true)
    (closed : (Piece.word sqlWord).closes = true)
    (condition : Option Expr) :
    IsClause (conditionPieces dialect sqlWord condition) := by
  cases condition with
  | none => exact isClause_nil
  | some expr => exact (spaced_exprPieces dialect expr).isClause opened closed

theorem isClause_clausePieces
    {sqlWord : Word}
    (opened : (Piece.word sqlWord).opens = true)
    (closed : (Piece.word sqlWord).closes = true)
    {parts : List (List Piece)}
    (spaced : ∀ part ∈ parts, Spaced part) :
    IsClause (clausePieces sqlWord parts) := by
  unfold clausePieces
  split
  · exact isClause_nil
  · exact (spaced_separated spaced rfl rfl).isClause opened closed

theorem spaced_resultPieces
    (item : Item) :
    Spaced (resultPieces dialect item) := by
  refine (spaced_exprPieces dialect item.expr).clause ?_
  split
  · exact (spaced_singleton _).isClause rfl rfl
  · exact isClause_nil

theorem spaced_orderPieces
    (term : Expr × Direction) :
    Spaced (orderPieces dialect term) :=
  (spaced_exprPieces dialect term.1).before (by cases term.2 <;> rfl)

theorem spaced_listed
    (exprs : List Expr) :
    ∀ part ∈ itemPieces dialect exprs, Spaced part := by
  rw [itemPieces_eq_map]
  exact List.forall_mem_map.mpr fun expr _ => spaced_exprPieces dialect expr

theorem isLead_distinctPieces
    (distinct : Distinct) :
    IsLead (distinctPieces dialect distinct) := by
  cases distinct with
  | none => exact { spaced := spaced_nil, closed := by simp [distinctPieces] }
  | all => exact isLead_singleton rfl
  | on exprs =>
      rw [distinctPieces]
      split
      · exact ((spaced_separated (spaced_listed dialect exprs) rfl rfl).after
          rfl).isLead rfl rfl
      · exact isLead_singleton rfl

theorem isLead_headPieces
    (body : SelectBody) :
    IsLead (headPieces dialect body) := by
  have lead :
      IsLead ([.word .select] ++ distinctPieces dialect body.distinct) :=
    (isLead_singleton rfl).append (isLead_distinctPieces dialect body.distinct)
  have items :
      Spaced (separated .comma (body.items.map (resultPieces dialect))) :=
    spaced_separated
      (List.forall_mem_map.mpr fun item _ => spaced_resultPieces dialect item)
      rfl rfl
  exact (lead.spaced_append items).isLead rfl rfl

theorem isClause_tailPieces
    (body : SelectBody) :
    IsClause (tailPieces dialect body) := by
  unfold tailPieces
  refine
    ((((isClause_conditionPieces dialect rfl rfl _).append
      (isClause_clausePieces rfl rfl (spaced_listed dialect _))).append
      (isClause_conditionPieces dialect rfl rfl _)).append
      (isClause_clausePieces rfl rfl ?_)).append ?_
  · exact List.forall_mem_map.mpr fun term _ => spaced_orderPieces dialect term
  · split
    · exact (spaced_singleton _).isClause rfl rfl
    · exact isClause_nil

theorem spaced_selectPieces
    (select : Select) :
    Spaced (selectPieces dialect select) := by
  induction select with
  | fromTable table body =>
      exact
        ((isLead_headPieces dialect body).spaced_append
          (spaced_singleton _)).clause (isClause_tailPieces dialect body)
  | fromSelect source name body sourceSpaced =>
      exact
        (((isLead_headPieces dialect body).spaced_append
          sourceSpaced.enclosed).clause
          ((spaced_singleton _).isClause rfl rfl)).clause
          (isClause_tailPieces dialect body)

/-- Columns and the values for them, both in parentheses. -/
theorem isClause_rowLists
    {columns values : List Piece}
    (columnsSpaced : Spaced columns)
    (valuesSpaced : Spaced values) :
    IsClause
      ([.word .openColumns] ++ columns ++
        [.word .closeParen, .word .openValues] ++ values ++
        [.word .closeParen]) := by
  have valuesListed :
      Spaced ([.word .openValues] ++ (values ++ [.word .closeParen])) :=
    (valuesSpaced.before rfl).after rfl
  have bothListed :
      IsClause
        ([.word .openColumns] ++
          (columns ++ [.word .closeParen] ++
            ([.word .openValues] ++ (values ++ [.word .closeParen])))) :=
    (columnsSpaced.around valuesListed rfl rfl).isClause rfl rfl
  simpa only [List.append_assoc, List.cons_append, List.nil_append]
    using bothListed

theorem spaced_insertPieces
    (insert : Insert) :
    Spaced (insertPieces dialect insert) := by
  refine ((spaced_singleton _).after rfl).clause ?_
  split
  · split <;> exact isClause_singleton rfl
  · have columns :
        Spaced
          (separated .comma
            (insert.columns.map fun column => [.identifier column])) :=
      spaced_separated
        (List.forall_mem_map.mpr fun column _ => spaced_singleton _) rfl rfl
    have values :
        Spaced (separated .comma (insert.columns.mapIdx fun index column =>
          [.operand (.exact column) (.column index)])) := by
      refine spaced_separated ?_ rfl rfl
      intro part member
      obtain ⟨index, within, isPart⟩ := List.mem_mapIdx.mp member
      rw [← isPart]
      exact spaced_singleton _
    exact isClause_rowLists columns values

theorem spaced_updateConditions
    (update : Update) :
    ∀ part ∈ updateConditions dialect update, Spaced part := by
  intro part member
  rcases List.mem_append.mp member with ofKey | ofFilter
  · obtain ⟨key, -, isPart⟩ :=
      Option.map_eq_some_iff.mp (Option.mem_toList.mp ofKey)
    rw [← isPart]
    exact
      ((spaced_singleton _).around (spaced_singleton _) rfl rfl).around
        (spaced_singleton _) rfl rfl
  · obtain ⟨filter, -, isPart⟩ :=
      Option.map_eq_some_iff.mp (Option.mem_toList.mp ofFilter)
    rw [← isPart]
    exact (spaced_exprPieces dialect filter).enclosedIf _

/-- The pieces of an update before its conditions. -/
def Update.head
    (update : Update) :
    List Piece :=
  [.word .update, .identifier update.table, .word .set] ++
    separated .comma (update.columns.mapIdx assignmentPieces)

theorem spaced_head
    (update : Update) :
    Spaced update.head := by
  have lead : IsLead [.word .update, .identifier update.table, .word .set] :=
    ((spaced_singleton (.identifier update.table)).after rfl).isLead rfl rfl
  have assignments :
      Spaced (separated .comma (update.columns.mapIdx assignmentPieces)) := by
    refine spaced_separated ?_ rfl rfl
    intro part member
    obtain ⟨index, within, isPart⟩ := List.mem_mapIdx.mp member
    rw [← isPart]
    exact (spaced_singleton _).around (spaced_singleton _) rfl rfl
  exact lead.spaced_append assignments

theorem spaced_updatePieces
    (update : Update) :
    Spaced (updatePieces dialect update) := by
  refine (spaced_head update).clause ?_
  split
  · exact isClause_nil
  · exact (spaced_separated (spaced_updateConditions dialect update) rfl
      rfl).isClause rfl rfl

/-- The pieces of a statement are kept apart. -/
theorem spaced_pieces
    (statement : Statement) :
    Spaced (statement.pieces dialect) := by
  cases statement with
  | select statement => exact spaced_selectPieces dialect statement
  | insert statement => exact spaced_insertPieces dialect statement
  | update statement => exact spaced_updatePieces dialect statement
  | delete statement =>
      exact
        ((spaced_singleton _).after rfl).clause
          (isClause_conditionPieces dialect rfl rfl statement.filter)

end Statements

section Tokens

variable (dialect : Dialect)

theorem isPlainText_word
    (sqlWord : Word) :
    isPlainText sqlWord.text = true := by
  cases sqlWord with
  | sign comparison => cases comparison <;> rfl
  | _ => rfl

theorem isOver_of_closes
    {sqlWord : Word}
    (closes : (Piece.word sqlWord).closes = true) :
    (lastMode dialect sqlWord.text).isOver = true := by
  simp only [Piece.closes, Option.any_eq_true] at closes
  obtain ⟨last, isLast, separates⟩ := closes
  exact
    isOver_of_plain dialect (isPlainText_word sqlWord) isLast
      (List.contains_iff_mem.mp separates)

/-- A piece that is no fragment of the caller's leaves nothing open. -/
theorem settled_text
    {piece : Piece}
    (binder : Binder)
    (settled :
      ∀ sql, piece = .raw sql → (lastMode dialect sql).IsSettled dialect) :
    (lastMode dialect (piece.text dialect binder)).IsSettled dialect := by
  cases piece with
  | word sqlWord =>
      exact (holdsNoPlaceholder_of_plain dialect
        (isPlainText_word sqlWord)).settled
  | identifier name =>
      rw [Piece.text, lastMode_quote]
      intro character separates
      have noMark :
          ∀ separator ∈ separators, separator ≠ dialect.quoteMark := by
        simp only [separators, List.forall_mem_cons, List.not_mem_nil,
          false_implies, implies_true]
        cases dialect <;> decide
      exact if_neg (noMark character separates)
  | raw sql => exact settled sql rfl
  | operand naming slot =>
      exact lastMode_placeholder (binder.isBindableName_bind naming) _

/-- What follows a piece begins anew if a separator keeps them apart. -/
theorem endsBefore_of_apart
    {piece next : Piece}
    (binder : Binder)
    (settled : (lastMode dialect (piece.text dialect binder)).IsSettled dialect)
    (apart : Apart piece next)
    (nextBinder : Binder)
    (rest : List Char) :
    (lastMode dialect (piece.text dialect binder)).EndsBefore dialect
      ((next.text dialect nextBinder).toList ++ rest) := by
  rcases apart with closes | opens
  · cases piece with
    | word sqlWord =>
        exact Mode.endsBefore_of_isOver (isOver_of_closes dialect closes) _ _
    | identifier | raw | operand => cases closes
  · cases next with
    | identifier | raw | operand => cases opens
    | word sqlWord =>
        intro character isFirst
        refine settled character ?_
        simp only [Piece.opens, Option.any_eq_true] at opens
        obtain ⟨first, isHead, separates⟩ := opens
        obtain ⟨others, isText⟩ := List.head?_eq_some_iff.mp isHead
        have sameFirst : first = character := by
          simpa [Piece.text, isText] using isFirst
        rw [← sameFirst]
        simpa using separates

/--
The tokens of pieces that are kept apart are those of every piece by itself.
-/
theorem lex_join
    {pieces : List Piece}
    (spaced : Spaced pieces)
    (settled :
      ∀ sql, .raw sql ∈ pieces → (lastMode dialect sql).IsSettled dialect)
    (binder : Binder) :
    lex dialect (String.join (bindPieces dialect binder pieces).texts) =
      (bindPieces dialect binder pieces).texts.flatMap (lex dialect) := by
  induction pieces generalizing binder with
  | nil => rfl
  | cons piece rest inductionHypothesis =>
      have restLexed :=
        inductionHypothesis spaced.tail
          (fun sql member => settled sql (List.mem_cons_of_mem _ member))
          (binder.past piece)
      have pieceSettled :=
        settled_text dialect binder fun sql isRaw =>
          settled sql (isRaw ▸ List.mem_cons_self)
      have ends :
          (lastMode dialect (piece.text dialect binder)).EndsBefore dialect
            (String.join
              (bindPieces dialect (binder.past piece) rest).texts).toList := by
        cases rest with
        | nil => simp [bindPieces, Mode.EndsBefore]
        | cons next others =>
            rw [bindPieces_cons, String.toList_join, List.flatMap_cons]
            exact
              endsBefore_of_apart dialect binder pieceSettled
                (List.isChain_cons_cons.mp spaced).1 _ _
      rw [bindPieces_cons, List.flatMap_cons, ← restLexed, lex,
        String.toList_join, List.flatMap_cons, ← String.toList_join]
      exact scan_append ends

end Tokens

end PolyQuery.Sql
