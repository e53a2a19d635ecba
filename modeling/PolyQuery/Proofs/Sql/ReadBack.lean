import PolyQuery.Proofs.Sql.Precedence

namespace PolyQuery.Sql

/-!
# Restrictions read back

What a statement restricts its rows to is read back from its text as it was
meant: a condition as the tree that it was rendered from, and the restriction of
an update as the key of the row together with the filter.
-/

namespace Expr

theorem fragments_of_asOperand?
    {expr : Expr}
    {operand : Operand Json}
    (isOperand : expr.asOperand? = some operand) :
    expr.leaves.filterMap fragment? = [] := by
  cases expr with
  | column | operand => rfl
  | _ => cases isOperand

theorem fragments_of_asOperands?
    {exprs : List Expr}
    {operands : List (Operand Json)}
    (areOperands : asOperands? exprs = some operands) :
    (leavesOfAll exprs).filterMap fragment? = [] := by
  induction exprs generalizing operands with
  | nil => rfl
  | cons expr rest inductionHypothesis =>
      simp only [asOperands?, bind, Option.bind_eq_some_iff, pure,
        Option.some.injEq]
        at areOperands
      obtain ⟨operand, isOperand, others, areOthers, rfl⟩ := areOperands
      rw [leavesOfAll, List.filterMap_append, fragments_of_asOperand? isOperand,
        inductionHypothesis areOthers]
      rfl

theorem fragments_of_atom?
    {expr : Expr}
    {asked : Predicate Json}
    (isAsked : expr.atom? = some asked) :
    expr.leaves.filterMap fragment? = [] := by
  cases expr with
  | comparison left sign right =>
      simp only [atom?, bind, Option.bind_eq_some_iff, pure, Option.some.injEq]
        at isAsked
      obtain ⟨_, isLeft, _, isRight, -⟩ := isAsked
      simp [leaves, fragments_of_asOperand? isLeft,
        fragments_of_asOperand? isRight]
  | isNull subject negated =>
      simp only [atom?, bind, Option.bind_eq_some_iff, pure, Option.some.injEq]
        at isAsked
      obtain ⟨_, isSubject, -⟩ := isAsked
      simp [leaves, fragments_of_asOperand? isSubject]
  | inList subject items negated =>
      simp only [atom?, bind, Option.bind_eq_some_iff] at isAsked
      obtain ⟨_, isSubject, _, areItems, -⟩ := isAsked
      simp [leaves, fragments_of_asOperand? isSubject,
        fragments_of_asOperands? areItems]
  | between subject low high =>
      simp only [atom?, bind, Option.bind_eq_some_iff, pure, Option.some.injEq]
        at isAsked
      obtain ⟨_, isSubject, _, isLow, _, isHigh, -⟩ := isAsked
      simp [leaves, fragments_of_asOperand? isSubject,
        fragments_of_asOperand? isLow, fragments_of_asOperand? isHigh]
  | like subject pattern ignoringCase =>
      simp only [atom?, bind, Option.bind_eq_some_iff, pure, Option.some.injEq]
        at isAsked
      obtain ⟨_, isSubject, _, isPattern, -⟩ := isAsked
      simp [leaves, fragments_of_asOperand? isSubject,
        fragments_of_asOperand? isPattern]
  | _ => cases isAsked

/-- A condition holds no fragment of the caller's. -/
theorem IsCondition.fragments_eq_nil
    {expr : Expr}
    (isCondition : expr.IsCondition) :
    expr.fragments = [] := by
  unfold fragments
  induction isCondition with
  | predicate isAsked => exact fragments_of_atom? isAsked
  | constant value => rfl
  | conjunction _ _ inductionHypothesis | disjunction _ _ inductionHypothesis =>
      rw [leaves, leavesOfAll_eq_flatMap, List.filterMap_flatMap,
        List.flatMap_eq_nil_iff]
      exact inductionHypothesis

end Expr

/-- The text of a condition is read as its lexemes. -/
theorem lex_condition
    (dialect : Dialect)
    {expr : Expr}
    (isCondition : expr.IsCondition)
    (binder : Binder) :
    lexemes dialect
        (lex dialect
          (String.join
            (bindPieces dialect binder (exprPieces dialect expr)).texts)) =
      lexemesOf dialect binder (exprPieces dialect expr) := by
  refine congrArg (lexemes dialect)
    (lex_join dialect (spaced_exprPieces dialect expr) ?_ binder)
  intro sql member
  -- The condition is that of a delete, whose text is known to be read as its
  -- lexemes.
  have neutral :
      ∀ sql ∈ (Statement.delete
        { table := "", filter := some expr }).fragments dialect,
        HoldsNoPlaceholder dialect sql := by
    intro sql inFragments
    rw [Statement.fragments, Statement.exprs, Option.toList_some,
      List.flatMap_singleton, isCondition.fragments_eq_nil] at inFragments
    cases inFragments
  refine (holdsNoPlaceholder_of_raw_mem dialect _ neutral ?_).settled
  exact List.mem_append_right _ (List.mem_append_right _ member)

section Updates

variable
  {dialect : Dialect}
  {row : List Json}
  {key : Option Json}
  {resolve : String → Json}
  {truth : Predicate Json → Bool}

/--
The text of the key of a row is read as the key's column having the row's value.
-/
theorem read_rowKeyPieces
    (rowKey : RowKey)
    (binder : Binder)
    (resolved : Resolves dialect row key resolve binder (rowKeyPieces rowKey)) :
    ReadsAsFactor (resolvedTruth resolve truth)
      (lexemesOf dialect binder (rowKeyPieces rowKey))
      (truth (.comparison (.column (some rowKey.table) rowKey.column) .equal
        (.parameter (key.getD .null)))) := by
  have pieces :
      rowKeyPieces rowKey =
        exprPieces dialect (.column (some rowKey.table) rowKey.column) ++
          [.word .assign] ++
          [.operand (.exact (rowKey.column ++ "_match")) .rowKey] := by
    rw [exprPieces]
    rfl
  rw [pieces] at resolved ⊢
  obtain ⟨left, right, lexed, isLeft, isRight⟩ :=
    read_infix (readsAsOperand_column (some rowKey.table) rowKey.column)
      (readsAsOperand_parameter (.exact (rowKey.column ++ "_match")) .rowKey)
      rfl resolved
  have primary :
      ∀ rest,
        primary?
            (.operand left :: (Word.assign.lexemes ++ [.operand right]) ++
              rest) =
          some (.predicate (.comparison left .equal right), rest) :=
    fun _ => rfl
  have asked :
      (Predicate.comparison left .equal right).map resolve =
        .comparison (.column (some rowKey.table) rowKey.column) .equal
          (.parameter (key.getD .null)) := by
    rw [Predicate.map, isLeft, isRight]
    rfl
  rw [lexed, ← asked]
  exact readsAsFactor_primary primary

/--
Whether an update changes a row: its key is that of the batch row,
and the filter holds.
-/
def Update.changes
    (truth : Predicate Json → Bool)
    (key : Option Json)
    (update : Update) :
    Bool :=
  (update.rowKey.all fun rowKey =>
      truth (.comparison (.column (some rowKey.table) rowKey.column) .equal
        (.parameter (key.getD .null)))) &&
    update.filter.all (Expr.holds truth)

/-- The text of the conditions of an update is read as the conditions. -/
theorem read_updateConditions
    {update : Update}
    (restricted : update.rowKey.isSome = true ∨ update.filter.isSome = true)
    (areConditions : ∀ filter ∈ update.filter, filter.IsCondition)
    (binder : Binder)
    (resolved :
      Resolves dialect row key resolve binder
        (separated .both (updateConditions dialect update))) :
    ReadsAsCondition (resolvedTruth resolve truth)
      (lexemesOf dialect binder
        (separated .both (updateConditions dialect update)))
      (update.changes truth key) := by
  obtain ⟨table, columns, rows, filter, rowKey⟩ := update
  cases rowKey with
  | none =>
      cases filter with
      | none => simp at restricted
      | some filter =>
          have conditions :
              separated .both
                  (updateConditions dialect
                    ⟨table, columns, rows, some filter, none⟩) =
                exprPieces dialect filter :=
            separated_singleton _ _
          rw [conditions] at resolved ⊢
          exact (areConditions filter rfl).readsBack.condition binder resolved
  | some rowKey =>
      cases filter with
      | none =>
          have conditions :
              separated .both
                  (updateConditions dialect
                    ⟨table, columns, rows, none, some rowKey⟩) =
                rowKeyPieces rowKey :=
            separated_singleton _ _
          rw [conditions] at resolved ⊢
          simpa [Update.changes]
            using (read_rowKeyPieces rowKey binder resolved).condition
      | some filter =>
          have conditions :
              separated .both
                  (updateConditions dialect
                    ⟨table, columns, rows, some filter, some rowKey⟩) =
                rowKeyPieces rowKey ++ [.word .both] ++
                  enclosedIf filter.isDisjunction
                    (exprPieces dialect filter) := by
            simp [updateConditions, separated_cons_cons, separated_singleton]
          rw [conditions] at resolved ⊢
          obtain ⟨keyResolved, filterResolved⟩ := resolves_around.mp resolved
          rw [lexemesOf_around dialect binder .both rfl, List.append_assoc]
          exact
            ((read_rowKeyPieces rowKey binder keyResolved).both
              ((areConditions filter rfl).readsBack.conjunct
                _ filterResolved)).condition

theorem updatePieces_eq
    {update : Update}
    (restricted : update.rowKey.isSome = true ∨ update.filter.isSome = true) :
    updatePieces dialect update =
      update.head ++ [.word .filtered] ++
        separated .both (updateConditions dialect update) := by
  have notEmpty : (updateConditions dialect update).isEmpty = false := by
    unfold updateConditions
    rcases restricted with hasKey | hasFilter
    · obtain ⟨rowKey, isKey⟩ := Option.isSome_iff_exists.mp hasKey
      rw [isKey]
      rfl
    · obtain ⟨filter, isFilter⟩ := Option.isSome_iff_exists.mp hasFilter
      rw [isFilter]
      simp
  simp only [updatePieces, Update.head, notEmpty, List.append_assoc]
  rfl

theorem forall_mem_separated
    {holds : Piece → Prop}
    {sqlWord : Word}
    (ofWord : holds (.word sqlWord))
    {parts : List (List Piece)}
    (ofParts : ∀ part ∈ parts, ∀ piece ∈ part, holds piece) :
    ∀ piece ∈ separated sqlWord parts, holds piece := by
  induction parts with
  | nil => exact List.forall_mem_nil _
  | cons part rest inductionHypothesis =>
      obtain ⟨ofPart, ofRest⟩ := List.forall_mem_cons.mp ofParts
      cases rest with
      | nil =>
          rw [separated_singleton]
          exact ofPart
      | cons next others =>
          rw [separated_cons_cons, List.forall_mem_append,
            List.forall_mem_append]
          exact ⟨⟨ofPart, List.forall_mem_singleton.mpr ofWord⟩,
            inductionHypothesis ofRest⟩

/-- No keyword for a restriction is read before the conditions of an update. -/
theorem where_not_mem_head
    (update : Update)
    (binder : Binder) :
    .keyword .where ∉ lexemesOf dialect binder update.head := by
  have ofWords :
      ∀ sqlWord ∈ [Word.update, .set, .comma, .assign],
        (Piece.word sqlWord).mayHold dialect .where = false := by
    cases dialect <;> decide +kernel
  refine keyword_not_mem_lexemesOf dialect binder
    (List.forall_mem_append.mpr ⟨?_, ?_⟩)
  · intro piece member
    simp only [List.mem_cons, List.not_mem_nil, or_false] at member
    rcases member with rfl | rfl | rfl
    · exact ofWords .update (by simp)
    · rfl
    · exact ofWords .set (by simp)
  · refine forall_mem_separated (ofWords .comma (by simp)) ?_
    intro part partMember
    obtain ⟨index, within, rfl⟩ := List.mem_mapIdx.mp partMember
    intro piece member
    simp only [assignmentPieces, List.mem_cons, List.not_mem_nil, or_false]
      at member
    rcases member with rfl | rfl | rfl
    · rfl
    · exact ofWords .assign (by simp)
    · rfl

/-- The text of an update is restricted to what its conditions are read as. -/
theorem restriction?_update
    {update : Update}
    (restricted : update.rowKey.isSome = true ∨ update.filter.isSome = true)
    (areConditions : ∀ filter ∈ update.filter, filter.IsCondition) :
    restriction? dialect ((Statement.update update).render dialect).sql =
      expecting none none []
        (lexemesOf dialect (Binder.empty.pastAll update.head)
          (separated .both (updateConditions dialect update))) := by
  have neutral :
      ∀ sql ∈ (Statement.update update).fragments dialect,
        HoldsNoPlaceholder dialect sql := by
    intro sql member
    obtain ⟨filter, isFilter, inFilter⟩ := List.mem_flatMap.mp member
    rw [(areConditions filter (Option.mem_toList.mp isFilter)).fragments_eq_nil]
      at inFilter
    cases inFilter
  have lexed :
      lexemes dialect
          (lex dialect ((Statement.update update).render dialect).sql) =
        lexemesOf dialect .empty (updatePieces dialect update) :=
    congrArg (lexemes dialect)
      (lex_join dialect (spaced_pieces dialect (.update update))
        (fun sql member =>
          (holdsNoPlaceholder_of_raw_mem dialect (.update update) neutral
            member).settled)
        .empty)
  have noneBefore :
      ∀ lexeme ∈ lexemesOf dialect .empty update.head,
        decide (lexeme ≠ .keyword .where) = true := by
    intro lexeme member
    refine decide_eq_true fun isWhere => ?_
    exact where_not_mem_head update .empty (isWhere ▸ member)
  rw [restriction?, lexed, updatePieces_eq restricted,
    lexemesOf_around dialect .empty .filtered rfl, List.append_assoc,
    List.dropWhile_append_of_pos noneBefore]
  rfl

end Updates

/--
Whether a formula holds, its placeholders standing for the values of a payload.
-/
def Formula.holdsWith
    (dialect : Dialect)
    (payload : Document)
    (truth : Predicate Json → Bool)
    (formula : Formula String) :
    Bool :=
  formula.holds (resolvedTruth (valueAt dialect payload) truth)

/-- The text of a condition that stands behind other pieces. -/
def conditionText
    (dialect : Dialect)
    (before : List Piece)
    (condition : Expr) :
    String :=
  String.join
    (bindPieces dialect (Binder.empty.pastAll before)
      (exprPieces dialect condition)).texts

section Texts

variable
  (dialect : Dialect)
  (row : List Json)
  (key : Option Json)
  (truth : Predicate Json → Bool)

/--
The text of a condition is parsed to a formula that holds as the condition does.
-/
theorem parse_conditionText
    {condition : Expr}
    (isCondition : condition.IsCondition)
    (before after : List Piece) :
    ∃ formula : Formula String,
      parse dialect (conditionText dialect before condition) = some formula ∧
        formula.holdsWith dialect
            (payload
              (bindPieces dialect .empty
                (before ++ exprPieces dialect condition ++ after)).slots
              row key)
            truth =
          condition.holds truth := by
  have resolved :=
    resolves_valueAt dialect row key
      (before ++ exprPieces dialect condition ++ after)
  have conditionResolved :=
    (resolves_append.mp (resolves_append.mp resolved).1).2
  rw [parse, conditionText, lex_condition dialect isCondition]
  exact (isCondition.readsBack.condition (Binder.empty.pastAll before)
    conditionResolved).parsed

/--
The restriction of an update is parsed to a formula for the key of
the row and the filter.
-/
theorem parse_restriction
    {update : Update}
    (restricted : update.rowKey.isSome = true ∨ update.filter.isSome = true)
    (areConditions : ∀ filter ∈ update.filter, filter.IsCondition) :
    ∃ formula : Formula String,
      restriction? dialect ((Statement.update update).render dialect).sql =
          some formula ∧
        formula.holdsWith dialect
            (payload
              (bindPieces dialect .empty (updatePieces dialect update)).slots
              row key)
            truth =
          update.changes truth key := by
  have resolved :=
    resolves_valueAt dialect row key (updatePieces dialect update)
  rw [updatePieces_eq restricted] at resolved ⊢
  have conditionsResolved := (resolves_around.mp resolved).2
  rw [restriction?_update restricted areConditions]
  exact (read_updateConditions restricted areConditions
    _ conditionsResolved).parsed

end Texts

/--
Restrictions are read back as they were meant.

Wherever a condition stands in a statement, its text is parsed to a formula that
holds as the condition does, whichever predicates hold. The restriction of an
update is parsed so to the key of the row together with the filter. Placeholders
stand for the values that the payload has for them.
-/
theorem restrictions_read_back
    (dialect : Dialect) :
    (∀ (condition : Expr) (before : List Piece), condition.IsCondition →
      ∃ formula : Formula String,
        parse dialect (conditionText dialect before condition) = some formula ∧
          ∀ (after : List Piece) (row : List Json) (key : Option Json)
            (truth : Predicate Json → Bool),
            formula.holdsWith dialect
                (payload
                  (bindPieces dialect .empty
                    (before ++ exprPieces dialect condition ++ after)).slots
                  row key)
                truth =
              condition.holds truth) ∧
    ∀ update : Update,
      update.rowKey.isSome = true ∨ update.filter.isSome = true →
        (∀ filter ∈ update.filter, filter.IsCondition) →
          ∃ formula : Formula String,
            restriction? dialect
                ((Statement.update update).render dialect).sql = some formula ∧
              ∀ source payload,
                (source, payload) ∈
                    (Statement.update update).sources.zip
                      ((Statement.update update).render
                        dialect).params.payloads →
                  ∀ truth : Predicate Json → Bool,
                    formula.holdsWith dialect payload truth =
                      update.changes truth source.2 := by
  constructor
  · intro condition before isCondition
    obtain ⟨formula, parsed, -⟩ :=
      parse_conditionText dialect [] none (fun _ => true) isCondition before []
    refine ⟨formula, parsed, fun after row key truth => ?_⟩
    obtain ⟨again, parsedAgain, holds⟩ :=
      parse_conditionText dialect row key truth isCondition before after
    cases parsed.symm.trans parsedAgain
    exact holds
  · intro update restricted areConditions
    obtain ⟨formula, parsed, -⟩ :=
      parse_restriction dialect [] none (fun _ => true) restricted areConditions
    refine ⟨formula, parsed, fun source payload member truth => ?_⟩
    obtain ⟨again, parsedAgain, holds⟩ :=
      parse_restriction dialect source.1 source.2 truth restricted areConditions
    cases parsed.symm.trans parsedAgain
    rw [Statement.render, payloads_params] at member
    obtain ⟨index, within, isPair⟩ := List.mem_iff_getElem.mp member
    rw [List.getElem_zip, List.getElem_map] at isPair
    obtain ⟨isSource, isPayload⟩ := Prod.mk.inj isPair
    rw [← isPayload, isSource]
    exact holds

/--
An update of a batch of rows whose filter is a disjunction, with a range in it.
-/
def rangedBatch : Update :=
  {
    table := "t"
    columns := ["v"]
    rows := [[.ofInt 1], [.ofInt 2]]
    filter := some (.disjunction [
      .conjunction [
        .between (.column none "a") (.operand "a" (.ofInt 3))
          (.operand "a" (.ofInt 4)),
        .constant true],
      .isNull (.column none "b") false])
    rowKey :=
      some { table := "t", column := "id", values := [.ofInt 5, .ofInt 6] }
  }

theorem restrictions_read_back_of_rangedBatch :
    (rangedBatch.rowKey.isSome = true ∨ rangedBatch.filter.isSome = true) ∧
      (∀ filter ∈ rangedBatch.filter, filter.IsCondition) ∧
        ∃ formula : Formula String,
          restriction? .sqlite
            ((Statement.update rangedBatch).render .sqlite).sql =
              some formula ∧
            ∀ source payload,
              (source, payload) ∈
                  (Statement.update rangedBatch).sources.zip
                    ((Statement.update rangedBatch).render
                      .sqlite).params.payloads →
                ∀ truth : Predicate Json → Bool,
                  formula.holdsWith .sqlite payload truth =
                    rangedBatch.changes truth source.2 := by
  have restricted :
      rangedBatch.rowKey.isSome = true ∨ rangedBatch.filter.isSome = true :=
    .inl rfl
  have areConditions : ∀ filter ∈ rangedBatch.filter, filter.IsCondition := by
    intro filter isFilter
    cases isFilter
    refine .disjunction (List.cons_ne_nil _ _) ?_
    refine List.forall_mem_cons.mpr
      ⟨?_, List.forall_mem_singleton.mpr (.predicate rfl)⟩
    refine .conjunction (List.cons_ne_nil _ _) ?_
    exact List.forall_mem_cons.mpr
      ⟨.predicate rfl, List.forall_mem_singleton.mpr (.constant true)⟩
  exact
    ⟨restricted, areConditions,
      (restrictions_read_back .sqlite).2 rangedBatch restricted areConditions⟩

end PolyQuery.Sql
