import PolyQuery.Proofs.Sql.Lexemes
import PolyQuery.Proofs.Sql.Resolution

namespace PolyQuery.Sql

/-!
# Conditions

A condition is made of predicates over columns and parameters, which are joined
by connectives that are never without terms. Whether it holds depends on which
of its predicates do. The text of a predicate is read as this predicate, its
placeholders in place of its values.
-/

namespace Expr

/-- The operand that an expression is, if it is a column or a parameter. -/
def asOperand? : Expr → Option (Operand Json)
  | .column table name => some (.column table name)
  | .operand _ value => some (.parameter value)
  | _ => none

/-- The operands that expressions are, if all of them are some. -/
def asOperands? : List Expr → Option (List (Operand Json))
  | [] => some []
  | expr :: rest => do
      let operand ← expr.asOperand?
      let others ← asOperands? rest
      return operand :: others

/--
The predicate over columns and parameters that an expression is, if it is one.
-/
def atom? : Expr → Option (Predicate Json)
  | .comparison left sign right => do
      let left ← left.asOperand?
      let right ← right.asOperand?
      return .comparison left sign right
  | .isNull subject negated => do
      let subject ← subject.asOperand?
      return .isNull subject negated
  | .inList subject items negated => do
      let subject ← subject.asOperand?
      let items ← asOperands? items
      if items.isEmpty then
        none
      else
        return .inList subject items negated
  | .between subject low high => do
      let subject ← subject.asOperand?
      let low ← low.asOperand?
      let high ← high.asOperand?
      return .between subject low high
  | .like subject pattern ignoringCase => do
      let subject ← subject.asOperand?
      let pattern ← pattern.asOperand?
      return .like subject pattern ignoringCase
  | _ => none

mutual

/-- Whether a condition holds, by which predicates do. -/
def holds
    (truth : Predicate Json → Bool) :
    Expr →
    Bool
  | .conjunction terms => allHold truth terms
  | .disjunction terms => anyHolds truth terms
  | .constant value => value
  | expr => expr.atom?.any truth

/-- Whether every term holds. -/
def allHold
    (truth : Predicate Json → Bool) :
    List Expr →
    Bool
  | [] => true
  | term :: rest => holds truth term && allHold truth rest

/-- Whether some term holds. -/
def anyHolds
    (truth : Predicate Json → Bool) :
    List Expr →
    Bool
  | [] => false
  | term :: rest => holds truth term || anyHolds truth rest

end

section Meaning

variable (truth : Predicate Json → Bool)

theorem holds_of_atom?
    {expr : Expr}
    {asked : Predicate Json}
    (isAsked : expr.atom? = some asked) :
    expr.holds truth = truth asked := by
  cases expr with
  | comparison | isNull | inList | between | like => simp [holds, isAsked]
  | _ => cases isAsked

theorem holds_conjunction
    (terms : List Expr) :
    (conjunction terms).holds truth =
      (terms.map (holds truth)).foldr and true := by
  rw [holds]
  induction terms with
  | nil => rfl
  | cons term rest inductionHypothesis => rw [allHold, inductionHypothesis]; rfl

theorem holds_disjunction
    (terms : List Expr) :
    (disjunction terms).holds truth =
      (terms.map (holds truth)).foldr or false := by
  rw [holds]
  induction terms with
  | nil => rfl
  | cons term rest inductionHypothesis =>
      rw [anyHolds, inductionHypothesis]; rfl

end Meaning

/--
Predicates over columns and parameters, joined by connectives that have terms.
-/
inductive IsCondition : Expr → Prop
  | predicate
      {expr : Expr}
      {asked : Predicate Json}
      (isAsked : expr.atom? = some asked) :
      IsCondition expr
  | constant
      (value : Bool) :
      IsCondition (.constant value)
  | conjunction
      {terms : List Expr}
      (notEmpty : terms ≠ [])
      (each : ∀ term ∈ terms, IsCondition term) :
      IsCondition (.conjunction terms)
  | disjunction
      {terms : List Expr}
      (notEmpty : terms ≠ [])
      (each : ∀ term ∈ terms, IsCondition term) :
      IsCondition (.disjunction terms)

end Expr

/-- Which predicates hold, with placeholders that are resolved in them. -/
def resolvedTruth
    (resolve : String → Json)
    (truth : Predicate Json → Bool)
    (asked : Predicate String) :
    Bool :=
  truth (asked.map resolve)

section Reading

variable
  {dialect : Dialect}
  {row : List Json}
  {key : Option Json}
  {resolve : String → Json}

variable (dialect row key resolve) in
/-- The text of pieces is read as an operand, wherever the pieces stand. -/
def ReadsAsOperand
    (pieces : List Piece)
    (operand : Operand Json) :
    Prop :=
  ∀ binder, Resolves dialect row key resolve binder pieces →
    ∃ read : Operand String,
      lexemesOf dialect binder pieces = [.operand read] ∧
        read.map resolve = operand

theorem readsAsOperand_column
    (table : Option String)
    (name : String) :
    ReadsAsOperand dialect row key resolve
      (exprPieces dialect (.column table name)) (.column table name) := by
  intro binder resolved
  refine ⟨.column table name, ?_, rfl⟩
  cases table with
  | none =>
      simp [lexemesOf, exprPieces, bindPieces, lex_quote, lexemes,
        Lexeme.ofToken]
  | some table =>
      have dot : lex dialect Word.dot.text = [.symbol '.'] := by
        cases dialect <;> decide +kernel
      simp [lexemesOf, exprPieces, bindPieces, lex_quote, lexemes, dot]

theorem readsAsOperand_parameter
    (naming : Naming)
    (slot : Slot) :
    ReadsAsOperand dialect row key resolve [.operand naming slot]
      (.parameter (slot.value row key)) := by
  intro binder resolved
  have isResolved :
      resolve
          (dialect.placeholder (binder.bind naming).1
            (binder.used.length + 1)) =
        slot.value row key :=
    resolved (_, slot) (List.mem_singleton_self _)
  refine ⟨.parameter _, ?_, by rw [Operand.map, isResolved]⟩
  rw [lexemesOf, bindPieces_cons]
  simp [bindPieces, Piece.text,
    lex_placeholder (binder.isBindableName_bind naming), lexemes,
    Lexeme.ofToken]

theorem read_operand
    {expr : Expr}
    {operand : Operand Json}
    (isOperand : expr.asOperand? = some operand) :
    ReadsAsOperand dialect row key resolve (exprPieces dialect expr)
      operand := by
  cases expr with
  | column table name =>
      cases isOperand
      exact readsAsOperand_column table name
  | operand base value =>
      cases isOperand
      exact readsAsOperand_parameter (.numbered base) (.fixed value)
  | _ => cases isOperand

/-- The text of a list is read as its items. -/
theorem read_items
    {items : List Expr}
    {operands : List (Operand Json)}
    (areOperands : Expr.asOperands? items = some operands)
    (notEmpty : items ≠ [])
    {binder : Binder}
    (resolved :
      Resolves dialect row key resolve binder
        (separated .comma (itemPieces dialect items))) :
    ∃ reads : List (Operand String),
      (∀ rest,
        items?
            (lexemesOf dialect binder
              (separated .comma (itemPieces dialect items)) ++
              .symbol ')' :: rest) =
          some (reads, rest)) ∧
        reads.map (Operand.map resolve) = operands := by
  induction items generalizing operands binder with
  | nil => exact absurd rfl notEmpty
  | cons item others inductionHypothesis =>
      simp only [Expr.asOperands?, bind, Option.bind_eq_some_iff, pure,
        Option.some.injEq]
        at areOperands
      obtain ⟨operand, isOperand, otherOperands, areOthers, rfl⟩ := areOperands
      cases others with
      | nil =>
          cases areOthers
          rw [itemPieces, itemPieces, separated_singleton] at resolved ⊢
          obtain ⟨read, lexed, rfl⟩ := read_operand isOperand binder resolved
          refine ⟨[read], fun rest => ?_, rfl⟩
          rw [lexed]
          rfl
      | cons next others =>
          rw [itemPieces, itemPieces, separated_cons_cons] at resolved ⊢
          obtain ⟨itemResolved, othersResolved⟩ := resolves_around.mp resolved
          obtain ⟨read, lexed, rfl⟩ :=
            read_operand isOperand binder itemResolved
          obtain ⟨reads, othersLexed, rfl⟩ :=
            inductionHypothesis areOthers (List.cons_ne_nil _ _) othersResolved
          refine ⟨read :: reads, fun rest => ?_, rfl⟩
          rw [itemPieces] at othersLexed
          rw [lexemesOf_around dialect binder .comma rfl, lexed]
          simp only [Word.lexemes, List.cons_append, List.nil_append, items?,
            othersLexed, Option.map_some]

/--
The text of two operands with a word between them is read as these operands.
-/
theorem read_infix
    {left right : List Piece}
    {leftOperand rightOperand : Operand Json}
    (leftReads : ReadsAsOperand dialect row key resolve left leftOperand)
    (rightReads : ReadsAsOperand dialect row key resolve right rightOperand)
    {sqlWord : Word}
    (isRead : sqlWord.lexemes.isEmpty = false)
    {binder : Binder}
    (resolved :
      Resolves dialect row key resolve binder
        (left ++ [.word sqlWord] ++ right)) :
    ∃ leftRead rightRead : Operand String,
      lexemesOf dialect binder (left ++ [.word sqlWord] ++ right) =
          .operand leftRead :: (sqlWord.lexemes ++ [.operand rightRead]) ∧
        leftRead.map resolve = leftOperand ∧
          rightRead.map resolve = rightOperand := by
  obtain ⟨leftResolved, rightResolved⟩ := resolves_around.mp resolved
  obtain ⟨leftRead, leftLexed, leftIs⟩ := leftReads binder leftResolved
  obtain ⟨rightRead, rightLexed, rightIs⟩ :=
    rightReads (binder.pastAll left) rightResolved
  refine ⟨leftRead, rightRead, ?_, leftIs, rightIs⟩
  rw [lexemesOf_around dialect binder sqlWord isRead, leftLexed, rightLexed]
  rfl

/--
The text of a pattern to match is read as it, in whichever way
letter case is ignored.
-/
theorem read_like
    {subject pattern : Expr}
    {subjectOperand patternOperand : Operand Json}
    (isSubject : subject.asOperand? = some subjectOperand)
    (isPattern : pattern.asOperand? = some patternOperand)
    {ignoringCase : Bool}
    {binder : Binder}
    (resolved :
      Resolves dialect row key resolve binder
        (exprPieces dialect (.like subject pattern ignoringCase))) :
    ∃ read : Predicate String,
      (∀ rest,
        primary?
            (lexemesOf dialect binder
              (exprPieces dialect (.like subject pattern ignoringCase)) ++
              rest) =
          some (.predicate read, rest)) ∧
        read.map resolve =
          .like subjectOperand patternOperand ignoringCase := by
  rw [exprPieces] at resolved ⊢
  cases ignoringCase with
  | false =>
      simp only [Bool.not_false, if_true] at resolved ⊢
      obtain ⟨subject, pattern, lexed, rfl, rfl⟩ :=
        read_infix (read_operand isSubject) (read_operand isPattern) rfl
          resolved
      refine ⟨.like subject pattern false, fun rest => ?_, rfl⟩
      rw [lexed]
      rfl
  | true =>
      cases blind : dialect.hasCaseBlindLike with
      | true =>
          simp only [blind, Bool.not_true, Bool.false_eq_true, if_false,
            if_true]
            at resolved ⊢
          obtain ⟨subject, pattern, lexed, rfl, rfl⟩ :=
            read_infix (read_operand isSubject) (read_operand isPattern) rfl
              resolved
          refine ⟨.like subject pattern true, fun rest => ?_, rfl⟩
          rw [lexed]
          rfl
      | false =>
          simp only [blind, Bool.not_true, Bool.false_eq_true, if_false]
            at resolved ⊢
          rw [List.append_assoc (_ ++ _)] at resolved ⊢
          obtain ⟨subjectResolved, patternResolved⟩ :=
            resolves_around.mp resolved
          obtain ⟨subject, subjectLexed, rfl⟩ :=
            read_operand isSubject
              _ (resolves_enclosed (resolves_word_cons.mp subjectResolved))
          obtain ⟨pattern, patternLexed, rfl⟩ :=
            read_operand isPattern
              _ (resolves_enclosed (resolves_word_cons.mp patternResolved))
          refine ⟨.like subject pattern true, fun rest => ?_, rfl⟩
          rw [lexemesOf_around dialect binder .like rfl, lexemesOf_lowered,
            subjectLexed, lexemesOf_lowered, patternLexed]
          rfl

/-- The text of a predicate is read as this predicate. -/
theorem read_atom
    {expr : Expr}
    {asked : Predicate Json}
    (isAsked : expr.atom? = some asked)
    {binder : Binder}
    (resolved :
      Resolves dialect row key resolve binder (exprPieces dialect expr)) :
    ∃ read : Predicate String,
      (∀ rest,
        primary? (lexemesOf dialect binder (exprPieces dialect expr) ++ rest) =
          some (.predicate read, rest)) ∧
        read.map resolve = asked := by
  cases expr with
  | comparison left sign right =>
      simp only [Expr.atom?, bind, Option.bind_eq_some_iff, pure,
        Option.some.injEq] at isAsked
      obtain ⟨leftOperand, isLeft, rightOperand, isRight, rfl⟩ := isAsked
      rw [exprPieces] at resolved ⊢
      obtain ⟨left, right, lexed, rfl, rfl⟩ :=
        read_infix (read_operand isLeft) (read_operand isRight)
          (by cases sign <;> rfl) resolved
      refine ⟨.comparison left sign right, fun rest => ?_, rfl⟩
      rw [lexed]
      cases sign <;> rfl
  | isNull subject negated =>
      simp only [Expr.atom?, bind, Option.bind_eq_some_iff, pure,
        Option.some.injEq] at isAsked
      obtain ⟨operand, isSubject, rfl⟩ := isAsked
      rw [exprPieces] at resolved ⊢
      obtain ⟨subject, lexed, rfl⟩ :=
        read_operand isSubject _ (resolves_append.mp resolved).1
      refine ⟨.isNull subject negated, fun rest => ?_, rfl⟩
      rw [lexemesOf_before dialect binder _ (by cases negated <;> rfl), lexed]
      cases negated <;> rfl
  | inList subject items negated =>
      simp only [Expr.atom?, bind, Option.bind_eq_some_iff, pure,
        Option.ite_none_left_eq_some, Option.some.injEq] at isAsked
      obtain ⟨operand, isSubject, operands, areItems, notEmpty, rfl⟩ := isAsked
      have hasItem : items ≠ [] := by
        rintro rfl
        cases areItems
        exact notEmpty rfl
      rw [exprPieces] at resolved ⊢
      obtain ⟨subjectResolved, itemsResolved⟩ := resolves_around.mp resolved
      obtain ⟨subject, subjectLexed, rfl⟩ :=
        read_operand isSubject _ subjectResolved
      obtain ⟨items, itemsLexed, rfl⟩ :=
        read_items areItems hasItem (resolves_enclosed itemsResolved)
      refine ⟨.inList subject items negated, fun rest => ?_, rfl⟩
      rw [lexemesOf_around dialect binder _ (by cases negated <;> rfl),
        subjectLexed, lexemesOf_enclosed]
      cases negated <;> simp [Word.lexemes, primary?, predicate?, itemsLexed]
  | between subject low high =>
      simp only [Expr.atom?, bind, Option.bind_eq_some_iff, pure,
        Option.some.injEq] at isAsked
      obtain ⟨operand, isSubject, lowest, isLow, highest, isHigh, rfl⟩ :=
        isAsked
      rw [exprPieces] at resolved ⊢
      obtain ⟨boundResolved, highResolved⟩ := resolves_around.mp resolved
      obtain ⟨subject, low, lexed, rfl, rfl⟩ :=
        read_infix (read_operand isSubject) (read_operand isLow) rfl
          boundResolved
      obtain ⟨high, highLexed, rfl⟩ := read_operand isHigh _ highResolved
      refine ⟨.between subject low high, fun rest => ?_, rfl⟩
      rw [lexemesOf_around dialect binder .both rfl, lexed, highLexed]
      rfl
  | like subject pattern ignoringCase =>
      simp only [Expr.atom?, bind, Option.bind_eq_some_iff, pure,
        Option.some.injEq] at isAsked
      obtain ⟨operand, isSubject, text, isPattern, rfl⟩ := isAsked
      exact read_like isSubject isPattern resolved
  | _ => cases isAsked

end Reading

end PolyQuery.Sql
