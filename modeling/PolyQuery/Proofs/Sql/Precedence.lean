import PolyQuery.Proofs.Sql.Conditions
import PolyQuery.Proofs.Sql.Placeholders

namespace PolyQuery.Sql

/-!
# Precedence

The text of a condition is read back as this condition: parentheses stand
wherever a disjunction is to hold together with something else, be it with the
other terms of a conjunction or with the key of a row.
-/

section Reading

variable (truth : Predicate String → Bool)

/--
Lexemes are read as one factor with a meaning, in every place where a factor is
expected: it is to hold together with the factors before it.
-/
def ReadsAsFactor
    (lexemes : List Lexeme)
    (meaning : Bool) :
    Prop :=
  ∀ alternative factor outer rest, ∃ formula : Formula String,
    expecting alternative factor outer (lexemes ++ rest) =
        continuing alternative formula outer rest ∧
      formula.holds truth = (factor.all (Formula.holds truth) && meaning)

/--
Lexemes are read as a condition with a meaning, in every place where a condition
may go on: it is one more alternative to those before it.
-/
def ReadsAsCondition
    (lexemes : List Lexeme)
    (meaning : Bool) :
    Prop :=
  ∀ alternative outer rest,
    ∃ (further : Option (Formula String)) (formula : Formula String),
    expecting alternative none outer (lexemes ++ rest) =
        continuing further formula outer rest ∧
      (alternated further formula).holds truth =
        (alternative.any (Formula.holds truth) || meaning)

variable
  {truth}
  {lexemes first second : List Lexeme}
  {meaning firstMeaning secondMeaning : Bool}

theorem ReadsAsFactor.condition
    (reads : ReadsAsFactor truth lexemes meaning) :
    ReadsAsCondition truth lexemes meaning := by
  intro alternative outer rest
  obtain ⟨formula, read, holds⟩ := reads alternative none outer rest
  refine ⟨alternative, formula, read, ?_⟩
  rw [holds_alternated, holds, Option.all_none, Bool.true_and]

/-- A condition in parentheses is one factor. -/
theorem ReadsAsCondition.enclosed
    (reads : ReadsAsCondition truth lexemes meaning) :
    ReadsAsFactor truth (.symbol '(' :: (lexemes ++ [.symbol ')']))
      meaning := by
  intro alternative factor outer rest
  obtain ⟨further, formula, read, holds⟩ :=
    reads none (⟨alternative, factor⟩ :: outer) (.symbol ')' :: rest)
  refine ⟨joined factor (alternated further formula), ?_, ?_⟩
  · rw [List.cons_append, List.append_assoc, expecting_open,
      List.singleton_append, read, continuing_close]
  · rw [holds_joined, holds, Option.any_none, Bool.false_or]

/-- Factors with a conjunction between them hold together. -/
theorem ReadsAsFactor.both
    (firstReads : ReadsAsFactor truth first firstMeaning)
    (secondReads : ReadsAsFactor truth second secondMeaning) :
    ReadsAsFactor truth (first ++ .keyword .and :: second)
      (firstMeaning && secondMeaning) := by
  intro alternative factor outer rest
  obtain ⟨formula, read, holds⟩ :=
    firstReads alternative factor outer (.keyword .and :: second ++ rest)
  obtain ⟨together, readOn, togetherHold⟩ :=
    secondReads alternative (some formula) outer rest
  refine ⟨together, ?_, ?_⟩
  · rw [List.append_assoc, read, List.cons_append, continuing_and, readOn]
  · rw [togetherHold, Option.all_some, holds, Bool.and_assoc]

/-- Of conditions with a disjunction between them, one holds. -/
theorem ReadsAsCondition.either
    (firstReads : ReadsAsCondition truth first firstMeaning)
    (secondReads : ReadsAsCondition truth second secondMeaning) :
    ReadsAsCondition truth (first ++ .keyword .or :: second)
      (firstMeaning || secondMeaning) := by
  intro alternative outer rest
  obtain ⟨further, formula, read, holds⟩ :=
    firstReads alternative outer (.keyword .or :: second ++ rest)
  obtain ⟨last, lastFormula, readOn, lastHolds⟩ :=
    secondReads (some (alternated further formula)) outer rest
  refine ⟨last, lastFormula, ?_, ?_⟩
  · rw [List.append_assoc, read, List.cons_append, continuing_or, readOn]
  · rw [lastHolds, Option.any_some, holds, Bool.or_assoc]

/-- A predicate is one factor. -/
theorem readsAsFactor_primary
    {formula : Formula String}
    (read : ∀ rest, primary? (lexemes ++ rest) = some (formula, rest)) :
    ReadsAsFactor truth lexemes (formula.holds truth) := by
  intro alternative factor outer rest
  exact
    ⟨joined factor formula,
      expecting_primary alternative factor formula outer rest (read rest),
      holds_joined truth factor formula⟩

/-- A condition by itself is parsed. -/
theorem ReadsAsCondition.parsed
    (reads : ReadsAsCondition truth lexemes meaning) :
    ∃ formula : Formula String,
      expecting none none [] lexemes = some formula ∧
        formula.holds truth = meaning := by
  obtain ⟨further, formula, read, holds⟩ := reads none [] []
  rw [List.append_nil, continuing_end] at read
  exact ⟨alternated further formula, read,
    by rw [holds, Option.any_none, Bool.false_or]⟩

end Reading

section Pieces

variable
  {dialect : Dialect}
  {row : List Json}
  {key : Option Json}
  {resolve : String → Json}

/-- What is read alike of parts is read of them with a connective between. -/
theorem reads_separated
    {reads : List Lexeme → Bool → Prop}
    {combine : Bool → Bool → Bool}
    {neutral : Bool}
    {sqlWord : Word}
    {keyword : Keyword}
    (isKeyword : sqlWord.lexemes = [.keyword keyword])
    (isNeutral : ∀ meaning, combine meaning neutral = meaning)
    (combined :
      ∀ {first rest : List Lexeme} {firstMeaning restMeaning : Bool},
        reads first firstMeaning → reads rest restMeaning →
          reads (first ++ .keyword keyword :: rest)
            (combine firstMeaning restMeaning))
    {α : Type}
    {piecesOf : α → List Piece}
    {meaningOf : α → Bool}
    {parts : List α}
    (notEmpty : parts ≠ [])
    (each :
      ∀ part ∈ parts, ∀ binder,
        Resolves dialect row key resolve binder (piecesOf part) →
          reads (lexemesOf dialect binder (piecesOf part)) (meaningOf part))
    (binder : Binder)
    (resolved :
      Resolves dialect row key resolve binder
        (separated sqlWord (parts.map piecesOf))) :
    reads (lexemesOf dialect binder (separated sqlWord (parts.map piecesOf)))
      ((parts.map meaningOf).foldr combine neutral) := by
  induction parts generalizing binder with
  | nil => exact absurd rfl notEmpty
  | cons part others inductionHypothesis =>
      obtain ⟨partReads, othersRead⟩ := List.forall_mem_cons.mp each
      cases others with
      | nil =>
          rw [List.map_singleton, separated_singleton] at resolved ⊢
          simpa [isNeutral] using partReads binder resolved
      | cons next others =>
          rw [List.map_cons, List.map_cons, separated_cons_cons] at resolved ⊢
          obtain ⟨partResolved, othersResolved⟩ := resolves_around.mp resolved
          rw [lexemesOf_around dialect binder sqlWord (by rw [isKeyword]; rfl),
            isKeyword, List.append_assoc, List.singleton_append]
          exact
            combined (partReads binder partResolved)
              (inductionHypothesis (List.cons_ne_nil _ _) othersRead
                _ othersResolved)

variable
  (dialect row key resolve)
  (truth : Predicate Json → Bool)

/--
The text of an expression is read as the expression, wherever it stands: as a
condition, and as one factor if the expression is no disjunction.
-/
structure ReadsBack
    (expr : Expr) :
    Prop where
  factor :
    expr.isDisjunction = false → ∀ binder,
      Resolves dialect row key resolve binder (exprPieces dialect expr) →
        ReadsAsFactor (resolvedTruth resolve truth)
          (lexemesOf dialect binder (exprPieces dialect expr))
          (expr.holds truth)
  condition :
    ∀ binder,
      Resolves dialect row key resolve binder (exprPieces dialect expr) →
        ReadsAsCondition (resolvedTruth resolve truth)
          (lexemesOf dialect binder (exprPieces dialect expr))
          (expr.holds truth)

variable {dialect row key resolve truth}

theorem readsBack_of_factor
    {expr : Expr}
    (factor :
      ∀ binder,
        Resolves dialect row key resolve binder (exprPieces dialect expr) →
          ReadsAsFactor (resolvedTruth resolve truth)
            (lexemesOf dialect binder (exprPieces dialect expr))
            (expr.holds truth)) :
    ReadsBack dialect row key resolve truth expr where
  factor _ := factor
  condition binder resolved := (factor binder resolved).condition

/-- In parentheses, every expression is read as one factor. -/
theorem ReadsBack.enclosed
    {expr : Expr}
    (reads : ReadsBack dialect row key resolve truth expr)
    (binder : Binder)
    (resolved :
      Resolves dialect row key resolve binder
        (enclosed (exprPieces dialect expr))) :
    ReadsAsFactor (resolvedTruth resolve truth)
      (lexemesOf dialect binder (Sql.enclosed (exprPieces dialect expr)))
      (expr.holds truth) := by
  rw [lexemesOf_enclosed]
  exact (reads.condition binder (resolves_enclosed resolved)).enclosed

/--
A term of a conjunction is read as one factor, as
disjunctions are in parentheses.
-/
theorem ReadsBack.conjunct
    {expr : Expr}
    (reads : ReadsBack dialect row key resolve truth expr)
    (binder : Binder)
    (resolved :
      Resolves dialect row key resolve binder
        (enclosedIf expr.isDisjunction (exprPieces dialect expr))) :
    ReadsAsFactor (resolvedTruth resolve truth)
      (lexemesOf dialect binder
        (enclosedIf expr.isDisjunction (exprPieces dialect expr)))
      (expr.holds truth) := by
  cases isDisjunction : expr.isDisjunction with
  | false =>
      rw [isDisjunction] at resolved
      exact reads.factor isDisjunction binder resolved
  | true =>
      rw [isDisjunction] at resolved
      exact reads.enclosed binder resolved

/-- A term of a disjunction is read as a condition. -/
theorem ReadsBack.disjunct
    {expr : Expr}
    (reads : ReadsBack dialect row key resolve truth expr)
    (binder : Binder)
    (resolved :
      Resolves dialect row key resolve binder
        (enclosedIf expr.isConjunction (exprPieces dialect expr))) :
    ReadsAsCondition (resolvedTruth resolve truth)
      (lexemesOf dialect binder
        (enclosedIf expr.isConjunction (exprPieces dialect expr)))
      (expr.holds truth) := by
  cases isConjunction : expr.isConjunction with
  | false =>
      rw [isConjunction] at resolved
      exact reads.condition binder resolved
  | true =>
      rw [isConjunction] at resolved
      exact (reads.enclosed binder resolved).condition

/-- The text of a condition is read as this condition. -/
theorem Expr.IsCondition.readsBack
    {expr : Expr}
    (isCondition : expr.IsCondition) :
    ReadsBack dialect row key resolve truth expr := by
  induction isCondition with
  | predicate isAsked =>
      refine readsBack_of_factor fun binder resolved => ?_
      obtain ⟨read, primary, rfl⟩ := read_atom isAsked resolved
      rw [Expr.holds_of_atom? truth isAsked]
      exact readsAsFactor_primary primary
  | constant value =>
      refine readsBack_of_factor fun binder resolved => ?_
      have lexed :
          lexemesOf dialect binder (exprPieces dialect (.constant value)) =
            Word.lexemes (if value then .always else .never) := by
        simpa [exprPieces]
          using lexemesOf_after dialect binder _ (by cases value <;> rfl) []
      have primary :
          ∀ rest,
            primary?
                (Word.lexemes (if value then .always else .never) ++ rest) =
              some (.constant value, rest) := by
        cases value <;> exact fun _ => rfl
      rw [lexed]
      exact readsAsFactor_primary primary
  | conjunction notEmpty each inductionHypothesis =>
      refine readsBack_of_factor fun binder resolved => ?_
      rw [exprPieces, conjunctPieces_eq_map] at resolved ⊢
      rw [Expr.holds_conjunction]
      exact
        reads_separated rfl Bool.and_true ReadsAsFactor.both notEmpty
          (fun term member => (inductionHypothesis term member).conjunct) binder
          resolved
  | disjunction notEmpty each inductionHypothesis =>
      refine ⟨fun notDisjunction => Bool.noConfusion notDisjunction,
        fun binder resolved => ?_⟩
      rw [exprPieces, disjunctPieces_eq_map] at resolved ⊢
      rw [Expr.holds_disjunction]
      exact
        reads_separated rfl Bool.or_false ReadsAsCondition.either notEmpty
          (fun term member => (inductionHypothesis term member).disjunct) binder
          resolved

end Pieces

end PolyQuery.Sql
