import PolyQuery.Proofs.Sql.Layout
import PolyQuery.Proofs.Sql.Parser

namespace PolyQuery.Sql

/-!
# Lexemes of pieces

The words between the parts of a condition break its tokens: no operand reaches
over them. So the lexemes of a condition are those of its parts, with the
lexemes of the words between.
-/

/-- Whether a token is no part of an operand. -/
def Token.breaks : Token → Bool
  | .word _ => true
  | .symbol character => character ≠ '.'
  | _ => false

section Breaks

variable {dialect : Dialect}

/--
The tokens before one that is no part of an operand are read by themselves.
-/
theorem lexemes_append_cons
    {token : Token}
    (breaks : token.breaks = true)
    (first rest : List Token) :
    lexemes dialect (first ++ token :: rest) =
      lexemes dialect first ++
        .ofToken dialect token :: lexemes dialect rest := by
  fun_induction lexemes dialect first with
  | case1 mark table nextMark name others quoted inductionHypothesis =>
      simp only [List.cons_append, lexemes, quoted, and_self, if_true,
        inductionHypothesis]
  | case2 mark table nextMark name others quoted inductionHypothesis =>
      simp only [List.cons_append, lexemes, if_neg quoted, inductionHypothesis]
  | case3 next others notDotted inductionHypothesis =>
      rw [List.cons_append, lexemes, inductionHypothesis, List.cons_append]
      intro mark table nextMark name after isNext isDotted
      match others with
      | [] =>
          obtain ⟨isDot, -⟩ := List.cons.inj isDotted
          rw [isDot] at breaks
          cases breaks
      | [dot] =>
          obtain ⟨-, isQuoted⟩ := List.cons.inj isDotted
          obtain ⟨isQuoted, -⟩ := List.cons.inj isQuoted
          rw [isQuoted] at breaks
          cases breaks
      | dot :: quoted :: others =>
          obtain ⟨isDot, isQuoted⟩ := List.cons.inj isDotted
          obtain ⟨isQuoted, -⟩ := List.cons.inj isQuoted
          exact notDotted mark table nextMark name others isNext
            (by rw [isDot, isQuoted])
  | case4 =>
      rw [List.nil_append, List.nil_append, lexemes]
      intro mark table nextMark name after isQuoted
      rw [isQuoted] at breaks
      cases breaks

variable (dialect) in
/-- Tokens that are no part of operands keep those around them apart. -/
theorem lexemes_around
    {between : List Token}
    (notEmpty : between ≠ [])
    (breaks : ∀ token ∈ between, token.breaks = true)
    (first rest : List Token) :
    lexemes dialect (first ++ between ++ rest) =
      lexemes dialect first ++ between.map (.ofToken dialect) ++
        lexemes dialect rest := by
  induction between generalizing first with
  | nil => exact absurd rfl notEmpty
  | cons token others inductionHypothesis =>
      obtain ⟨tokenBreaks, othersBreak⟩ := List.forall_mem_cons.mp breaks
      rw [List.append_assoc, List.cons_append, lexemes_append_cons tokenBreaks]
      cases others with
      | nil => simp
      | cons next others =>
          have othersRead :=
            inductionHypothesis (List.cons_ne_nil _ _) othersBreak []
          simp only [List.nil_append, lexemes] at othersRead
          rw [othersRead]
          simp

/-- A keyword that is read is one of the tokens. -/
theorem exists_token_of_keyword_mem
    {keyword : Keyword}
    {tokens : List Token}
    (member : .keyword keyword ∈ lexemes dialect tokens) :
    ∃ token ∈ tokens, Lexeme.ofToken dialect token = .keyword keyword := by
  fun_induction lexemes dialect tokens with
  | case1 mark table nextMark name others quoted inductionHypothesis =>
      have inOthers : .keyword keyword ∈ lexemes dialect others := by
        simpa using member
      obtain ⟨token, tokenMember, isKeyword⟩ := inductionHypothesis inOthers
      exact ⟨token, by simp [tokenMember], isKeyword⟩
  | case2 mark table nextMark name others quoted inductionHypothesis =>
      have inOthers : .keyword keyword ∈ lexemes dialect others := by
        simpa using member
      obtain ⟨token, tokenMember, isKeyword⟩ := inductionHypothesis inOthers
      exact ⟨token, by simp [tokenMember], isKeyword⟩
  | case3 token others notDotted inductionHypothesis =>
      rcases List.mem_cons.mp member with isHead | inOthers
      · exact ⟨token, List.mem_cons_self, isHead.symm⟩
      · obtain ⟨found, foundMember, isKeyword⟩ := inductionHypothesis inOthers
        exact ⟨found, List.mem_cons_of_mem _ foundMember, isKeyword⟩
  | case4 => cases member

end Breaks

/--
The lexemes of a word that conditions are written with, and none
for the other words.
-/
def Word.lexemes : Word → List Lexeme
  | .filtered => [.keyword .where]
  | .assign => [.symbol '=']
  | .comma => [.symbol ',']
  | .openParen => [.symbol '(']
  | .closeParen => [.symbol ')']
  | .both => [.keyword .and]
  | .either => [.keyword .or]
  | .sign comparison => comparison.sign.toList.map .symbol
  | .isNull => [.keyword .is, .keyword .null]
  | .isNotNull => [.keyword .is, .keyword .not, .keyword .null]
  | .inList => [.keyword .in]
  | .notInList => [.keyword .not, .keyword .in]
  | .between => [.keyword .between]
  | .like => [.keyword .like]
  | .caseBlindLike => [.keyword .ilike]
  | .lowered => [.keyword .lower]
  | .always => [.word "1", .symbol '=', .word "1"]
  | .never => [.word "1", .symbol '=', .word "0"]
  | _ => []

theorem map_lex_word
    (dialect : Dialect)
    {sqlWord : Word}
    (isRead : sqlWord.lexemes.isEmpty = false) :
    (lex dialect sqlWord.text).map (.ofToken dialect) = sqlWord.lexemes ∧
      ∀ token ∈ lex dialect sqlWord.text, token.breaks = true := by
  cases sqlWord with
  | sign comparison => cases dialect <;> cases comparison <;> decide +kernel
  | filtered | assign | comma | openParen | closeParen | both | either | isNull
  | isNotNull | inList | notInList | between | like | caseBlindLike | lowered
  | always | never =>
      cases dialect <;> decide +kernel
  | _ => cases isRead

/-- The lexemes of pieces, their operands named next by a binder. -/
def lexemesOf
    (dialect : Dialect)
    (binder : Binder)
    (pieces : List Piece) :
    List Lexeme :=
  lexemes dialect
    ((bindPieces dialect binder pieces).texts.flatMap (lex dialect))

/-- Whether the text of a piece may hold a keyword. -/
def Piece.mayHold
    (dialect : Dialect)
    (keyword : Keyword) :
    Piece →
    Bool
  | .word sqlWord =>
      (lex dialect sqlWord.text).any fun token =>
        Lexeme.ofToken dialect token = Lexeme.keyword keyword
  | .raw _ => true
  | _ => false

section Pieces

variable
  (dialect : Dialect)
  (binder : Binder)

@[simp] theorem lexemesOf_nil :
    lexemesOf dialect binder [] = [] := by
  simp [lexemesOf, bindPieces, lexemes]

variable
  (sqlWord : Word)
  (isRead : sqlWord.lexemes.isEmpty = false)

include isRead

/-- A word that conditions are written with keeps the pieces around it apart. -/
theorem lexemesOf_around
    (first rest : List Piece) :
    lexemesOf dialect binder (first ++ [.word sqlWord] ++ rest) =
      lexemesOf dialect binder first ++ sqlWord.lexemes ++
        lexemesOf dialect (binder.pastAll first) rest := by
  obtain ⟨read, breaks⟩ := map_lex_word dialect isRead
  have notEmpty : lex dialect sqlWord.text ≠ [] := by
    intro isEmpty
    rw [isEmpty] at read
    rw [← read] at isRead
    cases isRead
  have around :=
    lexemes_around dialect notEmpty breaks
      ((bindPieces dialect binder first).texts.flatMap (lex dialect))
      ((bindPieces dialect (binder.pastAll first) rest).texts.flatMap
        (lex dialect))
  rw [read] at around
  simpa [lexemesOf, bindPieces_append, bindPieces, List.append_assoc]
    using around

theorem lexemesOf_after
    (pieces : List Piece) :
    lexemesOf dialect binder ([.word sqlWord] ++ pieces) =
      sqlWord.lexemes ++ lexemesOf dialect binder pieces := by
  simpa using lexemesOf_around dialect binder sqlWord isRead [] pieces

theorem lexemesOf_before
    (pieces : List Piece) :
    lexemesOf dialect binder (pieces ++ [.word sqlWord]) =
      lexemesOf dialect binder pieces ++ sqlWord.lexemes := by
  simpa using lexemesOf_around dialect binder sqlWord isRead pieces []

omit isRead in
theorem lexemesOf_enclosed
    (pieces : List Piece) :
    lexemesOf dialect binder (enclosed pieces) =
      .symbol '(' :: (lexemesOf dialect binder pieces ++ [.symbol ')']) := by
  rw [enclosed, List.append_assoc,
    lexemesOf_after dialect binder .openParen rfl,
    lexemesOf_before dialect binder .closeParen rfl]
  rfl

omit isRead in
theorem lexemesOf_lowered
    (pieces : List Piece) :
    lexemesOf dialect binder ([.word .lowered] ++ enclosed pieces) =
      .keyword .lower :: .symbol '(' ::
        (lexemesOf dialect binder pieces ++ [.symbol ')']) := by
  rw [lexemesOf_after dialect binder .lowered rfl, lexemesOf_enclosed]
  rfl

omit isRead in
/-- No keyword is read in pieces that hold none. -/
theorem keyword_not_mem_lexemesOf
    {keyword : Keyword}
    {pieces : List Piece}
    (holdsNone : ∀ piece ∈ pieces, piece.mayHold dialect keyword = false) :
    .keyword keyword ∉ lexemesOf dialect binder pieces := by
  intro member
  obtain ⟨token, tokenMember, isKeyword⟩ := exists_token_of_keyword_mem member
  clear member
  induction pieces generalizing binder with
  | nil => cases tokenMember
  | cons piece rest inductionHypothesis =>
      obtain ⟨pieceHolds, restHold⟩ := List.forall_mem_cons.mp holdsNone
      rw [bindPieces_cons, List.flatMap_cons] at tokenMember
      rcases List.mem_append.mp tokenMember with inPiece | inRest
      · cases piece with
        | word sqlWord =>
            have noneSuch := List.any_eq_false.mp pieceHolds token inPiece
            exact noneSuch (decide_eq_true isKeyword)
        | identifier name =>
            rw [Piece.text, lex_quote] at inPiece
            cases List.mem_singleton.mp inPiece
            simp [Lexeme.ofToken] at isKeyword
        | raw sql => cases pieceHolds
        | operand naming slot =>
            rw [Piece.text, lex_placeholder (binder.isBindableName_bind naming)]
              at inPiece
            cases List.mem_singleton.mp inPiece
            cases isKeyword
      · exact inductionHypothesis (binder.past piece) restHold inRest

end Pieces

end PolyQuery.Sql
