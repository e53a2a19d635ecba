import PolyQuery.Proofs.Sql.Layout

namespace PolyQuery

/-!
# Quoted names

A name in quotes is read up to the first quote mark that is not doubled, and a
doubled one is read as one. Reading accepts exactly what quoting writes, with
any text behind it that does not begin with a quote mark. So two names are never
quoted alike, and no name ends its quotes before its own end.
-/

namespace Dialect

/--
The characters up to the mark that closes them, a doubled mark read as
one, and what follows.
-/
def untilClosed?
    (mark : Char) :
    List Char →
    Option (List Char × List Char)
  | [] => none
  | [last] => if last = mark then some ([], []) else none
  | character :: next :: rest =>
      if character ≠ mark then
        (untilClosed? mark (next :: rest)).map fun read =>
          (character :: read.1, read.2)
      else if next = mark then
        (untilClosed? mark rest).map fun read => (mark :: read.1, read.2)
      else
        some ([], next :: rest)

/--
The name that stands in quotes at the beginning of a text,
and the text behind it.
-/
def unquote?
    (dialect : Dialect)
    (text : String) :
    Option (String × String) :=
  match text.toList with
  | [] => none
  | first :: rest =>
      if first = dialect.quoteMark then
        (untilClosed? dialect.quoteMark rest).map fun read =>
          (String.ofList read.1, String.ofList read.2)
      else
        none

section Doubled

variable {mark : Char}

/--
Doubled characters are read back, whatever follows their end but a further mark.
-/
theorem untilClosed?_doubled
    {rest : List Char}
    (apart : rest.head? ≠ some mark)
    (name : List Char) :
    untilClosed? mark (doubled mark name ++ mark :: rest) =
      some (name, rest) := by
  induction name with
  | nil =>
      cases rest with
      | nil =>
          simp [untilClosed?]
      | cons next others =>
          have notMark : next ≠ mark :=
            fun isMark => apart (congrArg some isMark)
          simp [untilClosed?, notMark]
  | cons character others inductionHypothesis =>
      by_cases isMark : character = mark
      · subst isMark
        simp [untilClosed?, inductionHypothesis]
      · rw [doubled_cons_of_ne isMark, List.cons_append]
        -- Something follows the character in any case: the closing mark at
        -- least.
        obtain ⟨next, further, goesOn⟩ :
            ∃ next further,
              doubled mark others ++ mark :: rest = next :: further :=
          List.exists_cons_of_ne_nil (by simp)
        rw [goesOn] at inductionHypothesis ⊢
        simp [untilClosed?, isMark, inductionHypothesis]

/--
What is read up to a closing mark was written doubled, and no
further mark follows.
-/
theorem eq_doubled_of_untilClosed?
    {characters name rest : List Char}
    (read : untilClosed? mark characters = some (name, rest)) :
    characters = doubled mark name ++ mark :: rest ∧
      rest.head? ≠ some mark := by
  fun_induction untilClosed? mark characters generalizing name with
  | case1 =>
      cases read
  | case2 =>
      cases read
      simp
  | case3 =>
      cases read
  | case4 character next others notMark inductionHypothesis =>
      obtain ⟨⟨inner, left⟩, innerRead, same⟩ := Option.map_eq_some_iff.mp read
      cases same
      obtain ⟨isDoubled, apart⟩ := inductionHypothesis innerRead
      refine ⟨?_, apart⟩
      rw [doubled_cons_of_ne notMark, List.cons_append, ← isDoubled]
  | case5 character others notOther inductionHypothesis =>
      have isMark : character = mark := not_not.mp notOther
      obtain ⟨⟨inner, left⟩, innerRead, same⟩ := Option.map_eq_some_iff.mp read
      cases same
      obtain ⟨isDoubled, apart⟩ := inductionHypothesis innerRead
      refine ⟨?_, apart⟩
      rw [isMark, doubled_cons_mark, List.cons_append, List.cons_append,
        ← isDoubled]
  | case6 character next others notOther notDoubled =>
      have isMark : character = mark := not_not.mp notOther
      cases read
      exact ⟨congrArg (· :: next :: others) isMark, by simpa using notDoubled⟩

end Doubled

section Names

variable
  {dialect : Dialect}
  {text name rest : String}

theorem toList_quote_append :
    (dialect.quote name ++ rest).toList =
      dialect.quoteMark ::
        (doubled dialect.quoteMark name.toList ++
          dialect.quoteMark :: rest.toList) := by
  simp [quote]

/--
Reading accepts exactly what quoting writes, with a text behind it
that is apart from it.
-/
theorem unquote?_eq_some_iff :
    dialect.unquote? text = some (name, rest) ↔
      text = dialect.quote name ++ rest ∧
        rest.toList.head? ≠ some dialect.quoteMark := by
  constructor
  · intro read
    unfold unquote? at read
    split at read
    · cases read
    next first others isText =>
      split at read
      next isMark =>
        obtain ⟨⟨characters, left⟩, closed, same⟩ :=
          Option.map_eq_some_iff.mp read
        cases same
        obtain ⟨isDoubled, apart⟩ := eq_doubled_of_untilClosed? closed
        refine ⟨String.toList_inj.mp ?_, by simpa using apart⟩
        rw [toList_quote_append, isText, isMark, isDoubled,
          String.toList_ofList, String.toList_ofList]
      next =>
        cases read
  · rintro ⟨rfl, apart⟩
    unfold unquote?
    rw [toList_quote_append]
    simp [untilClosed?_doubled apart]

/-- Two names are never quoted alike. -/
theorem quote_injective
    (dialect : Dialect) :
    Function.Injective dialect.quote := by
  intro first second same
  have firstRead :
      dialect.unquote? (dialect.quote first ++ "") = some (first, "") :=
    unquote?_eq_some_iff.mpr ⟨rfl, nofun⟩
  have secondRead :
      dialect.unquote? (dialect.quote second ++ "") = some (second, "") :=
    unquote?_eq_some_iff.mpr ⟨rfl, nofun⟩
  rw [same, secondRead] at firstRead
  exact (congrArg Prod.fst (Option.some.inj firstRead)).symm

end Names

end Dialect

namespace Sql

/-- The mark and the text of a token that is quoted. -/
def Token.quoted? : Token → Option (Char × String)
  | .quoted mark text => some (mark, text)
  | _ => none

/-- What stands in quotes in the text of a piece. -/
def Piece.quotes
    (dialect : Dialect) :
    Piece →
    List (Char × String)
  | .identifier name => [(dialect.quoteMark, name)]
  | .raw sql => (lex dialect sql).filterMap Token.quoted?
  | _ => []

variable (dialect : Dialect)

/-- A quoted name is one token, and the text behind it is read by itself. -/
theorem lex_quote_append
    (name : String)
    {rest : String}
    (apart : rest.toList.head? ≠ some dialect.quoteMark) :
    lex dialect (dialect.quote name ++ rest) =
      .quoted dialect.quoteMark name :: lex dialect rest := by
  have ends :
      (lastMode dialect (dialect.quote name)).EndsBefore dialect
        rest.toList := by
    intro character isFirst
    rw [lastMode_quote]
    have notMark : character ≠ dialect.quoteMark := by
      rintro rfl
      exact apart isFirst
    exact if_neg notMark
  rw [lex, String.toList_append, scan_append ends]
  exact congrArg (· ++ lex dialect rest) (lex_quote dialect name)

theorem quotes_of_lex
    (binder : Binder)
    (piece : Piece) :
    (lex dialect (piece.text dialect binder)).filterMap Token.quoted? =
      piece.quotes dialect := by
  cases piece with
  | word sqlWord =>
      refine List.filterMap_eq_nil_iff.mpr fun token member => ?_
      have ordinary :=
        isOrdinary_of_mem_lex dialect (isPlainText_word sqlWord) token member
      cases token with
      | word | placeholder | symbol => rfl
      | quoted => cases ordinary
  | identifier name =>
      rw [Piece.text, lex_quote]
      rfl
  | raw sql =>
      rfl
  | operand naming slot =>
      rw [Piece.text, lex_placeholder (binder.isBindableName_bind naming)]
      rfl

/--
What stands in quotes in the text of a statement are its
names, each of them whole.
-/
theorem quotes_of_render
    (statement : Statement)
    (settled :
      ∀ sql, .raw sql ∈ statement.pieces dialect →
        (lastMode dialect sql).IsSettled dialect) :
    (lex dialect (statement.render dialect).sql).filterMap Token.quoted? =
      (statement.pieces dialect).flatMap (Piece.quotes dialect) := by
  have joined :=
    lex_join dialect (spaced_pieces dialect statement) settled .empty
  rw [Statement.render, joined, List.filterMap_flatMap]
  clear joined settled
  generalize Binder.empty = binder
  induction statement.pieces dialect generalizing binder with
  | nil =>
      rfl
  | cons piece rest inductionHypothesis =>
      rw [bindPieces_cons, List.flatMap_cons, List.flatMap_cons, quotes_of_lex,
        inductionHypothesis]

/--
A name in quotes is read back as it is, whatever it is made of.

Behind it the text goes on where the quotes end, both for a reader of one name
and for the tokens of SQL. Nothing but a quoted name is read as one, names that
differ are quoted differently, and in a statement every name is one token.
-/
theorem quoted_names_read_back
    (dialect : Dialect)
    (name rest : String)
    (apart : rest.toList.head? ≠ some dialect.quoteMark) :
    dialect.unquote? (dialect.quote name ++ rest) = some (name, rest) ∧
      lex dialect (dialect.quote name ++ rest) =
          .quoted dialect.quoteMark name :: lex dialect rest ∧
        (∀ text read left,
          dialect.unquote? text = some (read, left) →
            text = dialect.quote read ++ left ∧
              left.toList.head? ≠ some dialect.quoteMark) ∧
          Function.Injective dialect.quote ∧
            ∀ statement : Statement,
              (∀ sql, .raw sql ∈ statement.pieces dialect →
                (lastMode dialect sql).IsSettled dialect) →
                (lex dialect (statement.render dialect).sql).filterMap
                    Token.quoted? =
                  (statement.pieces dialect).flatMap (Piece.quotes dialect) :=
  ⟨Dialect.unquote?_eq_some_iff.mpr ⟨rfl, apart⟩,
    lex_quote_append dialect name apart,
    fun _ _ _ => Dialect.unquote?_eq_some_iff.mp,
    Dialect.quote_injective dialect,
    quotes_of_render dialect⟩

/--
A name that begins with a quote mark and ends with two of them,
before a comparison.
-/
theorem quoted_names_read_back_of_marks :
    Dialect.mysql.quote "\x60a\x60\x60" = "\x60\x60\x60a\x60\x60\x60\x60\x60" ∧
      " = 1".toList.head? ≠ some Dialect.mysql.quoteMark ∧
        Dialect.mysql.unquote? (Dialect.mysql.quote "\x60a\x60\x60" ++ " = 1") =
            some ("\x60a\x60\x60", " = 1") ∧
          lex .mysql (Dialect.mysql.quote "\x60a\x60\x60" ++ " = 1") =
            .quoted '\x60' "\x60a\x60\x60" :: lex .mysql " = 1" := by
  have apart : " = 1".toList.head? ≠ some Dialect.mysql.quoteMark := by decide
  obtain ⟨readBack, lexed, -⟩ :=
    quoted_names_read_back .mysql "\x60a\x60\x60" " = 1" apart
  exact ⟨by decide, apart, readBack, lexed⟩

end Sql

end PolyQuery
