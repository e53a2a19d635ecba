import PolyQuery.Sql.Binding

namespace PolyQuery.Sql

/-!
# Tokens of SQL

A text of SQL is read character by character. What stands between quote marks is
one token, whatever it contains, so a sign in it opens no placeholder. A text
that leaves nothing open is read by itself, also where other text follows it.
-/

/-- A token of SQL. -/
inductive Token where
  | word (text : String)
  | quoted (mark : Char) (text : String)
  | placeholder (text : String)
  | symbol (character : Char)
  deriving DecidableEq

/-- The text of a token that is a placeholder. -/
def Token.placeholder? : Token → Option String
  | .placeholder text => some text
  | _ => none

/-- Whether text between two such characters is quoted. -/
def isQuoteMark
    (dialect : Dialect)
    (character : Char) :
    Bool :=
  character = '\x27' || character = '\x22' ||
    (character = '\x60' && dialect ≠ .postgres)

/-- The character that a placeholder starts with. -/
def placeholderSign : Dialect → Char
  | .sqlite => ':'
  | .postgres => '$'
  | .mysql => '%'

/--
Whether a character goes on with the beginning of a placeholder, which
is given in reverse.
-/
def continuesPlaceholder
    (dialect : Dialect)
    (reversed : List Char)
    (character : Char) :
    Bool :=
  match dialect with
  | .sqlite => isBindable character
  | .postgres => character.isDigit
  | .mysql =>
      match reversed with
      | ['%'] => character = '('
      | 's' :: ')' :: _ => false
      | ')' :: _ => character = 's'
      | _ => isBindable character || character = ')'

/--
Whether characters in reverse are a placeholder, with a name
or a position in it.
-/
def isPlaceholder
    (dialect : Dialect)
    (reversed : List Char) :
    Bool :=
  match dialect with
  | .sqlite => 2 ≤ reversed.length
  | .postgres => 2 ≤ reversed.length
  | .mysql =>
      match reversed with
      | 's' :: ')' :: opened => 3 ≤ opened.length
      | _ => false

/-- The token that is being read, its characters in reverse. -/
inductive Mode where
  | blank
  | symbol (character : Char)
  | word (reversed : List Char)
  /-- Inside of quote marks. -/
  | quoted (mark : Char) (reversed : List Char)
  /--
  After a mark inside of quote marks: it closes them unless another one follows.
  -/
  | closing (mark : Char) (reversed : List Char)
  | placeholder (reversed : List Char)

namespace Mode

/-- A token's first character read. -/
def start
    (dialect : Dialect)
    (character : Char) :
    Mode :=
  if character.isWhitespace then
    .blank
  else if isQuoteMark dialect character then
    .quoted character []
  else if character = placeholderSign dialect then
    .placeholder [character]
  else if isBindable character then
    .word [character]
  else
    .symbol character

/-- A further character of the same token read, if it is one. -/
def extend?
    (dialect : Dialect)
    (mode : Mode)
    (character : Char) :
    Option Mode :=
  match mode with
  | .blank => none
  | .symbol _ => none
  | .word reversed =>
      if isBindable character || character = '$' then
        some (.word (character :: reversed))
      else
        none
  | .quoted mark reversed =>
      if character = mark then
        some (.closing mark reversed)
      else
        some (.quoted mark (character :: reversed))
  | .closing mark reversed =>
      if character = mark then
        some (.quoted mark (mark :: reversed))
      else
        none
  | .placeholder reversed =>
      if continuesPlaceholder dialect reversed character then
        some (.placeholder (character :: reversed))
      else
        none

/-- What was read, if no further character belongs to it. -/
def tokens
    (dialect : Dialect) :
    Mode →
    List Token
  | .blank => []
  | .symbol character => [.symbol character]
  | .word reversed => [.word (String.ofList reversed.reverse)]
  | .quoted mark reversed => [.quoted mark (String.ofList reversed.reverse)]
  | .closing mark reversed => [.quoted mark (String.ofList reversed.reverse)]
  | .placeholder reversed =>
      if isPlaceholder dialect reversed then
        [.placeholder (String.ofList reversed.reverse)]
      else
        reversed.reverse.map .symbol

end Mode

/-- The tokens of characters, the first of them perhaps begun already. -/
def scan
    (dialect : Dialect) :
    Mode →
    List Char →
    List Token
  | mode, [] => mode.tokens dialect
  | mode, character :: rest =>
      match mode.extend? dialect character with
      | some extended => scan dialect extended rest
      | none =>
          mode.tokens dialect ++ scan dialect (.start dialect character) rest

/-- What is being read after characters. -/
def modeAfter
    (dialect : Dialect) :
    Mode →
    List Char →
    Mode
  | mode, [] => mode
  | mode, character :: rest =>
      match mode.extend? dialect character with
      | some extended => modeAfter dialect extended rest
      | none => modeAfter dialect (.start dialect character) rest

theorem modeAfter_append
    (dialect : Dialect)
    (mode : Mode)
    (first second : List Char) :
    modeAfter dialect mode (first ++ second) =
      modeAfter dialect (modeAfter dialect mode first) second := by
  induction first generalizing mode with
  | nil => rfl
  | cons character rest inductionHypothesis =>
      rw [List.cons_append, modeAfter, modeAfter]
      cases mode.extend? dialect character <;> exact inductionHypothesis _

/-- The tokens of a text. -/
def lex
    (dialect : Dialect)
    (text : String) :
    List Token :=
  scan dialect .blank text.toList

/-- What is being read at the end of a text. -/
def lastMode
    (dialect : Dialect)
    (text : String) :
    Mode :=
  modeAfter dialect .blank text.toList

/-- The placeholders of a text from left to right. -/
def placeholders
    (dialect : Dialect)
    (text : String) :
    List String :=
  (lex dialect text).filterMap Token.placeholder?

example : placeholders .sqlite "':x' = :y AND :z = 1" = [":y", ":z"] := by
  decide +kernel

/-- What is being read ends where characters begin, if there are any. -/
def Mode.EndsBefore
    (dialect : Dialect)
    (mode : Mode)
    (characters : List Char) :
    Prop :=
  ∀ character ∈ characters.head?, mode.extend? dialect character = none

/--
Text is read by itself if the last token of it ends where the rest begins.
-/
theorem scan_append
    {dialect : Dialect}
    {mode : Mode}
    {characters rest : List Char}
    (ends : (modeAfter dialect mode characters).EndsBefore dialect rest) :
    scan dialect mode (characters ++ rest) =
      scan dialect mode characters ++ scan dialect .blank rest := by
  induction characters generalizing mode with
  | nil =>
      cases rest with
      | nil =>
          simp [scan, Mode.tokens]
      | cons character others =>
          have isEnd : mode.extend? dialect character = none :=
            ends character (by simp)
          have blankEnds : Mode.blank.extend? dialect character = none := rfl
          simp [scan, isEnd, blankEnds, Mode.tokens]
  | cons character others inductionHypothesis =>
      rw [modeAfter] at ends
      rw [List.cons_append, scan, scan]
      cases extended : mode.extend? dialect character with
      | none =>
          rw [extended] at ends
          rw [inductionHypothesis ends, List.append_assoc]
      | some further =>
          rw [extended] at ends
          exact inductionHypothesis ends

/-- The characters that separate tokens, apart from what is quoted. -/
def separators : List Char :=
  [' ', ',', '.', '(', ')']

/-- A separator ends what is being read. -/
def Mode.IsSettled
    (dialect : Dialect)
    (mode : Mode) :
    Prop :=
  ∀ character ∈ separators, mode.extend? dialect character = none

/-- What was read is at its end, whatever follows. -/
def Mode.isOver : Mode → Bool
  | .blank => true
  | .symbol _ => true
  | _ => false

theorem Mode.endsBefore_of_isOver
    {mode : Mode}
    (isOver : mode.isOver = true)
    (dialect : Dialect)
    (characters : List Char) :
    mode.EndsBefore dialect characters := by
  intro character _
  cases mode with
  | blank => rfl
  | symbol => rfl
  | word | quoted | closing | placeholder => cases isOver

/--
A fragment holds no placeholder: none is read in it, and nothing that it leaves
open could hold one or become one.
-/
structure HoldsNoPlaceholder
    (dialect : Dialect)
    (sql : String) :
    Prop where
  none : placeholders dialect sql = []
  settled : (lastMode dialect sql).IsSettled dialect

/-- The characters that quote or that start a placeholder in some dialect. -/
def signs : List Char :=
  ['\x27', '\x22', '\x60', ':', '$', '%']

/--
Whether a character neither quotes nor starts a placeholder in any dialect.
-/
def isPlain
    (character : Char) :
    Bool :=
  !signs.contains character

/-- Whether all characters of a text are plain. -/
def isPlainText
    (text : String) :
    Bool :=
  text.toList.all isPlain

theorem isPlainText_append
    {first second : String}
    (firstPlain : isPlainText first = true)
    (secondPlain : isPlainText second = true) :
    isPlainText (first ++ second) = true := by
  rw [isPlainText, String.toList_append, List.all_append, Bool.and_eq_true]
  exact ⟨firstPlain, secondPlain⟩

/-- A number is written in digits. -/
theorem isDigit_of_mem_toString
    {number : Nat}
    {character : Char}
    (member : character ∈ (toString number).toList) :
    character.isDigit = true := by
  rw [Nat.toString_eq_repr, Nat.repr_eq_ofList_toDigits, String.toList_ofList]
    at member
  exact Nat.isDigit_of_mem_toDigits (by decide) (by decide) member

theorem isPlainText_toString
    (number : Nat) :
    isPlainText (toString number) = true := by
  rw [isPlainText, List.all_eq_true]
  intro character member
  have isDigit := isDigit_of_mem_toString member
  have noDigit : ∀ sign ∈ signs, sign.isDigit = false := by
    simp only [signs, List.forall_mem_cons, List.not_mem_nil, false_implies,
      implies_true]
    decide
  cases plain : isPlain character with
  | true => rfl
  | false =>
      have isSign : character ∈ signs := by
        rw [isPlain, Bool.not_eq_false'] at plain
        exact List.contains_iff_mem.mp plain
      rw [noDigit character isSign] at isDigit
      cases isDigit

/-- Whether a token is neither quoted nor a placeholder. -/
def Token.isOrdinary : Token → Bool
  | .word _ => true
  | .symbol _ => true
  | _ => false

/-- Whether a token that is being read is neither quoted nor a placeholder. -/
def Mode.isOrdinary : Mode → Bool
  | .blank => true
  | .symbol _ => true
  | .word _ => true
  | _ => false

section Plain

variable (dialect : Dialect)

theorem isOrdinary_start
    {character : Char}
    (plain : isPlain character = true) :
    (Mode.start dialect character).isOrdinary = true := by
  simp only [isPlain, signs, Bool.not_eq_true', List.contains_eq_mem,
    decide_eq_false_iff_not, List.mem_cons, List.not_mem_nil, or_false, not_or]
    at plain
  obtain ⟨notApostrophe, notQuote, notBacktick, notColon, notDollar,
      notPercent⟩ := plain
  have notMark : isQuoteMark dialect character = false := by
    simp [isQuoteMark, notApostrophe, notQuote, notBacktick]
  have notSign : character ≠ placeholderSign dialect := by
    cases dialect <;> assumption
  unfold Mode.start
  split
  · rfl
  · rw [notMark, if_neg Bool.false_ne_true]
    split <;> rfl

theorem Mode.isSettled_of_isOrdinary
    {mode : Mode}
    (ordinary : mode.isOrdinary = true) :
    mode.IsSettled dialect := by
  intro character separates
  cases mode with
  | blank => rfl
  | symbol => rfl
  | word reversed =>
      have noneInWords :
          ∀ separator ∈ separators,
            (isBindable separator || separator = '$') = false := by
        simp only [separators, List.forall_mem_cons, List.not_mem_nil,
          false_implies, implies_true]
        decide
      simp only [extend?, noneInWords character separates]
      rfl
  | quoted | closing | placeholder => cases ordinary

theorem isOrdinary_of_mem_tokens
    {mode : Mode}
    (ordinary : mode.isOrdinary = true) :
    ∀ token ∈ mode.tokens dialect, token.isOrdinary = true := by
  cases mode with
  | blank | symbol | word => simp [Mode.tokens, Token.isOrdinary]
  | quoted | closing | placeholder => cases ordinary

theorem isOrdinary_of_extend?
    {mode further : Mode}
    {character : Char}
    (ordinary : mode.isOrdinary = true)
    (extended : mode.extend? dialect character = some further) :
    further.isOrdinary = true := by
  cases mode with
  | blank | symbol => cases extended
  | word reversed =>
      simp only [Mode.extend?] at extended
      split at extended
      · cases extended
        rfl
      · cases extended
  | quoted | closing | placeholder => cases ordinary

/-- Plain characters hold ordinary tokens only, and end in one. -/
theorem scan_plain
    {characters : List Char}
    (plain : ∀ character ∈ characters, isPlain character = true)
    {mode : Mode}
    (ordinary : mode.isOrdinary = true) :
    (∀ token ∈ scan dialect mode characters, token.isOrdinary = true) ∧
      (modeAfter dialect mode characters).isOrdinary = true := by
  induction characters generalizing mode with
  | nil => exact ⟨isOrdinary_of_mem_tokens dialect ordinary, ordinary⟩
  | cons character rest inductionHypothesis =>
      obtain ⟨headPlain, restPlain⟩ := List.forall_mem_cons.mp plain
      rw [scan, modeAfter]
      cases extended : mode.extend? dialect character with
      | none =>
          obtain ⟨restTokens, restOrdinary⟩ :=
            inductionHypothesis restPlain (isOrdinary_start dialect headPlain)
          refine ⟨?_, restOrdinary⟩
          exact List.forall_mem_append.mpr
            ⟨isOrdinary_of_mem_tokens dialect ordinary, restTokens⟩
      | some further =>
          exact inductionHypothesis restPlain
            (isOrdinary_of_extend? dialect ordinary extended)

/-- The tokens of a text of plain characters are ordinary. -/
theorem isOrdinary_of_mem_lex
    {text : String}
    (plain : isPlainText text = true) :
    ∀ token ∈ lex dialect text, token.isOrdinary = true :=
  (scan_plain dialect (List.all_eq_true.mp plain)
    (rfl : Mode.blank.isOrdinary = true)).1

/-- A text of plain characters holds no placeholder. -/
theorem holdsNoPlaceholder_of_plain
    {text : String}
    (plain : isPlainText text = true) :
    HoldsNoPlaceholder dialect text := by
  obtain ⟨-, ordinary⟩ :=
    scan_plain dialect (List.all_eq_true.mp plain)
      (rfl : Mode.blank.isOrdinary = true)
  have noneRead : placeholders dialect text = [] := by
    refine List.filterMap_eq_nil_iff.mpr fun token member => ?_
    have tokenOrdinary := isOrdinary_of_mem_lex dialect plain token member
    cases token with
    | word | quoted | symbol => rfl
    | placeholder => cases tokenOrdinary
  exact
    {
      none := noneRead
      settled := Mode.isSettled_of_isOrdinary dialect ordinary
    }

/-- A text of plain characters that ends with a separator is over. -/
theorem isOver_of_plain
    {text : String}
    {last : Char}
    (plain : isPlainText text = true)
    (isLast : last ∈ text.toList.getLast?)
    (separates : last ∈ separators) :
    (lastMode dialect text).isOver = true := by
  obtain ⟨front, isText⟩ := List.getLast?_eq_some_iff.mp isLast
  have frontPlain : ∀ character ∈ front, isPlain character = true :=
    fun character member =>
      List.all_eq_true.mp plain character
        (by rw [isText]; exact List.mem_append_left _ member)
  obtain ⟨-, ordinary⟩ :=
    scan_plain dialect frontPlain (rfl : Mode.blank.isOrdinary = true)
  have ends := Mode.isSettled_of_isOrdinary dialect ordinary last separates
  have startsOver :
      ∀ separator ∈ separators,
        (Mode.start dialect separator).isOver = true := by
    simp only [separators, List.forall_mem_cons, List.not_mem_nil,
      false_implies, implies_true]
    cases dialect <;> decide
  rw [lastMode, isText, modeAfter_append, modeAfter, ends]
  exact startsOver last separates

end Plain

section Identifiers

variable (dialect : Dialect)

theorem start_quoteMark :
    Mode.start dialect dialect.quoteMark = .quoted dialect.quoteMark [] := by
  cases dialect <;> rfl

/-- The characters of a quoted name are read back as they are. -/
theorem scan_doubled
    (mark : Char)
    (characters reversed : List Char) :
    scan dialect (.quoted mark reversed)
        (Dialect.doubled mark characters ++ [mark]) =
      [.quoted mark (String.ofList (reversed.reverse ++ characters))] ∧
    modeAfter dialect (.quoted mark reversed)
        (Dialect.doubled mark characters ++ [mark]) =
      .closing mark (characters.reverse ++ reversed) := by
  induction characters generalizing reversed with
  | nil =>
      simp [Dialect.doubled, scan, modeAfter, Mode.extend?, Mode.tokens]
  | cons character rest inductionHypothesis =>
      obtain ⟨restScanned, restMode⟩ :=
        inductionHypothesis (character :: reversed)
      by_cases isMark : character = mark
      · subst isMark
        rw [Dialect.doubled_cons_mark]
        simp only [List.cons_append, scan, modeAfter, Mode.extend?, if_true,
          restScanned, restMode]
        simp
      · rw [Dialect.doubled_cons_of_ne isMark]
        simp only [List.cons_append, scan, modeAfter, Mode.extend?, isMark,
          if_false, restScanned, restMode]
        simp

theorem lex_quote
    (name : String) :
    lex dialect (dialect.quote name) = [.quoted dialect.quoteMark name] := by
  have scanned := (scan_doubled dialect dialect.quoteMark name.toList []).1
  simp only [lex, Dialect.quote, String.toList_ofList, List.cons_append, scan,
    Mode.extend?, Mode.tokens, List.nil_append, start_quoteMark, scanned]
  simp

theorem lastMode_quote
    (name : String) :
    lastMode dialect (dialect.quote name) =
      .closing dialect.quoteMark name.toList.reverse := by
  have left := (scan_doubled dialect dialect.quoteMark name.toList []).2
  simp only [lastMode, Dialect.quote, String.toList_ofList, List.cons_append,
    List.nil_append, modeAfter, Mode.extend?, start_quoteMark, left]
  simp

end Identifiers

/--
A name that every driver can bind: it is not empty, and made of
bindable characters.
-/
def IsBindableName
    (name : String) :
    Prop :=
  name ≠ "" ∧ ∀ character ∈ name.toList, isBindable character = true

section Parameters

variable {dialect : Dialect}

/-- Characters that go on with a placeholder belong to it. -/
theorem scan_continued
    {reversed characters : List Char}
    (continued :
      ∀ before character after, characters = before ++ character :: after →
        continuesPlaceholder dialect (before.reverse ++ reversed) character =
          true) :
    scan dialect (.placeholder reversed) characters =
        (Mode.placeholder (characters.reverse ++ reversed)).tokens dialect ∧
      modeAfter dialect (.placeholder reversed) characters =
        .placeholder (characters.reverse ++ reversed) := by
  induction characters generalizing reversed with
  | nil =>
      exact ⟨rfl, rfl⟩
  | cons character rest inductionHypothesis =>
      have continues := continued [] character rest rfl
      rw [List.reverse_nil, List.nil_append] at continues
      have restContinued :
          ∀ before next after, rest = before ++ next :: after →
            continuesPlaceholder dialect
              (before.reverse ++ character :: reversed) next = true := by
        intro before next after isRest
        have following :=
          continued (character :: before) next after (by rw [isRest]; rfl)
        simpa using following
      have restRead := inductionHypothesis restContinued
      simpa [scan, modeAfter, Mode.extend?, continues] using restRead

theorem not_bindable_closeParen :
    isBindable ')' = false := by
  decide

/--
A bindable character, or the closing sign, goes on with a name in parentheses.
-/
theorem name_continued
    {reversedName : List Char}
    (bindable : ∀ character ∈ reversedName, isBindable character = true)
    {character : Char}
    (further : isBindable character = true ∨ character = ')') :
    continuesPlaceholder .mysql (reversedName ++ ['(', '%']) character =
      true := by
  have notClosed :
      ∀ before after, reversedName ++ ['(', '%'] ≠ before ++ ')' :: after := by
    intro before after same
    have member : ')' ∈ reversedName ++ ['(', '%'] := by simp [same]
    rcases List.mem_append.mp member with inName | inSign
    · have isBindable := bindable _ inName
      rw [not_bindable_closeParen] at isBindable
      cases isBindable
    · revert inSign
      decide
  unfold continuesPlaceholder
  dsimp only
  split
  next isSign =>
    have tooLong := congrArg List.length isSign
    simp at tooLong
  next isOver =>
    exact absurd isOver (notClosed ['s'] _)
  next isClosed =>
    exact absurd isClosed (notClosed [] _)
  next =>
    simpa using further

variable (dialect) in
/--
What comes after the sign of a placeholder belongs to it.

In parentheses that is a name, in which every character is bindable, then the
closing sign and a letter.
-/
theorem placeholder_continued
    {name : String}
    (bindable : IsBindableName name)
    (position : Nat) :
    ∃ characters,
      (dialect.placeholder name position).toList =
          placeholderSign dialect :: characters ∧
        (∀ before character after, characters = before ++ character :: after →
          continuesPlaceholder dialect
            (before.reverse ++ [placeholderSign dialect]) character = true) ∧
        isPlaceholder dialect
          (characters.reverse ++ [placeholderSign dialect]) = true := by
  obtain ⟨notEmpty, allBindable⟩ := bindable
  have hasCharacter : 1 ≤ name.toList.length := by
    rw [Nat.one_le_iff_ne_zero, ne_eq, List.length_eq_zero_iff,
      String.toList_eq_nil_iff]
    exact notEmpty
  cases dialect with
  | sqlite =>
      refine ⟨name.toList, by simp [Dialect.placeholder, placeholderSign], ?_,
        ?_⟩
      · intro before character after isName
        exact allBindable character (by rw [isName]; simp)
      · simpa [isPlaceholder] using hasCharacter
  | postgres =>
      refine ⟨Nat.toDigits 10 position, ?_, ?_, ?_⟩
      · simp [Dialect.placeholder, placeholderSign]
      · intro before character after isNumber
        have member : character ∈ Nat.toDigits 10 position := by
          rw [isNumber]
          simp
        exact Nat.isDigit_of_mem_toDigits (by decide) (by decide) member
      · have hasDigit : 1 ≤ (Nat.toDigits 10 position).length :=
          List.length_pos_iff.mpr Nat.toDigits_ne_nil
        simpa [isPlaceholder] using hasDigit
  | mysql =>
      refine ⟨'(' :: (name.toList ++ [')', 's']), ?_, ?_, ?_⟩
      · simp [Dialect.placeholder, placeholderSign]
      · intro before character after isText
        cases before with
        | nil =>
            cases isText
            rfl
        | cons first rest =>
            obtain ⟨isOpening, isRest⟩ := List.cons.inj isText
            subst isOpening
            have opened :
                ('(' :: rest).reverse ++ [placeholderSign .mysql] =
                  rest.reverse ++ ['(', '%'] := by
              simp [placeholderSign]
            rw [opened]
            rcases List.append_eq_append_iff.mp isRest with
              ⟨closed, isName, isEnd⟩ | ⟨left, isName, isEnd⟩
            · cases closed with
              | nil =>
                  cases isEnd
                  rw [isName, List.append_nil]
                  exact name_continued (by simpa using allBindable) (.inr rfl)
              | cons closing others =>
                  obtain ⟨isClosing, isLetter⟩ := List.cons.inj isEnd
                  cases others with
                  | nil =>
                      cases isLetter
                      rw [isName, ← isClosing]
                      simp [continuesPlaceholder]
                  | cons letter others =>
                      simp at isLetter
            · have restBindable :
                  ∀ earlier ∈ rest.reverse, isBindable earlier = true := by
                intro earlier member
                exact allBindable earlier (by
                  rw [isName]
                  exact List.mem_append_left _ (List.mem_reverse.mp member))
              cases left with
              | nil =>
                  cases isEnd
                  exact name_continued restBindable (.inr rfl)
              | cons next others =>
                  obtain ⟨isNext, -⟩ := List.cons.inj isEnd
                  refine name_continued restBindable (.inl ?_)
                  rw [isNext]
                  exact allBindable next (by rw [isName]; simp)
      · simpa [isPlaceholder, placeholderSign] using hasCharacter

theorem start_placeholderSign :
    Mode.start dialect (placeholderSign dialect) =
      .placeholder [placeholderSign dialect] := by
  cases dialect <;> rfl

theorem lex_placeholder
    {name : String}
    (bindable : IsBindableName name)
    (position : Nat) :
    lex dialect (dialect.placeholder name position) =
      [.placeholder (dialect.placeholder name position)] := by
  obtain ⟨characters, isText, continued, complete⟩ :=
    placeholder_continued dialect bindable position
  have read := (scan_continued continued).1
  rw [lex, isText, scan]
  simp only [Mode.extend?, Mode.tokens, List.nil_append, start_placeholderSign,
    read, complete, if_true]
  rw [List.reverse_append, List.reverse_reverse, List.reverse_singleton,
    List.singleton_append, ← isText, String.ofList_toList]

theorem lastMode_placeholder
    {name : String}
    (bindable : IsBindableName name)
    (position : Nat) :
    (lastMode dialect (dialect.placeholder name position)).IsSettled
      dialect := by
  obtain ⟨characters, isText, continued, complete⟩ :=
    placeholder_continued dialect bindable position
  have read := (scan_continued continued).2
  have isLast :
      lastMode dialect (dialect.placeholder name position) =
        .placeholder (characters.reverse ++ [placeholderSign dialect]) := by
    rw [lastMode, isText, modeAfter]
    simp only [Mode.extend?, start_placeholderSign, read]
  rw [isLast]
  intro character separates
  generalize characters.reverse ++ [placeholderSign dialect] =
      reversed at complete
  have stops : continuesPlaceholder dialect reversed character = false := by
    cases dialect with
    | sqlite =>
        have noneBindable :
            ∀ separator ∈ separators, isBindable separator = false := by
          simp only [separators, List.forall_mem_cons, List.not_mem_nil,
            false_implies, implies_true]
          decide
        exact noneBindable character separates
    | postgres =>
        have noneDigit :
            ∀ separator ∈ separators, separator.isDigit = false := by
          simp only [separators, List.forall_mem_cons, List.not_mem_nil,
            false_implies, implies_true]
          decide
        exact noneDigit character separates
    | mysql =>
        unfold isPlaceholder at complete
        dsimp only at complete
        split at complete
        · rfl
        · cases complete
  simp [Mode.extend?, stops]

end Parameters

end PolyQuery.Sql
