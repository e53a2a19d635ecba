import PolyQuery.Proofs.Sql.Tokens

namespace PolyQuery.Sql

/-!
# Parsing conditions

Conditions of SQL are read with the usual precedence: parentheses first, then
predicates, among which a range takes the `AND` between its bounds, then `AND`,
then `OR`. Operands are columns and placeholders; a condition is read from left
to right, with what stands open kept on a stack.
-/

/-- What a predicate is about: a column, or a parameter. -/
inductive Operand (α : Type) where
  | column (table : Option String) (name : String)
  | parameter (value : α)
  deriving DecidableEq

/-- A predicate without connectives in it. -/
inductive Predicate (α : Type) where
  | comparison (left : Operand α) (sign : Comparison) (right : Operand α)
  | isNull (subject : Operand α) (negated : Bool)
  | inList (subject : Operand α) (items : List (Operand α)) (negated : Bool)
  | between (subject : Operand α) (low : Operand α) (high : Operand α)
  | like (subject : Operand α) (pattern : Operand α) (ignoringCase : Bool)
  deriving DecidableEq

/-- Predicates joined by connectives. -/
inductive Formula (α : Type) where
  | predicate (asked : Predicate α)
  | constant (value : Bool)
  | both (left : Formula α) (right : Formula α)
  | either (left : Formula α) (right : Formula α)
  deriving DecidableEq

section Meaning

variable {α β : Type}

/-- The operand with another value for its parameter. -/
def Operand.map
    (change : α → β) :
    Operand α →
    Operand β
  | .column table name => .column table name
  | .parameter value => .parameter (change value)

/-- The predicate with other values for its parameters. -/
def Predicate.map
    (change : α → β) :
    Predicate α →
    Predicate β
  | .comparison left sign right =>
      .comparison (left.map change) sign (right.map change)
  | .isNull subject negated => .isNull (subject.map change) negated
  | .inList subject items negated =>
      .inList (subject.map change) (items.map (Operand.map change)) negated
  | .between subject low high =>
      .between (subject.map change) (low.map change) (high.map change)
  | .like subject pattern ignoringCase =>
      .like (subject.map change) (pattern.map change) ignoringCase

/-- Whether a formula holds, by which of its predicates do. -/
def Formula.holds
    (truth : Predicate α → Bool) :
    Formula α →
    Bool
  | .predicate asked => truth asked
  | .constant value => value
  | .both left right => left.holds truth && right.holds truth
  | .either left right => left.holds truth || right.holds truth

end Meaning

/-- A word with a meaning of its own in conditions. -/
inductive Keyword where
  | where
  | and
  | or
  | not
  | is
  | null
  | in
  | between
  | like
  | ilike
  | lower
  deriving DecidableEq

/-- The keyword that a word is. -/
def Keyword.ofText? : String → Option Keyword
  | "WHERE" => some .where
  | "AND" => some .and
  | "OR" => some .or
  | "NOT" => some .not
  | "IS" => some .is
  | "NULL" => some .null
  | "IN" => some .in
  | "BETWEEN" => some .between
  | "LIKE" => some .like
  | "ILIKE" => some .ilike
  | "lower" => some .lower
  | _ => none

/--
A token of a condition: a whole operand, a keyword, a number or any
other word, or a sign.
-/
inductive Lexeme where
  | operand (read : Operand String)
  | keyword (read : Keyword)
  | word (text : String)
  | symbol (character : Char)
  deriving DecidableEq

/-- The lexeme that a token is by itself. -/
def Lexeme.ofToken
    (dialect : Dialect) :
    Token →
    Lexeme
  | .word text =>
      match Keyword.ofText? text with
      | some found => .keyword found
      | none => .word text
  | .quoted mark text =>
      if mark = dialect.quoteMark then
        .operand (.column none text)
      else
        .symbol mark
  | .placeholder text => .operand (.parameter text)
  | .symbol character => .symbol character

/--
The lexemes of tokens: the names of a table and of its column, with a dot
between, are one.
-/
def lexemes
    (dialect : Dialect) :
    List Token →
    List Lexeme
  | .quoted mark table :: .symbol '.' :: .quoted nextMark name :: rest =>
      if mark = dialect.quoteMark ∧ nextMark = dialect.quoteMark then
        .operand (.column (some table) name) :: lexemes dialect rest
      else
        .symbol mark :: .symbol '.' :: .symbol nextMark :: lexemes dialect rest
  | token :: rest => .ofToken dialect token :: lexemes dialect rest
  | [] => []

/--
The items of a list up to its closing parenthesis, and what comes after it.
-/
def items? : List Lexeme → Option (List (Operand String) × List Lexeme)
  | .operand item :: .symbol ',' :: rest =>
      (items? rest).map fun read => (item :: read.1, read.2)
  | .operand item :: .symbol ')' :: rest => some ([item], rest)
  | _ => none

/-- The predicate on a subject, and what comes after it. -/
def predicate?
    (subject : Operand String) :
    List Lexeme →
    Option (Predicate String × List Lexeme)
  | .keyword .is :: .keyword .null :: rest => some (.isNull subject false, rest)
  | .keyword .is :: .keyword .not :: .keyword .null :: rest =>
      some (.isNull subject true, rest)
  | .keyword .in :: .symbol '(' :: rest =>
      (items? rest).map fun read => (.inList subject read.1 false, read.2)
  | .keyword .not :: .keyword .in :: .symbol '(' :: rest =>
      (items? rest).map fun read => (.inList subject read.1 true, read.2)
  | .keyword .between :: .operand low :: .keyword .and :: .operand high ::
    rest =>
      some (.between subject low high, rest)
  | .keyword .like :: .operand pattern :: rest =>
      some (.like subject pattern false, rest)
  | .keyword .ilike :: .operand pattern :: rest =>
      some (.like subject pattern true, rest)
  | .symbol '=' :: .operand right :: rest =>
      some (.comparison subject .equal right, rest)
  | .symbol '<' :: .symbol '>' :: .operand right :: rest =>
      some (.comparison subject .notEqual right, rest)
  | .symbol '<' :: .symbol '=' :: .operand right :: rest =>
      some (.comparison subject .atMost right, rest)
  | .symbol '<' :: .operand right :: rest =>
      some (.comparison subject .less right, rest)
  | .symbol '>' :: .symbol '=' :: .operand right :: rest =>
      some (.comparison subject .atLeast right, rest)
  | .symbol '>' :: .operand right :: rest =>
      some (.comparison subject .greater right, rest)
  | _ => none

/-- A predicate without parentheses around it, and what comes after it. -/
def primary? : List Lexeme → Option (Formula String × List Lexeme)
  | .operand subject :: rest =>
      (predicate? subject rest).map fun read => (.predicate read.1, read.2)
  | .keyword .lower :: .symbol '(' :: .operand subject :: .symbol ')' ::
        .keyword .like :: .keyword .lower ::
        .symbol '(' :: .operand pattern :: .symbol ')' :: rest =>
      some (.predicate (.like subject pattern true), rest)
  | .word left :: .symbol '=' :: .word right :: rest =>
      some (.constant (left == right), rest)
  | _ => none

theorem items?_shorter
    {lexemes rest : List Lexeme}
    {items : List (Operand String)}
    (read : items? lexemes = some (items, rest)) :
    rest.length < lexemes.length := by
  fun_induction items? lexemes generalizing items with
  | case1 item others inductionHypothesis =>
      obtain ⟨⟨tail, after⟩, readTail, same⟩ := Option.map_eq_some_iff.mp read
      have isRest : after = rest := (Prod.mk.inj same).2
      subst isRest
      have shorter := inductionHypothesis readTail
      simp only [List.length_cons]
      omega
  | case2 item others =>
      cases read
      simp only [List.length_cons]
      omega
  | case3 => cases read

theorem predicate?_shorter
    {subject : Operand String}
    {lexemes rest : List Lexeme}
    {predicate : Predicate String}
    (read : predicate? subject lexemes = some (predicate, rest)) :
    rest.length < lexemes.length := by
  unfold predicate? at read
  split at read
  case h_3 | h_4 =>
    obtain ⟨⟨items, after⟩, readItems, same⟩ := Option.map_eq_some_iff.mp read
    have isRest : after = rest := (Prod.mk.inj same).2
    subst isRest
    have shorter := items?_shorter readItems
    simp only [List.length_cons]
    omega
  all_goals
    cases read
    try
      simp only [List.length_cons]
      omega

theorem primary?_shorter
    {lexemes rest : List Lexeme}
    {formula : Formula String}
    (read : primary? lexemes = some (formula, rest)) :
    rest.length < lexemes.length := by
  unfold primary? at read
  split at read
  case h_1 =>
    obtain ⟨⟨predicate, after⟩, readPredicate, same⟩ :=
      Option.map_eq_some_iff.mp read
    have isRest : after = rest := (Prod.mk.inj same).2
    subst isRest
    exact Nat.lt_succ_of_lt (predicate?_shorter readPredicate)
  all_goals
    cases read
    try
      simp only [List.length_cons]
      omega

/-- What stands before the condition in parentheses that is being read. -/
structure Frame where
  /-- What the condition is an alternative to. -/
  alternative : Option (Formula String)
  /-- What is to hold together with the condition. -/
  factor : Option (Formula String)

/--
Two formulas that are to hold together, the first of them perhaps left out.
-/
def joined : Option (Formula String) → Formula String → Formula String
  | some factor, formula => .both factor formula
  | none, formula => formula

/-- Two formulas one of which is to hold, the first of them perhaps left out. -/
def alternated : Option (Formula String) → Formula String → Formula String
  | some alternative, formula => .either alternative formula
  | none, formula => formula

theorem holds_joined
    (truth : Predicate String → Bool)
    (factor : Option (Formula String))
    (formula : Formula String) :
    (joined factor formula).holds truth =
      (factor.all (Formula.holds truth) && formula.holds truth) := by
  cases factor <;> rfl

theorem holds_alternated
    (truth : Predicate String → Bool)
    (alternative : Option (Formula String))
    (formula : Formula String) :
    (alternated alternative formula).holds truth =
      (alternative.any (Formula.holds truth) || formula.holds truth) := by
  cases alternative <;> rfl

mutual

/-- Read on where a predicate or a parenthesis is expected. -/
def expecting
    (alternative factor : Option (Formula String))
    (outer : List Frame)
    (lexemes : List Lexeme) :
    Option (Formula String) :=
  match lexemes with
  | .symbol '(' :: rest =>
      expecting none none (⟨alternative, factor⟩ :: outer) rest
  | lexemes =>
      match _read : primary? lexemes with
      | some (formula, rest) =>
          continuing alternative (joined factor formula) outer rest
      | none => none
termination_by lexemes.length
decreasing_by
  · simp
  · exact primary?_shorter _read

/-- Read on where a connective, a closing parenthesis or the end is expected. -/
def continuing
    (alternative : Option (Formula String))
    (factor : Formula String)
    (outer : List Frame)
    (lexemes : List Lexeme) :
    Option (Formula String) :=
  match lexemes, outer with
  | [], [] => some (alternated alternative factor)
  | .keyword .and :: rest, outer =>
      expecting alternative (some factor) outer rest
  | .keyword .or :: rest, outer =>
      expecting (some (alternated alternative factor)) none outer rest
  | .symbol ')' :: rest, frame :: outer =>
      continuing frame.alternative
        (joined frame.factor (alternated alternative factor)) outer rest
  | _, _ => none
termination_by lexemes.length

end

section Steps

variable
  (alternative factor : Option (Formula String))
  (formula : Formula String)
  (outer : List Frame)
  (rest : List Lexeme)

/-- A predicate is read where one is expected. -/
theorem expecting_primary
    {lexemes : List Lexeme}
    (read : primary? lexemes = some (formula, rest)) :
    expecting alternative factor outer lexemes =
      continuing alternative (joined factor formula) outer rest := by
  rw [expecting]
  · split
    next found after isFound =>
      cases isFound.symm.trans read
      rfl
    next notFound =>
      cases notFound.symm.trans read
  · intro others isOpening
    rw [isOpening] at read
    cases read

theorem expecting_open :
    expecting alternative factor outer (.symbol '(' :: rest) =
      expecting none none (⟨alternative, factor⟩ :: outer) rest := by
  rw [expecting]

theorem continuing_and :
    continuing alternative formula outer (.keyword .and :: rest) =
      expecting alternative (some formula) outer rest := by
  rw [continuing]

theorem continuing_or :
    continuing alternative formula outer (.keyword .or :: rest) =
      expecting (some (alternated alternative formula)) none outer rest := by
  rw [continuing]

theorem continuing_close
    (frame : Frame) :
    continuing alternative formula (frame :: outer) (.symbol ')' :: rest) =
      continuing frame.alternative
        (joined frame.factor (alternated alternative formula)) outer rest := by
  rw [continuing]

theorem continuing_end :
    continuing alternative formula [] [] =
      some (alternated alternative formula) := by
  rw [continuing]

end Steps

/-- The condition that a text is. -/
def parse
    (dialect : Dialect)
    (text : String) :
    Option (Formula String) :=
  expecting none none [] (lexemes dialect (lex dialect text))

example :
    parse .postgres "1 = 0 OR \x22a\x22 BETWEEN $1 AND $2 AND 1 = 1" =
      some
        (.either (.constant false)
          (.both
            (.predicate
              (.between (.column none "a") (.parameter "$1") (.parameter "$2")))
            (.constant true))) := by
  cbv

/-- The condition that a text has behind its first keyword for one. -/
def restriction?
    (dialect : Dialect)
    (text : String) :
    Option (Formula String) :=
  expecting none none []
    ((lexemes dialect (lex dialect text)).dropWhile fun lexeme =>
      lexeme ≠ .keyword .where).tail

end PolyQuery.Sql
