import PolyQuery.Regex.Pattern
import PolyQuery.Text.Hex

namespace PolyQuery

/-!
# Reading patterns

Patterns in their usual written form: literals, the dot, sets in brackets,
groups, alternatives, anchors, word boundaries, repetitions with an optional
sign for the shortest match, and escapes. Groups may set the options `i`, `m`
and `s`, for which letter case does not count, anchors match at every line, and
the dot matches a line feed.

The reader keeps what it has read of every open group on a stack, so that it
takes one character after the other from left to right.
-/

namespace Regex

/-- The options in force. -/
structure Options where
  ignoringCase : Bool := false
  multiLine : Bool := false
  dotMatchesAll : Bool := false
  deriving DecidableEq

/--
An open group: the options in force in it, its finished alternatives and its
last one so far.
-/
structure Group where
  options : Options
  alternatives : List Pattern
  reversed : List Pattern

/-- Patterns in a row. -/
def inSequence : List Pattern → Pattern
  | [] => .empty
  | [pattern] => pattern
  | pattern :: rest => .sequence pattern (inSequence rest)

/-- Patterns of which one matches. -/
def oneOf : List Pattern → Pattern
  | [] => .empty
  | [pattern] => pattern
  | pattern :: rest => .choice pattern (oneOf rest)

/-- What a group has read so far as one pattern. -/
def Group.pattern
    (group : Group) :
    Pattern :=
  oneOf (group.alternatives ++ [inSequence group.reversed.reverse])

/-- Add a pattern to the last alternative. -/
def Group.push
    (group : Group)
    (pattern : Pattern) :
    Group :=
  { group with reversed := pattern :: group.reversed }

/-- Finish an alternative. -/
def Group.nextAlternative
    (group : Group) :
    Group :=
  { group with
    alternatives := group.alternatives ++ [inSequence group.reversed.reverse]
    reversed := [] }

/-- Repeat the last pattern, which must be there. -/
def Group.repeatLast?
    (group : Group)
    (least : Nat)
    (most : Option Nat) :
    Option Group :=
  match group.reversed with
  | [] => none
  | last :: rest =>
      some { group with reversed := .repeated last least most :: rest }

/-- A set under the options in force. -/
def Options.apply
    (options : Options)
    (set : CharSet) :
    CharSet :=
  if options.ignoringCase then .folded set else set

/-- What an escape stands for. -/
inductive Escape where
  | literal (character : Char)
  | set (set : CharSet)
  | assertion (assertion : Assertion)

/-- Characters with a meaning of their own in a pattern. -/
def isMeta
    (character : Char) :
    Bool :=
  "\\.+*?()|[]\x7b\x7d^$#&-~".toList.contains character

/-- The value of hexadecimal digits. -/
def hexValue?
    (digits : List Char) :
    Option Nat :=
  (digits.mapM HexDigit.ofChar?).map HexDigit.toNat

/-- The character with a code point, if there is one. -/
def charOf?
    (code : Nat) :
    Option Char :=
  if code.isValidChar then some (Char.ofNat code) else none

/--
The character of a hexadecimal escape: so many digits, or any
number of them in braces.
-/
def readHex?
    (count : Nat) :
    List Char →
    Option (Char × List Char)
  | '\x7b' :: rest => do
      let digits := rest.takeWhile fun character => character != '\x7d'
      match rest.dropWhile fun character => character != '\x7d' with
      | [] => none
      | _ :: after =>
          if digits.isEmpty then
            none
          else
            let character ← (hexValue? digits).bind charOf?
            return (character, after)
  | rest => do
      let digits := rest.take count
      if digits.length < count then
        none
      else
        let character ← (hexValue? digits).bind charOf?
        return (character, rest.drop count)

/-- What the characters after a backslash stand for. -/
def readEscape? : List Char → Option (Escape × List Char)
  | [] => none
  | 'd' :: rest => some (.set .digit, rest)
  | 'D' :: rest => some (.set (.complement .digit), rest)
  | 'w' :: rest => some (.set .word, rest)
  | 'W' :: rest => some (.set (.complement .word), rest)
  | 's' :: rest => some (.set .blank, rest)
  | 'S' :: rest => some (.set (.complement .blank), rest)
  | 'b' :: rest => some (.assertion .wordBoundary, rest)
  | 'B' :: rest => some (.assertion .noWordBoundary, rest)
  | 'A' :: rest => some (.assertion .textStart, rest)
  | 'z' :: rest => some (.assertion .textEnd, rest)
  | 'a' :: rest => some (.literal '\x07', rest)
  | 'f' :: rest => some (.literal '\x0c', rest)
  | 'n' :: rest => some (.literal '\n', rest)
  | 'r' :: rest => some (.literal '\r', rest)
  | 't' :: rest => some (.literal '\t', rest)
  | 'v' :: rest => some (.literal '\x0b', rest)
  | 'x' :: rest =>
      (readHex? 2 rest).map fun (character, rest) => (.literal character, rest)
  | 'u' :: rest =>
      (readHex? 4 rest).map fun (character, rest) => (.literal character, rest)
  | 'U' :: rest =>
      (readHex? 8 rest).map fun (character, rest) => (.literal character, rest)
  | character :: rest =>
      if isMeta character then
        some (.literal character, rest)
      else if character.toNat < 128 && !character.isAlphanum &&
          character != '<' && character != '>' then
        some (.literal character, rest)
      else
        none

/-- The sets that have a name inside brackets. -/
def namedSet? : String → Option CharSet
  | "alnum" =>
      some (.union (.range 48 57) (.union (.range 65 90) (.range 97 122)))
  | "alpha" => some (.union (.range 65 90) (.range 97 122))
  | "ascii" => some (.range 0 127)
  | "blank" => some (.union (.range 9 9) (.range 32 32))
  | "cntrl" => some (.union (.range 0 31) (.range 127 127))
  | "digit" => some (.range 48 57)
  | "graph" => some (.range 33 126)
  | "lower" => some (.range 97 122)
  | "print" => some (.range 32 126)
  | "punct" =>
      some (.union (.range 33 47)
        (.union (.range 58 64) (.union (.range 91 96) (.range 123 126))))
  | "space" => some (.union (.range 9 13) (.range 32 32))
  | "upper" => some (.range 65 90)
  | "word" =>
      some (.union (.range 48 57)
        (.union (.range 65 90) (.union (.range 97 122) (.range 95 95))))
  | "xdigit" =>
      some (.union (.range 48 57) (.union (.range 65 70) (.range 97 102)))
  | _ => none

/-- A named set that begins after its first bracket. -/
def readNamedSet? : List Char → Option (CharSet × List Char)
  | ':' :: rest => do
      let (negated, rest) :=
        match rest with
        | '^' :: rest => (true, rest)
        | rest => (false, rest)
      let name := rest.takeWhile Char.isAlpha
      match rest.dropWhile Char.isAlpha with
      | ':' :: ']' :: after =>
          let set ← namedSet? (String.ofList name)
          return (if negated then .complement set else set, after)
      | _ => none
  | _ => none

/--
One member of a set in brackets: a character that may open a range, or a set.
-/
def readMember? : List Char → Option ((Char ⊕ CharSet) × List Char)
  | [] => none
  | '\\' :: rest =>
      match readEscape? rest with
      | some (.literal character, rest) => some (.inl character, rest)
      | some (.set set, rest) => some (.inr set, rest)
      | _ => none
  | character :: rest => some (.inl character, rest)

/-- How two sets in one pair of brackets are combined. -/
inductive SetOperation where
  | intersection
  | difference
  | symmetricDifference

/-- The combination of two sets. -/
def SetOperation.apply
    (operation : SetOperation)
    (left : CharSet)
    (right : CharSet) :
    CharSet :=
  match operation with
  | .intersection => .intersection left right
  | .difference => .intersection left (.complement right)
  | .symmetricDifference =>
      .union (.intersection left (.complement right))
        (.intersection right (.complement left))

/-- The operation that two characters stand for. -/
def setOperation? : List Char → Option (SetOperation × List Char)
  | '&' :: '&' :: rest => some (.intersection, rest)
  | '-' :: '-' :: rest => some (.difference, rest)
  | '~' :: '~' :: rest => some (.symmetricDifference, rest)
  | _ => none

/--
A set in brackets: whether it is negated, what came before an
operation, and its members.
-/
structure Bracket where
  negated : Bool
  earlier : Option (CharSet × SetOperation)
  members : CharSet

/-- The set of a bracket. -/
def Bracket.set
    (bracket : Bracket) :
    CharSet :=
  match bracket.earlier with
  | some (left, operation) => operation.apply left bracket.members
  | none => bracket.members

/-- Add a set to the members of a bracket. -/
def Bracket.add
    (bracket : Bracket)
    (set : CharSet) :
    Bracket :=
  { bracket with members := .union bracket.members set }

/-- Hyphens at the beginning of a bracket stand for themselves. -/
def readHyphens : CharSet → List Char → CharSet × List Char
  | set, '-' :: rest => readHyphens (.union set (CharSet.single '-')) rest
  | set, rest => (set, rest)

/--
The beginning of a set after its bracket; a closing bracket
there stands for itself.
-/
def openBracket
    (characters : List Char) :
    Bracket × List Char :=
  let (negated, rest) :=
    match characters with
    | '^' :: rest => (true, rest)
    | rest => (false, rest)
  let (hyphens, rest) := readHyphens .none rest
  match hyphens, rest with
  | .none, ']' :: rest => (⟨negated, none, CharSet.single ']'⟩, rest)
  | members, rest => (⟨negated, none, members⟩, rest)

/-- The set of a closed bracket under the options in force. -/
def Bracket.close
    (bracket : Bracket)
    (options : Options) :
    CharSet :=
  let set := options.apply bracket.set
  if bracket.negated then .complement set else set

/--
The rest of a set in brackets, with the brackets open around it.

`fuel` bounds the members; the characters that are left are enough.
-/
def readSet?
    (options : Options) :
    Nat →
    List Bracket →
    Bracket →
    List Char →
    Option (CharSet × List Char)
  | 0, _, _, _ => none
  | fuel + 1, outer, bracket, characters =>
      match characters with
      | [] => none
      | ']' :: rest =>
          let closed := bracket.close options
          match outer with
          | [] => some (closed, rest)
          | enclosing :: outer =>
              readSet? options fuel outer (enclosing.add closed) rest
      | '[' :: rest =>
          match readNamedSet? rest with
          | some (set, rest) =>
              readSet? options fuel outer (bracket.add set) rest
          | none =>
              let (inner, rest) := openBracket rest
              readSet? options fuel (bracket :: outer) inner rest
      | characters =>
          match setOperation? characters with
          | some (operation, rest) =>
              readSet? options fuel outer
                { bracket with
                  earlier := some (bracket.set, operation)
                  members := .none }
                rest
          | none =>
              match readMember? characters with
              | none => none
              | some (.inr set, rest) =>
                  readSet? options fuel outer (bracket.add set) rest
              | some (.inl low, '-' :: next :: rest) =>
                  if next = ']' ∨ next = '-' then
                    readSet? options fuel outer
                      (bracket.add (CharSet.single low)) ('-' :: next :: rest)
                  else
                    match readMember? (next :: rest) with
                    | some (.inl high, rest) =>
                        if low.toNat ≤ high.toNat then
                          readSet? options fuel outer
                            (bracket.add (.range low.toNat high.toNat)) rest
                        else
                          none
                    | _ => none
              | some (.inl low, rest) =>
                  readSet? options fuel outer (bracket.add (CharSet.single low))
                    rest

/-- A decimal number. -/
def readCount?
    (characters : List Char) :
    Option (Nat × List Char) :=
  let digits := characters.takeWhile Char.isDigit
  if digits.isEmpty then
    none
  else
    let value : Nat :=
      digits.foldl (fun total digit => total * 10 + (digit.toNat - 48)) 0
    some (value, characters.dropWhile Char.isDigit)

/-- The bounds of a repetition after their opening brace. -/
def readBounds?
    (characters : List Char) :
    Option (Nat × Option Nat × List Char) := do
  let (least, rest) ← readCount? characters
  match rest with
  | '\x7d' :: rest => return (least, some least, rest)
  | ',' :: '\x7d' :: rest => return (least, none, rest)
  | ',' :: rest =>
      let (most, rest) ← readCount? rest
      match rest with
      | '\x7d' :: rest =>
          if least ≤ most then
            return (least, some most, rest)
          else
            none
      | _ => none
  | _ => none

/-- Drop the sign that asks a repetition for the shortest match. -/
def dropLazySign : List Char → List Char
  | '?' :: rest => rest
  | rest => rest

/-- Options set after a question mark, and the character that ends them. -/
def readOptions? :
    Options →
    Bool →
    List Char →
    Option (Options × Char × List Char)
  | _, _, [] => none
  | options, on, character :: rest =>
      match character with
      | ':' => some (options, ':', rest)
      | ')' => some (options, ')', rest)
      | '-' => if on then readOptions? options false rest else none
      | 'i' => readOptions? { options with ignoringCase := on } on rest
      | 'm' => readOptions? { options with multiLine := on } on rest
      | 's' => readOptions? { options with dotMatchesAll := on } on rest
      | 'u' => if on then readOptions? options on rest else none
      | 'U' => readOptions? options on rest
      | _ => none

/-- The characters after the name of a group. -/
def dropGroupName? : List Char → Option (List Char)
  | first :: rest =>
      if first.isAlpha || first = '_' then
        match rest.dropWhile fun character =>
          character.isAlphanum || character = '_' with
        | '>' :: after => some after
        | _ => none
      else
        none
  | [] => none

/-- What a group begins with after its parenthesis. -/
inductive Opening where
  /-- A group with options in force. -/
  | group (options : Options)
  /-- Options for the rest of the group around. -/
  | setting (options : Options)

/-- How a group begins after its parenthesis. -/
def readOpening?
    (options : Options) :
    List Char →
    Option (Opening × List Char)
  | '?' :: 'P' :: '<' :: rest =>
      (dropGroupName? rest).map fun rest => (.group options, rest)
  | '?' :: '<' :: rest =>
      (dropGroupName? rest).map fun rest => (.group options, rest)
  | '?' :: ')' :: _ => none
  | '?' :: rest =>
      match readOptions? options true rest with
      | some (inner, ':', rest) => some (.group inner, rest)
      | some (inner, _, rest) => some (.setting inner, rest)
      | none => none
  | rest => some (.group options, rest)

/--
The pattern of what is left of a text, with the groups open around it.

`fuel` bounds the steps, each of which takes a character at least.
-/
def readPattern? :
    Nat →
    List Group →
    Group →
    List Char →
    Option Pattern
  | 0, _, _, _ => none
  | _ + 1, [], group, [] => some group.pattern
  | _ + 1, _ :: _, _, [] => none
  | fuel + 1, outer, group, character :: rest =>
      let options := group.options
      let one := fun (set : CharSet) => group.push (.one (options.apply set))
      let assertion :=
        fun (asserted : Assertion) => group.push (.assertion asserted)
      let again := fun (least : Nat) (most : Option Nat) (rest : List Char) =>
        match group.repeatLast? least most with
        | some group => readPattern? fuel outer group (dropLazySign rest)
        | none => none
      match character with
      | '(' =>
          match readOpening? options rest with
          | some (.group inner, rest) =>
              readPattern? fuel (group :: outer) ⟨inner, [], []⟩ rest
          | some (.setting inner, rest) =>
              readPattern? fuel outer { group with options := inner } rest
          | none => none
      | ')' =>
          match outer with
          | enclosing :: outer =>
              readPattern? fuel outer (enclosing.push group.pattern) rest
          | [] => none
      | '|' => readPattern? fuel outer group.nextAlternative rest
      | '*' => again 0 none rest
      | '+' => again 1 none rest
      | '?' => again 0 (some 1) rest
      | '\x7b' =>
          match readBounds? rest with
          | some (least, most, rest) => again least most rest
          | none => none
      | '[' =>
          let (bracket, rest) := openBracket rest
          match readSet? options (rest.length + 1) [] bracket rest with
          | some (set, rest) =>
              readPattern? fuel outer (group.push (.one set)) rest
          | none => none
      | '.' =>
          let set :=
            if options.dotMatchesAll then CharSet.all else CharSet.notLineFeed
          readPattern? fuel outer (group.push (.one set)) rest
      | '^' =>
          readPattern? fuel outer
            (assertion (if options.multiLine then .lineStart else .textStart))
            rest
      | '$' =>
          readPattern? fuel outer
            (assertion (if options.multiLine then .lineEnd else .textEnd)) rest
      | '\\' =>
          match readEscape? rest with
          | some (.literal character, rest) =>
              readPattern? fuel outer (one (CharSet.single character)) rest
          | some (.set set, rest) => readPattern? fuel outer (one set) rest
          | some (.assertion asserted, rest) =>
              readPattern? fuel outer (assertion asserted) rest
          | none => none
      | character =>
          readPattern? fuel outer (one (CharSet.single character)) rest

/-- The pattern that a text describes under some options. -/
def Pattern.ofText?
    (options : Options)
    (text : String) :
    Option Pattern :=
  let characters := text.toList
  readPattern? (characters.length + 1) [] ⟨options, [], []⟩ characters

/-- A text as a pattern of its own: characters with a meaning are escaped. -/
def escape
    (characters : List Char) :
    List Char :=
  characters.flatMap fun character =>
    if isMeta character then ['\\', character] else [character]

end Regex

end PolyQuery
