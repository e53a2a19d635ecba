import PolyQuery.Document.Compile

namespace PolyQuery.Regex

/-!
# Patterns with wildcards as regular expressions

The regular expression of a pattern with wildcards can always be read. What is
read is anchored at both ends and has one part for each character: a repeated
dot for a percent sign, a dot for an underscore, and the character itself for
any other.
-/

/-- The pattern of a dot under some options. -/
def dot
    (options : Options) :
    Pattern :=
  .one (if options.dotMatchesAll then CharSet.all else CharSet.notLineFeed)

/-- What a caret asserts under some options. -/
def startAnchor
    (options : Options) :
    Assertion :=
  if options.multiLine then .lineStart else .textStart

/-- What a dollar sign asserts under some options. -/
def endAnchor
    (options : Options) :
    Assertion :=
  if options.multiLine then .lineEnd else .textEnd

/--
The part of a regular expression that a character of a pattern with
wildcards stands for.
-/
def wildcardPart
    (options : Options)
    (character : Char) :
    Pattern :=
  if character = '%' then
    .repeated (dot options) 0 none
  else if character = '_' then
    dot options
  else
    .one (options.apply (CharSet.single character))

/-- The regular expression of a pattern with wildcards. -/
def wildcards
    (options : Options)
    (pattern : String) :
    Pattern :=
  inSequence
    ([.assertion (startAnchor options)] ++
      pattern.toList.map (wildcardPart options) ++
      [.assertion (endAnchor options)])

/--
The characters that a character of a pattern with wildcards is written as.
-/
def writtenPart
    (character : Char) :
    List Char :=
  if character = '%' then
    ['.', '*']
  else if character = '_' then
    ['.']
  else
    escape [character]

/--
The written characters of a pattern with wildcards, closed by
the anchor at its end.
-/
def writtenParts
    (characters : List Char) :
    List Char :=
  characters.flatMap writtenPart ++ ['$']

theorem toList_likeToRegex
    (pattern : String) :
    (DocumentCompiler.likeToRegex pattern).toList =
      '^' :: writtenParts pattern.toList := by
  simp only [DocumentCompiler.likeToRegex, String.toList_ofList]
  rfl

theorem mem_metas
    {character : Char}
    (isMetaCharacter : isMeta character = true) :
    character ∈ "\\.+*?()|[]\x7b\x7d^$#&-~".toList := by
  simpa [isMeta] using isMetaCharacter

theorem readEscape?_meta
    {character : Char}
    (isMetaCharacter : isMeta character = true)
    (rest : List Char) :
    readEscape? (character :: rest) = some (.literal character, rest) := by
  have member := mem_metas isMetaCharacter
  simp only [String.reduceToList, List.mem_cons, List.not_mem_nil, or_false]
    at member
  rcases member with
      h | h | h | h | h | h | h | h | h | h | h | h | h | h | h | h | h | h <;>
    subst h <;> rfl

/-- A written pattern never begins with the sign for the shortest match. -/
theorem dropLazySign_writtenParts
    (characters : List Char) :
    dropLazySign (writtenParts characters) = writtenParts characters := by
  cases characters with
  | nil =>
      rfl
  | cons character rest =>
      by_cases percent : character = '%'
      · simp [writtenParts, writtenPart, percent, dropLazySign]
      · by_cases underscore : character = '_'
        · simp [writtenParts, writtenPart, underscore, dropLazySign]
        · by_cases isMetaCharacter : isMeta character = true
          · simp [writtenParts, writtenPart, percent, underscore, escape,
              isMetaCharacter, dropLazySign]
          · have noQuestion : character ≠ '?' := by
              rintro rfl
              exact isMetaCharacter rfl
            simp [writtenParts, writtenPart, percent, underscore, escape,
              isMetaCharacter, dropLazySign, noQuestion]

theorem readPattern?_plain
    {character : Char}
    (plain : isMeta character = false)
    (fuel : Nat)
    (outer : List Group)
    (group : Group)
    (rest : List Char) :
    readPattern? (fuel + 1) outer group (character :: rest) =
      readPattern? fuel outer
        (group.push (.one (group.options.apply (CharSet.single character))))
        rest := by
  have differs : ∀ special, isMeta special = true → character ≠ special := by
    rintro special isSpecial rfl
    rw [plain] at isSpecial
    cases isSpecial
  simp [readPattern?, differs '(' rfl, differs ')' rfl, differs '|' rfl,
    differs '*' rfl, differs '+' rfl, differs '?' rfl, differs '\x7b' rfl,
    differs '[' rfl, differs '.' rfl, differs '^' rfl, differs '$' rfl,
    differs '\\' rfl]

theorem readPattern?_dot
    (fuel : Nat)
    (outer : List Group)
    (group : Group)
    (rest : List Char) :
    readPattern? (fuel + 1) outer group ('.' :: rest) =
      readPattern? fuel outer (group.push (dot group.options)) rest := by
  simp [readPattern?, dot]

theorem readPattern?_star
    (fuel : Nat)
    (outer : List Group)
    (group : Group)
    (part : Pattern)
    (rest : List Char) :
    readPattern? (fuel + 1) outer (group.push part) ('*' :: rest) =
      readPattern? fuel outer (group.push (.repeated part 0 none))
        (dropLazySign rest) := by
  simp [readPattern?, Group.push, Group.repeatLast?]

/-- Reading the written form of a character adds its part. -/
theorem readPattern?_writtenPart
    (character : Char)
    (fuel : Nat)
    (outer : List Group)
    (group : Group)
    (rest : List Char) :
    readPattern? (fuel + 2) outer group
        (writtenPart character ++ writtenParts rest) =
      readPattern? (if character = '%' then fuel else fuel + 1) outer
        (group.push (wildcardPart group.options character))
        (writtenParts rest) := by
  by_cases percent : character = '%'
  · simp [writtenPart, wildcardPart, percent, readPattern?_dot,
      readPattern?_star, dropLazySign_writtenParts]
  · by_cases underscore : character = '_'
    · simp [writtenPart, wildcardPart, underscore, readPattern?_dot]
    · cases isMetaCharacter : isMeta character with
      | true =>
          simp [writtenPart, wildcardPart, percent, underscore, escape,
            isMetaCharacter, readPattern?, readEscape?_meta isMetaCharacter]
      | false =>
          simp [writtenPart, wildcardPart, percent, underscore, escape,
            isMetaCharacter, readPattern?_plain isMetaCharacter]

/--
Reading a written pattern to its end adds the part of every character
and the last anchor.
-/
theorem readPattern?_writtenParts
    (characters : List Char)
    (fuel : Nat)
    (group : Group)
    (enough : (writtenParts characters).length < fuel) :
    readPattern? fuel [] group (writtenParts characters) =
      some (Group.pattern {
        group with
        reversed :=
          .assertion (endAnchor group.options) ::
            ((characters.map (wildcardPart group.options)).reverse ++
              group.reversed)
      }) := by
  induction characters generalizing fuel group with
  | nil =>
      obtain ⟨fuel, rfl⟩ : ∃ less, fuel = less + 2 :=
        ⟨fuel - 2, by simp [writtenParts] at enough; omega⟩
      simp [writtenParts, readPattern?, Group.push, endAnchor]
  | cons character rest inductionHypothesis =>
      have parted : writtenParts (character :: rest) =
          writtenPart character ++ writtenParts rest := by
        simp [writtenParts]
      have closed : 0 < (writtenParts rest).length := by
        simp [writtenParts]
      have partLength :
          (if character = '%' then 2 else 1) ≤
            (writtenPart character).length := by
        by_cases percent : character = '%'
        · simp [writtenPart, percent]
        · by_cases underscore : character = '_'
          · simp [writtenPart, underscore]
          · by_cases isMetaCharacter : isMeta character = true <;>
              simp [writtenPart, percent, underscore, escape, isMetaCharacter]
      rw [parted, List.length_append] at enough
      obtain ⟨fuel, rfl⟩ : ∃ less, fuel = less + 2 :=
        ⟨fuel - 2, by split at partLength <;> omega⟩
      rw [parted, readPattern?_writtenPart, inductionHypothesis]
      · simp only [Group.push, List.map_cons, List.reverse_cons,
          List.append_assoc, List.cons_append, List.nil_append]
      · split at partLength <;> simp_all <;> omega

/--
The regular expression of a pattern with wildcards can be
read under all options.
-/
theorem ofText?_likeToRegex
    (options : Options)
    (pattern : String) :
    Pattern.ofText? options (DocumentCompiler.likeToRegex pattern) =
      some (wildcards options pattern) := by
  have opened :
      Pattern.ofText? options (DocumentCompiler.likeToRegex pattern) =
        readPattern? ((writtenParts pattern.toList).length + 1) []
          (Group.push ⟨options, [], []⟩ (.assertion (startAnchor options)))
          (writtenParts pattern.toList) := by
    simp only [Pattern.ofText?, toList_likeToRegex]
    rfl
  rw [opened, readPattern?_writtenParts _ _ _ (Nat.lt_succ_self _)]
  simp [Group.pattern, Group.push, oneOf, wildcards]

end PolyQuery.Regex
