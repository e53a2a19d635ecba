import PolyQuery.Proofs.Document.Lowering
import PolyQuery.Proofs.Regex.Spans

namespace PolyQuery.Regex

open DocumentCompiler Matching

/-!
# LIKE patterns and the regular expressions written for them

A LIKE pattern matches a text that can be cut into stretches that its characters
stand for: a percent sign for any stretch, an underscore for one character, and
every other character for itself. The regular expression of the pattern matches
exactly the texts that the pattern matches with wildcards for the characters of
the dot. The dot leaves out the line feed unless an option says otherwise, so
that the two agree on a text only if its line feeds are those that the pattern
names.
-/

/--
What a character of a pattern stands for, where the wildcards cover
a set of characters.
-/
inductive StandsFor (covered : CharSet) : Char → List Char → Prop where
  | itself
      {character : Char} :
      character ≠ '%' →
      character ≠ '_' →
      StandsFor covered character [character]
  | anyOne
      {character : Char} :
      covered.contains character = true →
      StandsFor covered '_' [character]
  | anyStretch
      {stretch : List Char} :
      (∀ character ∈ stretch, covered.contains character = true) →
      StandsFor covered '%' stretch

/-- A pattern matches a text, where its wildcards cover a set of characters. -/
inductive Like (covered : CharSet) : List Char → List Char → Prop where
  | finished :
      Like covered [] []
  | next
      {character : Char}
      {stretch pattern text : List Char} :
      StandsFor covered character stretch →
      Like covered pattern text →
      Like covered (character :: pattern) (stretch ++ text)

section Stretches

variable {covered : CharSet} {character : Char}
  {stretch pattern text : List Char}

theorem standsFor_percent_iff :
    StandsFor covered '%' stretch ↔
      ∀ character ∈ stretch, covered.contains character = true := by
  constructor
  · intro stands
    cases stands with
    | itself percent => exact absurd rfl percent
    | anyStretch members => exact members
  · exact .anyStretch

theorem standsFor_underscore_iff :
    StandsFor covered '_' stretch ↔
      ∃ character,
        covered.contains character = true ∧ stretch = [character] := by
  constructor
  · intro stands
    cases stands with
    | itself _ underscore => exact absurd rfl underscore
    | anyOne member => exact ⟨_, member, rfl⟩
  · rintro ⟨character, member, rfl⟩
    exact .anyOne member

theorem standsFor_itself_iff
    (percent : character ≠ '%')
    (underscore : character ≠ '_') :
    StandsFor covered character stretch ↔ stretch = [character] := by
  constructor
  · intro stands
    cases stands with
    | itself => rfl
    | anyOne => exact absurd rfl underscore
    | anyStretch => exact absurd rfl percent
  · rintro rfl
    exact .itself percent underscore

theorem like_nil_iff :
    Like covered [] text ↔ text = [] := by
  constructor
  · rintro ⟨⟩
    rfl
  · rintro rfl
    exact .finished

theorem like_cons_iff :
    Like covered (character :: pattern) text ↔
      ∃ stretch rest, StandsFor covered character stretch ∧
        text = stretch ++ rest ∧ Like covered pattern rest := by
  constructor
  · intro like
    cases like with
    | next stands like => exact ⟨_, _, stands, rfl, like⟩
  · rintro ⟨stretch, rest, stands, rfl, like⟩
    exact .next stands like

/-- A pattern without wildcards matches itself only. -/
theorem like_iff_of_plain
    (noPercent : '%' ∉ pattern)
    (noUnderscore : '_' ∉ pattern) :
    Like covered pattern text ↔ text = pattern := by
  induction pattern generalizing text with
  | nil =>
      exact like_nil_iff
  | cons character pattern inductionHypothesis =>
      simp only [List.mem_cons, not_or] at noPercent noUnderscore
      simp [like_cons_iff,
        standsFor_itself_iff (Ne.symm noPercent.1) (Ne.symm noUnderscore.1),
        inductionHypothesis noPercent.2 noUnderscore.2]

end Stretches

section LineFeeds

variable {character : Char} {stretch pattern text : List Char}

theorem contains_single
    {expected : Char} :
    (CharSet.single expected).contains character = true ↔
      character = expected := by
  have sameCode : character.toNat = expected.toNat ↔ character = expected :=
    ⟨fun same => Char.ext (UInt32.toNat_inj.mp same), congrArg Char.toNat⟩
  rw [← sameCode]
  simp only [CharSet.single, CharSet.contains, Bool.and_eq_true,
    decide_eq_true_eq]
  omega

theorem contains_notLineFeed :
    CharSet.notLineFeed.contains character = true ↔ character ≠ '\n' := by
  rw [ne_eq, ← contains_single, Bool.not_eq_true]
  simp only [CharSet.notLineFeed, CharSet.contains, Bool.not_eq_true']

/--
A pattern names the line feed of its first character, if it is one,
and those of the rest.
-/
theorem count_cons_lineFeeds
    (character : Char)
    (pattern : List Char) :
    (character :: pattern).count '\n' =
      [character].count '\n' + pattern.count '\n' := by
  rw [← List.singleton_append, List.count_append]

/-- A stretch has the line feed that its character names, and maybe more. -/
theorem StandsFor.count_le
    (stands : StandsFor .all character stretch) :
    [character].count '\n' ≤ stretch.count '\n' := by
  cases stands with
  | itself => exact Nat.le_refl _
  | anyOne => exact Nat.zero_le _
  | anyStretch => exact Nat.zero_le _

/-- A matched text has the line feeds that the pattern names, and maybe more. -/
theorem Like.count_le
    (like : Like .all pattern text) :
    pattern.count '\n' ≤ text.count '\n' := by
  induction like with
  | finished =>
      exact Nat.le_refl _
  | @next character _ pattern _ stands _ inductionHypothesis =>
      have first := stands.count_le
      rw [count_cons_lineFeeds, List.count_append]
      omega

theorem standsFor_notLineFeed_iff :
    StandsFor .notLineFeed character stretch ↔
      StandsFor .all character stretch ∧
        stretch.count '\n' = [character].count '\n' := by
  by_cases percent : character = '%'
  · subst percent
    have noneNamed : ['%'].count '\n' = 0 := rfl
    simp only [standsFor_percent_iff, contains_notLineFeed, noneNamed,
      List.count_eq_zero]
    constructor
    · exact fun others => ⟨fun _ _ => rfl, fun member => others _ member rfl⟩
    · rintro ⟨-, absent⟩ character member rfl
      exact absent member
  · by_cases underscore : character = '_'
    · subst underscore
      have noneNamed : ['_'].count '\n' = 0 := rfl
      simp only [standsFor_underscore_iff, contains_notLineFeed, noneNamed,
        List.count_eq_zero]
      constructor
      · rintro ⟨character, other, rfl⟩
        exact ⟨⟨character, rfl, rfl⟩, by simpa using Ne.symm other⟩
      · rintro ⟨⟨character, -, rfl⟩, absent⟩
        exact ⟨character, by simpa [eq_comm] using absent, rfl⟩
    · simp only [standsFor_itself_iff percent underscore]
      constructor
      · rintro rfl
        exact ⟨rfl, rfl⟩
      · exact And.left

/--
Wildcards that cover no line feed leave a text with the line feeds
that the pattern names.
-/
theorem like_notLineFeed_iff :
    Like .notLineFeed pattern text ↔
      Like .all pattern text ∧ text.count '\n' = pattern.count '\n' := by
  induction pattern generalizing text with
  | nil =>
      simp only [like_nil_iff]
      constructor
      · rintro rfl
        exact ⟨rfl, rfl⟩
      · exact And.left
  | cons character pattern inductionHypothesis =>
      simp only [like_cons_iff, standsFor_notLineFeed_iff, inductionHypothesis]
      constructor
      · rintro ⟨stretch, rest, ⟨stands, first⟩, rfl, like, later⟩
        refine ⟨⟨stretch, rest, stands, rfl, like⟩, ?_⟩
        rw [List.count_append, first, later, ← count_cons_lineFeeds]
      · rintro ⟨⟨stretch, rest, stands, rfl, like⟩, same⟩
        -- Neither part has fewer line feeds than it should, so neither has
        -- more.
        have first := stands.count_le
        have later := like.count_le
        rw [List.count_append, count_cons_lineFeeds] at same
        exact ⟨stretch, rest, ⟨stands, by omega⟩, rfl, like, by omega⟩

/-- A pattern with a line feed for every wildcard. -/
def spread
    (pattern : List Char) :
    List Char :=
  pattern.map fun character =>
    if character = '%' ∨ character = '_' then '\n' else character

theorem like_spread
    (pattern : List Char) :
    Like .all pattern (spread pattern) := by
  induction pattern with
  | nil =>
      exact .finished
  | cons character pattern inductionHypothesis =>
      have stands :
          StandsFor .all character
            [if character = '%' ∨ character = '_' then
                '\n'
              else
                character] := by
        by_cases percent : character = '%'
        · subst percent
          exact .anyStretch fun _ _ => rfl
        · by_cases underscore : character = '_'
          · subst underscore
            exact .anyOne rfl
          · simp only [percent, underscore, or_self, if_false]
            exact .itself percent underscore
      exact .next stands inductionHypothesis

/-- The line feeds for wildcards come on top of those that the pattern names. -/
theorem count_spread
    (pattern : List Char) :
    (spread pattern).count '\n' =
      pattern.count '\n' + pattern.count '%' + pattern.count '_' := by
  induction pattern with
  | nil =>
      rfl
  | cons character pattern inductionHypothesis =>
      simp only [spread, List.map_cons] at inductionHypothesis ⊢
      simp only [List.count_cons, inductionHypothesis, beq_iff_eq]
      by_cases percent : character = '%'
      · simp [percent]
        omega
      · by_cases underscore : character = '_'
        · simp [underscore]
          omega
        · simp [percent, underscore]
          omega

end LineFeeds

section Places

variable {subject stretch rest : List Char} {start finish : Nat}

/-- A text goes on with a stretch at a place. -/
def Continues
    (subject : List Char)
    (stretch : List Char)
    (start : Nat)
    (finish : Nat) :
    Prop :=
  start + stretch.length = finish ∧
    subject.drop start = stretch ++ subject.drop finish

theorem continues_of_drop
    (goesOn : subject.drop start = stretch ++ rest) :
    ∃ finish,
      Continues subject stretch start finish ∧ subject.drop finish = rest := by
  have behind : subject.drop (start + stretch.length) = rest := by
    rw [← List.drop_drop, goesOn, List.drop_left]
  exact ⟨start + stretch.length, ⟨rfl, by rw [behind, goesOn]⟩, behind⟩

theorem Continues.append
    {more : List Char}
    {between : Nat}
    (first : Continues subject stretch start between)
    (second : Continues subject more between finish) :
    Continues subject (stretch ++ more) start finish := by
  obtain ⟨rfl, first⟩ := first
  obtain ⟨rfl, second⟩ := second
  refine ⟨by rw [List.length_append]; omega, ?_⟩
  rw [first, second, List.append_assoc]

theorem continues_nil_iff :
    Continues subject [] start finish ↔ start = finish := by
  constructor
  · exact And.left
  · rintro rfl
    exact ⟨rfl, rfl⟩

theorem continues_cons_iff
    {character : Char} :
    Continues subject (character :: stretch) start finish ↔
      Continues subject [character] start (start + 1) ∧
        Continues subject stretch (start + 1) finish := by
  constructor
  · rintro ⟨rfl, goesOn⟩
    have apiece :
        subject.drop start = [character] ++ (stretch ++ subject.drop _) :=
      goesOn
    obtain ⟨_, ⟨rfl, first⟩, second⟩ := continues_of_drop apiece
    exact ⟨⟨rfl, first⟩, by simp only [List.length_cons]; omega, second⟩
  · rintro ⟨first, second⟩
    exact first.append second

theorem continues_single_iff
    {character : Char} :
    Continues subject [character] start finish ↔
      start + 1 = finish ∧ subject[start]? = some character := by
  simp only [Continues, List.length_singleton, List.singleton_append]
  constructor
  · rintro ⟨rfl, goesOn⟩
    exact ⟨rfl, by rw [← List.head?_drop, goesOn, List.head?_cons]⟩
  · rintro ⟨rfl, present⟩
    obtain ⟨within, rfl⟩ := List.getElem?_eq_some_iff.mp present
    exact ⟨rfl, List.drop_eq_getElem_cons within⟩

theorem spans_one
    {set : CharSet} :
    Pattern.Spans subject.toArray (.one set) start finish ↔
      ∃ character,
        set.contains character = true ∧
          Continues subject [character] start finish := by
  simp only [Pattern.Spans, List.getElem?_toArray, continues_single_iff]
  grind

/-- Steps over one character each cover a stretch of characters. -/
theorem steps_one
    {set : CharSet}
    {count : Nat} :
    Steps (Pattern.Spans subject.toArray (.one set)) count start finish ↔
      ∃ stretch : List Char, stretch.length = count ∧
        (∀ character ∈ stretch, set.contains character = true) ∧
          Continues subject stretch start finish := by
  induction count generalizing start with
  | zero =>
      simp [Steps, continues_nil_iff]
  | succ count inductionHypothesis =>
      simp only [Steps, spans_one, inductionHypothesis]
      constructor
      · rintro ⟨between, ⟨character, member, first⟩, stretch, rfl, members,
          later⟩
        exact ⟨character :: stretch, rfl,
          List.forall_mem_cons.mpr ⟨member, members⟩, first.append later⟩
      · rintro ⟨stretch, length, members, goesOn⟩
        cases stretch with
        | nil =>
            cases length
        | cons character stretch =>
            obtain ⟨member, members⟩ := List.forall_mem_cons.mp members
            obtain ⟨first, later⟩ := continues_cons_iff.mp goesOn
            exact ⟨start + 1, ⟨character, member, first⟩, stretch,
              Nat.succ.inj length, members, later⟩

theorem spans_run
    {set : CharSet} :
    Pattern.Spans subject.toArray (.repeated (.one set) 0 none) start finish ↔
      ∃ stretch : List Char,
        (∀ character ∈ stretch, set.contains character = true) ∧
        Continues subject stretch start finish := by
  constructor
  · rintro ⟨count, -, -, steps⟩
    obtain ⟨stretch, -, members, goesOn⟩ := steps_one.mp steps
    exact ⟨stretch, members, goesOn⟩
  · rintro ⟨stretch, members, goesOn⟩
    have steps := steps_one.mpr ⟨stretch, rfl, members, goesOn⟩
    exact ⟨stretch.length, Nat.zero_le _, by simp, steps⟩

end Places

section WrittenPatterns

variable
  {options : Options}
  (exactCase : options.ignoringCase = false)
  {subject : List Char}
  {start finish : Nat}

/-- The characters that the dot covers under some options. -/
def dotSet
    (options : Options) :
    CharSet :=
  if options.dotMatchesAll then .all else .notLineFeed

theorem inSequence_cons
    {pattern : Pattern}
    {rest : List Pattern}
    (more : rest ≠ []) :
    inSequence (pattern :: rest) = .sequence pattern (inSequence rest) := by
  cases rest with
  | nil => exact absurd rfl more
  | cons => rfl

include exactCase

/-- The part of a character spans the stretches that it stands for. -/
theorem spans_wildcardPart
    {character : Char} :
    Pattern.Spans subject.toArray (wildcardPart options character) start
        finish ↔
      ∃ stretch, StandsFor (dotSet options) character stretch ∧
        Continues subject stretch start finish := by
  by_cases percent : character = '%'
  · subst percent
    have written :
        wildcardPart options '%' = .repeated (.one (dotSet options)) 0 none :=
      rfl
    simp only [written, spans_run, standsFor_percent_iff]
  · by_cases underscore : character = '_'
    · subst underscore
      have written : wildcardPart options '_' = .one (dotSet options) := rfl
      rw [written, spans_one]
      simp [standsFor_underscore_iff]
    · simp only [wildcardPart, percent, underscore, if_false, Options.apply,
        exactCase, Bool.false_eq_true, spans_one, contains_single,
        standsFor_itself_iff percent underscore, exists_eq_left]

/--
The parts of a pattern and the anchor behind them span to the end of a
text that it matches.
-/
theorem spans_wildcardParts
    (wholeText : options.multiLine = false)
    (pattern : List Char)
    (within : start ≤ subject.length) :
    (∃ finish, Pattern.Spans subject.toArray
        (inSequence
          (pattern.map (wildcardPart options) ++
            [.assertion (endAnchor options)]))
        start finish) ↔
      Like (dotSet options) pattern (subject.drop start) := by
  induction pattern generalizing start with
  | nil =>
      have anchor : endAnchor options = .textEnd := by
        simp [endAnchor, wholeText]
      simp only [List.map_nil, List.nil_append, inSequence, Pattern.Spans,
        anchor, Assertion.holds, List.size_toArray, decide_eq_true_eq,
        exists_eq_left', like_nil_iff, List.drop_eq_nil_iff]
      omega
  | cons character pattern inductionHypothesis =>
      rw [List.map_cons, List.cons_append, inSequence_cons (by simp),
        like_cons_iff]
      constructor
      · rintro ⟨finish, between, part, later⟩
        have ahead : between ≤ subject.length := by
          have onward := part.onward
          rw [List.size_toArray] at onward
          omega
        obtain ⟨stretch, stands, -, goesOn⟩ :=
          (spans_wildcardPart exactCase).mp part
        exact ⟨stretch, subject.drop between, stands, goesOn,
          (inductionHypothesis ahead).mp ⟨finish, later⟩⟩
      · rintro ⟨stretch, rest, stands, goesOn, like⟩
        obtain ⟨between, continued, rfl⟩ := continues_of_drop goesOn
        have part :=
          (spans_wildcardPart exactCase).mpr ⟨stretch, stands, continued⟩
        have ahead : between ≤ subject.length := by
          have onward := part.onward
          rw [List.size_toArray] at onward
          omega
        obtain ⟨finish, later⟩ := (inductionHypothesis ahead).mpr like
        exact ⟨finish, between, part, later⟩

/--
The regular expression of a pattern matches what the pattern does, for
the dot's characters.
-/
theorem matchesIn_wildcards_iff
    (wholeText : options.multiLine = false)
    {pattern subject : String} :
    (wildcards options pattern).matchesIn subject = true ↔
      Like (dotSet options) pattern.toList subject.toList := by
  have anchor : startAnchor options = .textStart := by
    simp [startAnchor, wholeText]
  have begun : wildcards options pattern =
      .sequence (.assertion .textStart)
        (inSequence
          (pattern.toList.map (wildcardPart options) ++
            [.assertion (endAnchor options)])) := by
    rw [wildcards, List.append_assoc, List.singleton_append,
      inSequence_cons (by simp), anchor]
  have fromStart := spans_wildcardParts exactCase wholeText pattern.toList
    (Nat.zero_le subject.toList.length)
  rw [List.drop_zero] at fromStart
  rw [Pattern.matchesIn_iff, begun, ← fromStart]
  constructor
  · rintro ⟨_, finish, -, _, ⟨rfl, atStart⟩, spans⟩
    simp only [Assertion.holds, decide_eq_true_eq] at atStart
    exact ⟨finish, by simpa [atStart] using spans⟩
  · rintro ⟨finish, spans⟩
    exact ⟨0, finish, Nat.zero_le _, 0, ⟨rfl, rfl⟩, spans⟩

end WrittenPatterns

/--
The condition that a pattern is lowered to holds where
wildcards cover no line feed.
-/
theorem likeToRegex_decides
    (pattern subject : String) :
    Decides
      (conditionHolds (some (.string subject))
        (.object [("$regex", .string (likeToRegex pattern))]))
      (Like .notLineFeed pattern.toList subject.toList) := by
  obtain ⟨lowered, means⟩ := lowered_like pattern
  refine (conditionHolds_lowered lowered (some (.string subject))).congr ?_
  rw [means]
  simp only [Operator.wildcardsHold, ofText?_likeToRegex]
  exact matchesIn_wildcards_iff rfl rfl

/--
The regular expression of a LIKE pattern matches a text exactly if the pattern
does and no wildcard covers a line feed.

So it means what the pattern does for every text exactly if the
pattern has no wildcards.
-/
theorem likeToRegex_means_like_within_lines
    (pattern : String) :
    (∀ subject : String,
      Decides
        (conditionHolds (some (.string subject))
          (.object [("$regex", .string (likeToRegex pattern))]))
        (Like .all pattern.toList subject.toList ∧
          subject.toList.count '\n' = pattern.toList.count '\n')) ∧
    ((∀ subject : String,
      Decides
        (conditionHolds (some (.string subject))
          (.object [("$regex", .string (likeToRegex pattern))]))
        (Like .all pattern.toList subject.toList)) ↔
      '%' ∉ pattern.toList ∧ '_' ∉ pattern.toList) := by
  refine ⟨fun subject =>
    (likeToRegex_decides pattern subject).congr like_notLineFeed_iff, ?_⟩
  constructor
  · intro agrees
    -- The text with a line feed for every wildcard is like the pattern, but not
    -- matched.
    have matched :
        Like .notLineFeed pattern.toList (spread pattern.toList) := by
      have answer := agrees (String.ofList (spread pattern.toList))
      rw [String.toList_ofList] at answer
      have other :=
        likeToRegex_decides pattern (String.ofList (spread pattern.toList))
      rw [String.toList_ofList] at other
      exact other.eq_true_iff.mp
        (answer.eq_true_iff.mpr (like_spread pattern.toList))
    have same := (like_notLineFeed_iff.mp matched).2
    rw [count_spread] at same
    exact ⟨List.count_eq_zero.mp (by omega), List.count_eq_zero.mp (by omega)⟩
  · rintro ⟨noPercent, noUnderscore⟩ subject
    apply (likeToRegex_decides pattern subject).congr
    rw [like_iff_of_plain noPercent noUnderscore,
      like_iff_of_plain noPercent noUnderscore]

/--
A percent sign stands for a line feed, which the regular expression
written for it misses.
-/
theorem likeToRegex_misses_lineFeed :
    Like .all "%".toList "\n".toList ∧
      conditionHolds (some (.string "\n"))
          (.object [("$regex", .string (likeToRegex "%"))]) =
        .ok false := by
  have covered : StandsFor .all '%' ['\n'] := .anyStretch fun _ _ => rfl
  exact ⟨.next covered .finished, by decide +kernel⟩

end PolyQuery.Regex
