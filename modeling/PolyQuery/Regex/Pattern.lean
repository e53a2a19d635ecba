import PolyQuery.Text.Characters
import PolyQuery.Text.Folding

namespace PolyQuery

/-!
# Regular expressions

Sets of characters, patterns over them, and the places where a match of a
pattern can end. A place in a text is the number of characters before it. A
pattern matches a text if a match begins somewhere in it.
-/

namespace Regex

/-- A set of characters. -/
inductive CharSet where
  | none
  | range (low : Nat) (high : Nat)
  | digit
  | word
  | blank
  | complement (set : CharSet)
  | union (left : CharSet) (right : CharSet)
  | intersection (left : CharSet) (right : CharSet)
  /-- The characters that differ from a member in letter case only. -/
  | folded (set : CharSet)
  deriving DecidableEq, Repr

namespace CharSet

/-- The set of one character. -/
def single
    (character : Char) :
    CharSet :=
  .range character.toNat character.toNat

/-- Every character. -/
def all : CharSet :=
  .complement .none

/-- Every character but the line feed. -/
def notLineFeed : CharSet :=
  .complement (single '\n')

/-- Whether a character is in a set. -/
def contains : CharSet → Char → Bool
  | .none, _ => false
  | .range low high, character =>
      low ≤ character.toNat && character.toNat ≤ high
  | .digit, character => Characters.isDigit character
  | .word, character => Characters.isWord character
  | .blank, character => Characters.isBlank character
  | .complement set, character => !contains set character
  | .union left right, character =>
      contains left character || contains right character
  | .intersection left right, character =>
      contains left character && contains right character
  | .folded set, character =>
      contains set character ||
        (Folding.variants character.toNat).any fun code =>
          contains set (Char.ofNat code)

end CharSet

/-- The character before a place. -/
def before?
    (text : Array Char)
    (place : Nat) :
    Option Char :=
  match place with
  | 0 => none
  | earlier + 1 => text[earlier]?

/-- The character after a place. -/
def after?
    (text : Array Char)
    (place : Nat) :
    Option Char :=
  text[place]?

/-- What a place must be like. -/
inductive Assertion where
  | textStart
  | textEnd
  | lineStart
  | lineEnd
  | wordBoundary
  | noWordBoundary
  deriving DecidableEq, Repr

/-- Whether the character next to a place is of a word. -/
def isWordSide : Option Char → Bool
  | none => false
  | some character => Characters.isWord character

/-- Whether there is nothing, or a line feed, next to a place. -/
def isLineSide : Option Char → Bool
  | none => true
  | some character => character = '\n'

/-- Whether a place is as asserted. -/
def Assertion.holds
    (text : Array Char)
    (place : Nat) :
    Assertion →
    Bool
  | .textStart => place = 0
  | .textEnd => place = text.size
  | .lineStart => isLineSide (before? text place)
  | .lineEnd => isLineSide (after? text place)
  | .wordBoundary =>
      isWordSide (before? text place) != isWordSide (after? text place)
  | .noWordBoundary =>
      isWordSide (before? text place) == isWordSide (after? text place)

/-- A pattern. -/
inductive Pattern where
  | empty
  | one (set : CharSet)
  | assertion (asserted : Assertion)
  | sequence (first : Pattern) (second : Pattern)
  | choice (left : Pattern) (right : Pattern)
  /-- At least `least` and at most `most` matches in a row. -/
  | repeated (body : Pattern) (least : Nat) (most : Option Nat)
  deriving DecidableEq, Repr

/-- The places reached by a step from some place, each of them once. -/
def advance
    (step : Nat → List Nat)
    (places : List Nat) :
    List Nat :=
  (places.flatMap step).eraseDups

/-- The places reached by exactly a number of steps. -/
def iterate
    (step : Nat → List Nat) :
    Nat →
    List Nat →
    List Nat
  | 0, places => places
  | count + 1, places =>
      if places.isEmpty then
        []
      else
        iterate step count (advance step places)

/--
The places reached before or by at most a number of further steps.

Every round goes on from the places that the round before has reached first.
-/
def closure
    (step : Nat → List Nat) :
    Nat →
    List Nat →
    List Nat →
    List Nat
  | 0, reached, _ => reached
  | count + 1, reached, latest =>
      let fresh :=
        (advance step latest).filter fun place => !reached.contains place
      if fresh.isEmpty then
        reached
      else
        closure step count (reached ++ fresh) fresh

namespace Pattern

/--
The places where a match that begins at a place can end.

A repetition needs no more optional steps than there are characters left: a
step that takes none leads nowhere new.
-/
def ends
    (text : Array Char) :
    Pattern →
    Nat →
    List Nat
  | .empty, place => [place]
  | .one set, place =>
      match after? text place with
      | some character => if set.contains character then [place + 1] else []
      | none => []
  | .assertion asserted, place =>
      if asserted.holds text place then [place] else []
  | .sequence first second, place =>
      advance (ends text second) (ends text first place)
  | .choice left right, place =>
      (ends text left place ++ ends text right place).eraseDups
  | .repeated body least most, place =>
      let optional :=
        match most with
        | some most => min (most - least) (text.size - place)
        | none => text.size - place
      let forced := iterate (ends text body) least [place]
      closure (ends text body) optional forced forced

/-- Whether a match begins somewhere in a text. -/
def matchesIn
    (pattern : Pattern)
    (subject : String) :
    Bool :=
  let text := subject.toList.toArray
  (List.range (text.size + 1)).any fun place =>
    !(pattern.ends text place).isEmpty

end Pattern

end Regex

end PolyQuery
