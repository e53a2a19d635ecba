import Mathlib.Data.List.TakeWhile
import PolyQuery.Document.Path
import PolyQuery.Proofs.Entries

namespace PolyQuery

/-!
# Plain keys

A key without dots is a path of one segment: reading, writing and removing at
the path is reading, storing and erasing the key itself. Any other path leads on
from the key up to its first dot, so that what it reads depends on the value
under that key alone, and there is nothing to read in a scalar.
-/

/-- A key that is a path of one segment. -/
def IsPlainKey
    (key : String) :
    Prop :=
  '.' ∉ key.toList

instance
    (key : String) :
    Decidable (IsPlainKey key) :=
  inferInstanceAs (Decidable ('.' ∉ key.toList))

namespace Path

theorem segmentsFrom_of_undotted
    {characters : List Char}
    (undotted : '.' ∉ characters)
    (current : List Char) :
    segmentsFrom current characters =
      [String.ofList (current.reverse ++ characters)] := by
  induction characters generalizing current with
  | nil =>
      simp [segmentsFrom]
  | cons character rest inductionHypothesis =>
      rw [List.mem_cons, not_or] at undotted
      have notDot : character ≠ '.' := Ne.symm undotted.1
      rw [segmentsFrom, if_neg notDot, inductionHypothesis undotted.2]
      simp

theorem segments_of_plain
    {key : String}
    (plain : IsPlainKey key) :
    segments key = [key] := by
  rw [segments, segmentsFrom_of_undotted plain]
  simp

/-- The key that a path leads to first: the path up to its first dot. -/
def rootOf
    (path : String) :
    String :=
  String.ofList (path.toList.takeWhile fun character => character ≠ '.')

theorem segmentsFrom_eq_cons
    (current characters : List Char) :
    ∃ rest,
      segmentsFrom current characters =
          String.ofList
              (current.reverse ++ characters.takeWhile fun character =>
                character ≠ '.') ::
            rest ∧
        (rest = [] ↔ '.' ∉ characters) := by
  induction characters generalizing current with
  | nil =>
      exact ⟨[], by simp [segmentsFrom], by simp⟩
  | cons character others inductionHypothesis =>
      by_cases isDot : character = '.'
      · obtain ⟨rest, isCons, -⟩ := inductionHypothesis []
        refine ⟨segmentsFrom [] others, by simp [segmentsFrom, isDot], ?_⟩
        rw [isCons]
        simp [isDot]
      · obtain ⟨rest, isCons, single⟩ :=
          inductionHypothesis (character :: current)
        refine ⟨rest, ?_, ?_⟩
        · rw [segmentsFrom, if_neg isDot, isCons]
          simp [isDot]
        · rw [single]
          simp [Ne.symm isDot]

/-- A path begins with its root, and goes on exactly if it has a dot. -/
theorem segments_eq_cons
    (path : String) :
    ∃ rest,
      segments path = rootOf path :: rest ∧ (rest = [] ↔ IsPlainKey path) :=
  segmentsFrom_eq_cons [] path.toList

theorem segments_ne_nil
    (path : String) :
    segments path ≠ [] := by
  obtain ⟨rest, isCons, -⟩ := segments_eq_cons path
  rw [isCons]
  exact List.cons_ne_nil _ rest

theorem rootOf_of_plain
    {key : String}
    (plain : IsPlainKey key) :
    rootOf key = key := by
  have whole :
      (key.toList.takeWhile fun character => character ≠ '.') = key.toList := by
    rw [List.takeWhile_eq_self_iff]
    intro character member
    have notDot : character ≠ '.' := fun isDot => plain (isDot ▸ member)
    simpa using notDot
  rw [rootOf, whole, String.ofList_toList]

end Path

namespace Document

variable
  {key : String}
  (plain : IsPlainKey key)
  (document : Document)

include plain

theorem lookup?_of_plain :
    document.lookup? key = document.get? key := by
  rw [lookup?, Path.segments_of_plain plain, Path.get?]
  cases document.get? key <;> rfl

omit plain in
/-- What a path reads depends on the value under its root alone. -/
theorem lookup?_congr
    {document other : Document}
    (sameRoot :
      document.get? (Path.rootOf key) = other.get? (Path.rootOf key)) :
    document.lookup? key = other.lookup? key := by
  obtain ⟨rest, isCons, -⟩ := Path.segments_eq_cons key
  rw [lookup?, lookup?, isCons, Path.get?, Path.get?, sameRoot]

theorem setPath_of_plain
    (value : Json) :
    document.setPath key value = document.insert key value := by
  rw [setPath, Path.segments_of_plain plain, Path.set]

theorem removePath?_of_plain :
    document.removePath? key =
      (document.get? key).map fun value => (value, document.erase key) := by
  rw [removePath?, Path.segments_of_plain plain, Path.remove?]
  cases document.get? key <;> rfl

end Document

end PolyQuery
