import PolyQuery.Document.Collection
import PolyQuery.Proofs.AlikeEntries
import PolyQuery.Proofs.Document.PlainKeys

namespace PolyQuery

/-!
# Renamed keys

Two documents with the same values in order, under keys that stand for each
other one to one, cannot be told apart by reading at such keys. Writing and
removing there leaves them so. Only keys that are no paths and no operators may
be renamed, and the identifier's key stands for itself.
-/

/-- Keys that stand for each other. -/
structure FaithfulRenaming
    (names : String → String → Prop) :
    Prop where
  oneToOne : Relator.BiUnique names
  identifier : names idKey idKey
  plain : ∀ key other, names key other → IsPlainKey key ∧ IsPlainKey other
  unmarked :
    ∀ key other, names key other →
      Operator.isMarked key = false ∧ Operator.isMarked other = false

/-- The same values in order under keys that stand for each other. -/
abbrev Document.Renamed
    (names : String → String → Prop) :
    Document →
    Document →
    Prop :=
  Entries.Alike names Eq

variable
  {names : String → String → Prop}
  (faithful : FaithfulRenaming names)
  {left right : Document}
  {key other : String}

include faithful

theorem FaithfulRenaming.isIdKey_iff
    (sameKey : names key other) :
    key = idKey ↔ other = idKey :=
  Relator.rel_eq faithful.oneToOne sameKey faithful.identifier

namespace Document.Renamed

variable
  (renamed : left.Renamed names right)
  (sameKey : names key other)

include renamed sameKey

theorem get?_eq :
    left.get? key = right.get? other := by
  have related := renamed.get? faithful.oneToOne sameKey
  generalize Entries.get? left key = value at related ⊢
  generalize Entries.get? right other = valueToo at related ⊢
  cases related with
  | none =>
      rfl
  | some same =>
      exact congrArg some same

theorem lookup?_eq :
    left.lookup? key = right.lookup? other := by
  obtain ⟨keyPlain, otherPlain⟩ := faithful.plain key other sameKey
  rw [lookup?_of_plain keyPlain, lookup?_of_plain otherPlain]
  exact renamed.get?_eq faithful sameKey

theorem setPath
    (value : Json) :
    (left.setPath key value).Renamed names (right.setPath other value) := by
  obtain ⟨keyPlain, otherPlain⟩ := faithful.plain key other sameKey
  rw [setPath_of_plain keyPlain, setPath_of_plain otherPlain]
  exact renamed.insert faithful.oneToOne sameKey rfl

theorem removePath? :
    Option.Rel
      (fun removed removedToo =>
        removed.1 = removedToo.1 ∧ removed.2.Renamed names removedToo.2)
      (left.removePath? key) (right.removePath? other) := by
  obtain ⟨keyPlain, otherPlain⟩ := faithful.plain key other sameKey
  rw [removePath?_of_plain keyPlain, removePath?_of_plain otherPlain,
    renamed.get?_eq faithful sameKey]
  cases Entries.get? right other with
  | none =>
      exact .none
  | some value =>
      exact .some ⟨rfl, renamed.erase faithful.oneToOne sameKey⟩

omit sameKey

theorem sameMembers_eq
    {others othersToo : Document}
    (othersRenamed : others.Renamed names othersToo) :
    Json.sameMembers left others = Json.sameMembers right othersToo := by
  induction renamed with
  | nil =>
      rfl
  | @cons entry entryToo _ _ headRenamed _ inductionHypothesis =>
      obtain ⟨name, value⟩ := entry
      obtain ⟨nameToo, valueToo⟩ := entryToo
      obtain ⟨sameName, sameValue⟩ := headRenamed
      dsimp only at sameName sameValue
      rw [Json.sameMembers, Json.sameMembers,
        othersRenamed.get?_eq faithful sameName, sameValue, inductionHypothesis]

/--
Whether two documents are equal does not depend on how their keys are named.
-/
theorem same_eq
    {others othersToo : Document}
    (othersRenamed : others.Renamed names othersToo) :
    (Json.object left).same (.object others) =
      (Json.object right).same (.object othersToo) := by
  rw [Json.same, Json.same, renamed.length_eq, othersRenamed.length_eq,
    renamed.sameMembers_eq faithful othersRenamed]

end Document.Renamed

end PolyQuery
