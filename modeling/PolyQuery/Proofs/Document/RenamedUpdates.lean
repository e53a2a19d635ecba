import PolyQuery.Proofs.Document.RenamedFilters

namespace PolyQuery

open Failing

/-!
# Renamed updates

An update document is renamed by renaming the keys under its operators. It does
to a renamed document what it did to the document: the documents afterwards are
renamed, also where a change fails on the way, and the failures are of one kind.
Only `$rename`, which names a key by a value, is left out.
-/

/-- What kind of failure a cause stands for, apart from what failed. -/
inductive FailureKind where
  | unknownField
  | invalidOperand
  | invalidFilterOperator
  | invalidIdentifier
  | missingFilter
  | missingModel
  | unsupportedClause
  | duplicateKey
  deriving DecidableEq

/-- The kind of a cause. -/
def QueryError.kind : QueryError → FailureKind
  | .unknownField _ _ => .unknownField
  | .invalidOperand _ _ _ => .invalidOperand
  | .invalidFilterOperator _ => .invalidFilterOperator
  | .invalidIdentifier _ => .invalidIdentifier
  | .missingFilter _ _ => .missingFilter
  | .missingModel => .missingModel
  | .unsupportedClause _ => .unsupportedClause
  | .duplicateKey _ => .duplicateKey

/-- Causes of one kind. -/
def SameKind
    (cause other : QueryError) :
    Prop :=
  cause.kind = other.kind

theorem sameKind_refl
    (cause : QueryError) :
    SameKind cause cause :=
  rfl

namespace Update

variable
  {names : String → String → Prop}
  (faithful : FaithfulRenaming names)
  {document documentToo : Document}
  (renamed : document.Renamed names documentToo)
  {path pathToo : String}
  (samePath : names path pathToo)

include faithful renamed samePath

theorem changeList_alike
    (operator : String)
    (change : List Json → List Json) :
    Alike SameKind (Document.Renamed names)
      (changeList document path operator change)
      (changeList documentToo pathToo operator change) := by
  have listed :
      Alike SameKind Eq (listAt document path operator)
        (listAt documentToo pathToo operator) := by
    unfold listAt
    rw [renamed.lookup?_eq faithful samePath]
    split
    · exact .ok rfl
    · exact .ok rfl
    · exact .ok rfl
    · exact .error rfl
  refine listed.map fun items itemsToo sameItems => ?_
  rw [sameItems]
  exact renamed.setPath faithful samePath _

theorem changeListIfPresent_alike
    (operator : String)
    (change : List Json → List Json) :
    Alike SameKind (Document.Renamed names)
      (changeListIfPresent document path operator change)
      (changeListIfPresent documentToo pathToo operator change) := by
  unfold changeListIfPresent
  rw [renamed.lookup?_eq faithful samePath]
  split
  · exact changeList_alike faithful renamed samePath operator change
  · exact .ok renamed

theorem replaceIf_renamed
    (operand : Json)
    (wanted : Ordering) :
    (replaceIf document path operand wanted).Renamed names
      (replaceIf documentToo pathToo operand wanted) := by
  unfold replaceIf
  rw [renamed.lookup?_eq faithful samePath]
  cases documentToo.lookup? pathToo with
  | none =>
      exact renamed.setPath faithful samePath operand
  | some present =>
      dsimp only
      split
      · exact renamed.setPath faithful samePath operand
      · exact renamed

omit faithful renamed samePath in
theorem combine_alike
    (arithmetic : Arithmetic)
    (operator : String)
    (present operand : Json) :
    Alike SameKind Eq (combine arithmetic path operator present operand)
      (combine arithmetic pathToo operator present operand) := by
  unfold combine
  split
  · split
    · exact .ok rfl
    · split
      · split
        · exact .ok rfl
        · exact .error rfl
      · exact .error rfl
  · exact .error rfl

/-- A change does to a renamed document what it did to the document. -/
theorem change_alike
    (inserting : Bool)
    {operator : String}
    (notRename : operator ≠ "$rename")
    (operand : Json) :
    Alike SameKind (Document.Renamed names)
      (change inserting operator path operand document)
      (change inserting operator pathToo operand documentToo) := by
  have written := renamed.setPath faithful samePath
  unfold change
  dsimp only
  split
  case h_1 =>
    exact .ok (written operand)
  case h_2 =>
    cases inserting with
    | false =>
        exact .ok renamed
    | true =>
        exact .ok (written operand)
  case h_3 =>
    have removed := renamed.removePath? faithful samePath
    generalize document.removePath? path = found at removed ⊢
    generalize documentToo.removePath? pathToo = foundToo at removed ⊢
    cases removed with
    | none =>
        exact .ok renamed
    | some both =>
        exact .ok both.2
  case h_4 | h_5 =>
    rw [renamed.lookup?_eq faithful samePath]
    refine (combine_alike _ _ _ operand).map fun result resultToo same => ?_
    rw [same]
    exact written resultToo
  case h_6 | h_7 =>
    exact .ok (replaceIf_renamed faithful renamed samePath operand _)
  case h_8 =>
    exact absurd rfl notRename
  case h_9 | h_10 =>
    exact changeList_alike faithful renamed samePath _ _
  case h_11 | h_13 =>
    exact changeListIfPresent_alike faithful renamed samePath _ _
  case h_12 =>
    split
    · exact changeListIfPresent_alike faithful renamed samePath _ _
    · exact .error rfl
  case h_14 =>
    exact .error rfl

end Update

/-- The fields of an update operator with renamed keys. -/
inductive FieldsRenamed
    (names : String → String → Prop) :
    Json →
    Json →
    Prop where
  | mk
      {fields fieldsToo : Document}
      (renamed : fields.Renamed names fieldsToo) :
      FieldsRenamed names (.object fields) (.object fieldsToo)

/-- An update operator other than the one that names a key by a value. -/
def SameOperator
    (operator other : String) :
    Prop :=
  operator = other ∧ operator ≠ "$rename"

/-- Update documents with renamed keys under the same operators. -/
abbrev Document.UpdateRenamed
    (names : String → String → Prop) :
    Document →
    Document →
    Prop :=
  Entries.Alike SameOperator (FieldsRenamed names)

/-- Renamed documents with one supply. -/
abbrev ChangingAlike
    (names : String → String → Prop) :
    Document × Supply →
    Document × Supply →
    Prop :=
  Stateful.Beside (Document.Renamed names)

namespace Update

open Stateful

variable
  {names : String → String → Prop}
  (faithful : FaithfulRenaming names)
  (inserting : Bool)

include faithful

theorem changeAt_runsAlike
    {operator : String}
    (notRename : operator ≠ "$rename")
    {path pathToo : String}
    (samePath : names path pathToo)
    (operand : Json) :
    RunsAlike (ChangingAlike names) SameKind Eq
      (changeAt inserting operator path operand)
      (changeAt inserting operator pathToo operand) := by
  refine runsAlike_get_bind fun document documentToo supply renamed => ?_
  dsimp only
  split
  · exact runsAlike_set ⟨renamed.setPath faithful samePath _, rfl⟩
  · have changed :=
      change_alike faithful renamed samePath inserting notRename operand
    generalize change inserting operator path operand document =
        result at changed ⊢
    generalize change inserting operator pathToo operand documentToo =
        resultToo at changed ⊢
    cases changed with
    | error sameKind =>
        exact runsAlike_throw sameKind
    | ok changedRenamed =>
        exact runsAlike_set ⟨changedRenamed, rfl⟩

theorem applyPaths_runsAlike
    {operator : String}
    (notRename : operator ≠ "$rename")
    {paths pathsToo : Document}
    (renamed : paths.Renamed names pathsToo) :
    RunsAlike (ChangingAlike names) SameKind Eq
      (applyPaths inserting operator paths)
      (applyPaths inserting operator pathsToo) := by
  induction renamed with
  | nil =>
      exact runsAlike_pure rfl
  | @cons entry entryToo _ _ headRenamed _ inductionHypothesis =>
      obtain ⟨path, operand⟩ := entry
      obtain ⟨pathToo, operandToo⟩ := entryToo
      obtain ⟨samePath, sameOperand⟩ := headRenamed
      dsimp only at samePath sameOperand
      subst sameOperand
      refine (changeAt_runsAlike faithful inserting notRename samePath
        operand).bind ?_
      exact fun _ _ _ => inductionHypothesis

/--
A renamed update does to a renamed document what the update did to the document.
-/
theorem apply_runsAlike
    {update updateToo : Document}
    (renamed : update.UpdateRenamed names updateToo) :
    RunsAlike (ChangingAlike names) SameKind Eq (apply inserting update)
      (apply inserting updateToo) := by
  induction renamed with
  | nil =>
      exact runsAlike_pure rfl
  | @cons entry entryToo _ _ headRenamed _ inductionHypothesis =>
      obtain ⟨operator, fields⟩ := entry
      obtain ⟨operatorToo, fieldsToo⟩ := entryToo
      obtain ⟨⟨sameOperator, notRename⟩, fieldsRenamed⟩ := headRenamed
      dsimp only at sameOperator notRename fieldsRenamed
      subst sameOperator
      cases fieldsRenamed with
      | mk pathsRenamed =>
          refine (applyPaths_runsAlike faithful inserting notRename
            pathsRenamed).bind ?_
          exact fun _ _ _ => inductionHypothesis

end Update

end PolyQuery
