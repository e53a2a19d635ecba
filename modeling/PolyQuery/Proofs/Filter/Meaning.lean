import PolyQuery.Document.Compile
import PolyQuery.Proofs.Computation.Except
import PolyQuery.Proofs.Entries

namespace PolyQuery

open Failing

/-!
# What a query asks of a document

The meaning of conditions, without a backend. An operator compares the value
at a field with its operand, the operands of the identifier field in their
stored form. A query admits a document if all its conditions hold of it, and
one alternative of every group that offers any.
-/

namespace Operator

/-- An operator is read back from its tag. -/
theorem ofTag_tag
    (operator : Operator) :
    ofTag operator.tag = .ok operator := by
  cases operator <;> rfl

/--
Whether a value is a string that the regular expression of a pattern with
wildcards matches.
-/
def wildcardsHold
    (options : Regex.Options)
    (pattern : String)
    (actual : Option Json) :
    Bool :=
  match actual,
    Regex.Pattern.ofText? options (DocumentCompiler.likeToRegex pattern) with
  | some (.string subject), some expression => expression.matchesIn subject
  | _, _ => false

/-- Whether a value satisfies an operator with a stored operand. -/
def holds
    (operator : Operator)
    (operand : Json)
    (actual : Option Json) :
    Bool :=
  match operator, operand with
  | .equal, operand => Matching.equals actual operand
  | .notEqual, operand => !Matching.equals actual operand
  | .greater, operand =>
      Matching.ordered actual operand fun order => order = .gt
  | .atLeast, operand =>
      Matching.ordered actual operand fun order => order ≠ .lt
  | .less, operand => Matching.ordered actual operand fun order => order = .lt
  | .atMost, operand => Matching.ordered actual operand fun order => order ≠ .gt
  | .oneOf, .array items => items.any (Matching.equals actual)
  | .noneOf, .array items => !items.any (Matching.equals actual)
  | .like, .string pattern => wildcardsHold {} pattern actual
  | .likeIgnoringCase, .string pattern =>
      wildcardsHold { ignoringCase := true } pattern actual
  | .between, .array [low, high] =>
      Matching.ordered actual low (fun order => order ≠ .lt) &&
        Matching.ordered actual high (fun order => order ≠ .gt)
  | _, _ => false

/--
An operand as it is stored under a key: a list item by item, a pattern as it is.
-/
def storedOperand
    (codec : IdentifierCodec)
    (key : String)
    (operator : Operator)
    (operand : Json) :
    Except QueryError Json :=
  match operator, operand with
  | .like, pattern => .ok pattern
  | .likeIgnoringCase, pattern => .ok pattern
  | .oneOf, .array items =>
      (items.mapM (DocumentCompiler.storedValue codec key)).map .array
  | .noneOf, .array items =>
      (items.mapM (DocumentCompiler.storedValue codec key)).map .array
  | .between, .array items =>
      (items.mapM (DocumentCompiler.storedValue codec key)).map .array
  | _, value => DocumentCompiler.storedValue codec key value

/-- An operator with a caller's operand holds at a key of a document. -/
def HoldsAt
    (codec : IdentifierCodec)
    (document : Document)
    (key : String)
    (operator : Operator)
    (operand : Json) :
    Prop :=
  ∃ stored,
    operator.storedOperand codec key operand = .ok stored ∧
      operator.holds stored (document.lookup? key) = true

/--
With the stored operand at hand, an operator holds at a key if it
holds of the value there.
-/
theorem holdsAt_iff
    {codec : IdentifierCodec}
    {key : String}
    {operator : Operator}
    {operand stored : Json}
    (encoded : operator.storedOperand codec key operand = .ok stored)
    (document : Document) :
    operator.HoldsAt codec document key operand ↔
      operator.holds stored (document.lookup? key) = true := by
  simp [HoldsAt, encoded]

end Operator

namespace Condition

/-- A condition holds at a key of a document. -/
def HoldsAt
    (codec : IdentifierCodec)
    (document : Document)
    (key : String)
    (condition : Condition) :
    Prop :=
  ∃ operator,
    condition.operator = .ok operator ∧
      operator.HoldsAt codec document key condition.operand

/--
A condition holds at a key exactly if the operator that its tag names does.
-/
theorem holdsAt_iff
    {codec : IdentifierCodec}
    {key : String}
    {condition : Condition}
    {operator : Operator}
    (named : condition.operator = .ok operator)
    (document : Document) :
    condition.HoldsAt codec document key ↔
      operator.HoldsAt codec document key condition.operand := by
  simp [HoldsAt, named]

/--
An operator with an operand is an alternative that one of
some conditions offers.
-/
def Offered
    (conditions : List Condition)
    (disjunct : Operator × Json) :
    Prop :=
  ∃ condition disjuncts,
    condition ∈ conditions ∧
      condition.disjuncts = .ok disjuncts ∧
        disjunct ∈ disjuncts

/--
Lowering every alternative of some conditions gives a result for
each that they offer.
-/
theorem offered_iff_lowered
    {α : Type}
    {lower : Operator × Json → Except QueryError α}
    {conditions : List Condition}
    {results : List (List α)}
    (traversed :
      (conditions.mapM fun condition => do
        let disjuncts ← condition.disjuncts
        disjuncts.mapM lower) = .ok results) :
    (∀ result ∈ results.flatten, ∃ disjunct,
      Offered conditions disjunct ∧ lower disjunct = .ok result) ∧
      ∀ disjunct, Offered conditions disjunct → ∃ result ∈ results.flatten,
        lower disjunct = .ok result := by
  constructor
  · intro result member
    obtain ⟨ofCondition, listMember, inList⟩ := List.mem_flatten.mp member
    obtain ⟨condition, conditionMember, computed⟩ :=
      exists_item_of_mem_mapM traversed listMember
    obtain ⟨disjuncts, parted, lowered⟩ := bind_eq_ok.mp computed
    obtain ⟨disjunct, disjunctMember, disjunctLowered⟩ :=
      exists_item_of_mem_mapM lowered inList
    exact ⟨disjunct,
      ⟨condition, disjuncts, conditionMember, parted, disjunctMember⟩,
      disjunctLowered⟩
  · rintro disjunct
      ⟨condition, disjuncts, conditionMember, parted, disjunctMember⟩
    obtain ⟨ofCondition, listMember, computed⟩ :=
      exists_result_of_mem_mapM traversed conditionMember
    obtain ⟨others, partedAgain, lowered⟩ := bind_eq_ok.mp computed
    cases parted.symm.trans partedAgain
    obtain ⟨result, resultMember, disjunctLowered⟩ :=
      exists_result_of_mem_mapM lowered disjunctMember
    exact ⟨result, List.mem_flatten.mpr ⟨ofCondition, listMember, resultMember⟩,
      disjunctLowered⟩

end Condition

/--
A non-empty object whose names are all marked, which reads as a
document of operators.
-/
def Json.isMarkedObject : Json → Bool
  | .object members =>
      !members.isEmpty && members.all fun member => Operator.isMarked member.1
  | _ => false

namespace Query

/--
The fields that a query asks something of, by its filter or by alternatives.
-/
def constrainedFields
    (query : Query) :
    List String :=
  Entries.keys query.filter ++ Entries.keys query.alternatives

theorem mem_constrainedFields_of_filter
    {query : Query}
    {entry : String × FieldFilter}
    (member : entry ∈ query.filter) :
    entry.1 ∈ query.constrainedFields :=
  List.mem_append_left _ (Entries.mem_keys_of_mem member)

theorem mem_constrainedFields_of_alternatives
    {query : Query}
    {entry : String × List Condition}
    (member : entry ∈ query.alternatives) :
    entry.1 ∈ query.constrainedFields :=
  List.mem_append_right _ (Entries.mem_keys_of_mem member)

/-- No value that a field is asked to equal reads as a document of operators. -/
def PlainEqualities
    (query : Query) :
    Prop :=
  ∀ entry ∈ query.filter, ∀ value,
    entry.2 = .equals value → value.isMarkedObject = false

/--
Every constrained field is one of the schema, stored under a path that is not
the identifier's.
-/
def OnOrdinaryFields
    (query : Query) :
    Prop :=
  ∀ field ∈ query.constrainedFields,
    (query.schema.field? field).isSome = true ∧
      DocumentCompiler.fieldKey query.schema field ≠ idKey ∧
        Operator.isMarked (DocumentCompiler.fieldKey query.schema field) = false

/-- Every condition of the filter holds of a document. -/
def FilterHolds
    (codec : IdentifierCodec)
    (query : Query)
    (document : Document) :
    Prop :=
  ∀ entry ∈ query.filter,
    ∀ condition ∈ entry.2.toConditions,
      condition.HoldsAt codec document
        (DocumentCompiler.fieldKey query.schema entry.1)

/--
Of every group that offers an alternative, one alternative holds of a document.
-/
def AlternativesHold
    (codec : IdentifierCodec)
    (query : Query)
    (document : Document) :
    Prop :=
  ∀ entry ∈ query.alternatives,
    (∃ disjunct, Condition.Offered entry.2 disjunct) →
      ∃ disjunct,
        Condition.Offered entry.2 disjunct ∧
          disjunct.1.HoldsAt codec document
            (DocumentCompiler.fieldKey query.schema entry.1) disjunct.2

/-- A query admits a document: all that it asks holds. -/
def Admits
    (codec : IdentifierCodec)
    (query : Query)
    (document : Document) :
    Prop :=
  query.FilterHolds codec document ∧ query.AlternativesHold codec document

end Query

end PolyQuery
