import PolyQuery.Proofs.Computation.Except
import PolyQuery.Proofs.Entries
import PolyQuery.Proofs.Filter.Meaning
import PolyQuery.Sql.Compile

namespace PolyQuery.Sql

open Failing

/-!
# Restrictions read on documents

The restriction of a statement can be read on a document: a column stands for
the value at the path of its name, and predicates compare values as the
document store does. Read this way, the restriction that a query is compiled to
holds of exactly the documents that the query admits, provided that its fields
are those of the schema and none of them is the identifier.
-/

namespace Expr

/-- The value that an expression stands for in a document. -/
def valueIn?
    (document : Document) :
    Expr →
    Option Json
  | .column _ name => document.lookup? name
  | .operand _ value => some value
  | _ => none

/--
The value that an expression is as an operand, null if it stands for none.
-/
def operandIn
    (document : Document)
    (expr : Expr) :
    Json :=
  (expr.valueIn? document).getD .null

end Expr

/-- Whether a value compares with an operand as a sign says. -/
def Comparison.holds
    (sign : Comparison)
    (actual : Option Json)
    (operand : Json) :
    Bool :=
  match sign with
  | .equal => Matching.equals actual operand
  | .notEqual => !Matching.equals actual operand
  | .greater => Matching.ordered actual operand fun order => order = .gt
  | .atLeast => Matching.ordered actual operand fun order => order ≠ .lt
  | .less => Matching.ordered actual operand fun order => order = .lt
  | .atMost => Matching.ordered actual operand fun order => order ≠ .gt

namespace Expr

mutual

/-- Whether an expression holds of a document as a predicate. -/
def holdsOf
    (document : Document) :
    Expr →
    Bool
  | .comparison left sign right =>
      sign.holds (left.valueIn? document) (right.operandIn document)
  | .isNull subject negated =>
      Matching.equals (subject.valueIn? document) .null != negated
  | .inList subject items negated =>
      (items.any fun item =>
        Matching.equals (subject.valueIn? document)
          (item.operandIn document)) != negated
  | .between subject low high =>
      Comparison.atLeast.holds (subject.valueIn? document)
          (low.operandIn document) &&
        Comparison.atMost.holds (subject.valueIn? document)
          (high.operandIn document)
  | .like subject pattern ignoringCase =>
      match pattern.operandIn document with
      | .string text =>
          Operator.wildcardsHold { ignoringCase := ignoringCase } text
            (subject.valueIn? document)
      | _ => false
  | .conjunction terms => allHoldOf document terms
  | .disjunction terms => anyHoldsOf document terms
  | .constant value => value
  | _ => false

/-- Whether every term holds of a document. -/
def allHoldOf
    (document : Document) :
    List Expr →
    Bool
  | [] => true
  | term :: rest => holdsOf document term && allHoldOf document rest

/-- Whether some term holds of a document. -/
def anyHoldsOf
    (document : Document) :
    List Expr →
    Bool
  | [] => false
  | term :: rest => holdsOf document term || anyHoldsOf document rest

end

theorem allHoldOf_iff
    {document : Document}
    {terms : List Expr} :
    allHoldOf document terms = true ↔
      ∀ term ∈ terms, holdsOf document term = true := by
  induction terms with
  | nil =>
      simp [allHoldOf]
  | cons term rest inductionHypothesis =>
      simp [allHoldOf, inductionHypothesis]

theorem anyHoldsOf_iff
    {document : Document}
    {terms : List Expr} :
    anyHoldsOf document terms = true ↔
      ∃ term ∈ terms, holdsOf document term = true := by
  induction terms with
  | nil =>
      simp [anyHoldsOf]
  | cons term rest inductionHypothesis =>
      simp [anyHoldsOf, inductionHypothesis]

end Expr

/--
Whether a restriction lets a document pass, as no restriction does with all.
-/
def passes
    (restriction : Option Expr)
    (document : Document) :
    Bool :=
  match restriction with
  | some expr => expr.holdsOf document
  | none => true

/--
Terms joined to a restriction let those documents pass of
which all of them hold.
-/
theorem passes_allOf?
    (document : Document)
    (terms : List Expr) :
    passes (Expr.allOf? terms) document = true ↔
      ∀ term ∈ terms, term.holdsOf document = true := by
  match terms with
  | [] =>
      simp [Expr.allOf?, passes]
  | [_] =>
      simp [Expr.allOf?, passes]
  | _ :: _ :: _ =>
      exact Expr.allHoldOf_iff

/--
Alternatives joined to a restriction let those documents pass of
which one of them holds.
-/
theorem passes_anyOf?
    (document : Document)
    (terms : List Expr) :
    passes (Expr.anyOf? terms) document = true ↔
      (terms ≠ [] → ∃ term ∈ terms, term.holdsOf document = true) := by
  match terms with
  | [] =>
      simp [Expr.anyOf?, passes]
  | [_] =>
      simp [Expr.anyOf?, passes]
  | _ :: _ :: _ =>
      simp only [ne_eq, reduceCtorEq, not_false_eq_true, true_implies]
      exact Expr.anyHoldsOf_iff

/-- Equality with null is asked as whether the value is missing. -/
theorem isNull_iff
    {value : Json} :
    value.isNull = true ↔ value = .null := by
  cases value <;> simp [Json.isNull]

/--
A predicate on a column holds exactly if its operator does of the value there.
-/
theorem holdsOf_predicate
    {field base name : String}
    {table : Option String}
    {operator : Operator}
    {operand : Json}
    {expr : Expr}
    (compiled :
      predicate field (.column table name) base operator operand = .ok expr)
    (document : Document) :
    expr.holdsOf document = operator.holds operand (document.lookup? name) := by
  cases operator with
  | equal | notEqual =>
      simp only [predicate] at compiled
      split at compiled
      next isNull =>
        cases compiled
        cases isNull_iff.mp isNull
        simp [Expr.holdsOf, Expr.valueIn?, Operator.holds]
      next =>
        cases compiled
        rfl
  | oneOf | noneOf =>
      cases operand with
      | array items =>
          cases items with
          | nil =>
              cases compiled
              simp [Expr.holdsOf, Operator.holds]
          | cons item rest =>
              cases compiled
              simp [Expr.holdsOf, Expr.valueIn?, Expr.operandIn, Operator.holds,
                Function.comp_def]
      | _ =>
          cases compiled
  | like | likeIgnoringCase =>
      cases operand with
      | string pattern =>
          cases compiled
          rfl
      | _ =>
          cases compiled
  | between =>
      simp only [predicate] at compiled
      split at compiled
      next low high listed =>
        cases compiled
        cases operand with
        | array items =>
            cases listed
            rfl
        | _ =>
            cases listed
      next =>
        cases compiled
  | _ =>
      cases compiled
      rfl

end PolyQuery.Sql
