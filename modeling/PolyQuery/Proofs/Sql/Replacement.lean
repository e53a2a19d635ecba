import PolyQuery.Proofs.AlikeEntries
import PolyQuery.Proofs.Sql.Layout

namespace PolyQuery

/-!
# Replaced operands

Scalars may be exchanged for others: null stays null, a text becomes a text, and
a truth value or a number becomes one of either. Two expressions that are equal
up to such an exchange are rendered to the same pieces but for the values in
their slots.
-/

/-- A truth value or a number. -/
def Json.isFigure : Json → Bool
  | .bool _ => true
  | .number _ => true
  | _ => false

/-- A value with some of its scalars exchanged for others of their kind. -/
inductive Json.Replaced
    (exchanged : Json → Json → Prop) :
    Json →
    Json →
    Prop where
  | null : Replaced exchanged .null .null
  | text
      {left right : String}
      (given : exchanged (.string left) (.string right)) :
      Replaced exchanged (.string left) (.string right)
  | figure
      {left right : Json}
      (leftFigure : left.isFigure = true)
      (rightFigure : right.isFigure = true)
      (given : exchanged left right) :
      Replaced exchanged left right
  | list
      {left right : List Json}
      (items : List.Forall₂ (Replaced exchanged) left right) :
      Replaced exchanged (.array left) (.array right)
  | object
      {left right : List (String × Json)}
      (names : Entries.keys left = Entries.keys right)
      (members :
        List.Forall₂ (Replaced exchanged) (Entries.values left)
          (Entries.values right)) :
      Replaced exchanged (.object left) (.object right)

/-- A row with exchanged scalars under the same names. -/
abbrev Document.Replaced
    (exchanged : Json → Json → Prop) :
    Document →
    Document →
    Prop :=
  Entries.Alike Eq (Json.Replaced exchanged)

namespace Json.Replaced

variable
  {exchanged : Json → Json → Prop}
  {left right : Json}

theorem isNull_eq
    (replaced : Replaced exchanged left right) :
    left.isNull = right.isNull := by
  cases replaced with
  | figure leftFigure rightFigure _ =>
      cases left <;> cases leftFigure <;> cases right <;> cases rightFigure <;>
        rfl
  | _ =>
      rfl

theorem array?_replaced
    (replaced : Replaced exchanged left right) :
    Option.Rel (List.Forall₂ (Replaced exchanged)) left.array?
      right.array? := by
  cases replaced with
  | list items =>
      exact .some items
  | figure leftFigure rightFigure _ =>
      cases left <;> cases leftFigure <;> cases right <;> cases rightFigure <;>
        exact .none
  | _ =>
      exact .none

theorem isArray_eq
    (replaced : Replaced exchanged left right) :
    left.isArray = right.isArray := by
  unfold isArray
  have sameKind := replaced.array?_replaced
  generalize left.array? = items at sameKind ⊢
  generalize right.array? = others at sameKind ⊢
  cases sameKind <;> rfl

theorem isSome_string?_eq
    (replaced : Replaced exchanged left right) :
    left.string?.isSome = right.string?.isSome := by
  cases replaced with
  | figure leftFigure rightFigure _ =>
      cases left <;> cases leftFigure <;> cases right <;> cases rightFigure <;>
        rfl
  | _ =>
      rfl

end Json.Replaced

namespace Sql

/-- A slot with a replaced value. -/
inductive Slot.Replaced
    (exchanged : Json → Json → Prop) :
    Slot →
    Slot →
    Prop where
  | fixed
      {left right : Json}
      (value : left.Replaced exchanged right) :
      Replaced exchanged (.fixed left) (.fixed right)
  | column
      (index : Nat) :
      Replaced exchanged (.column index) (.column index)
  | rowKey : Replaced exchanged .rowKey .rowKey

/-- A piece, or an operand of the same name with a replaced value. -/
inductive Piece.Replaced
    (exchanged : Json → Json → Prop) :
    Piece →
    Piece →
    Prop where
  | word
      (sqlWord : Word) :
      Replaced exchanged (.word sqlWord) (.word sqlWord)
  | identifier
      (name : String) :
      Replaced exchanged (.identifier name) (.identifier name)
  | raw
      (sql : String) :
      Replaced exchanged (.raw sql) (.raw sql)
  | operand
      (naming : Naming)
      {left right : Slot}
      (slot : left.Replaced exchanged right) :
      Replaced exchanged (.operand naming left) (.operand naming right)

/-- Pieces with replaced values. -/
abbrev PiecesReplaced
    (exchanged : Json → Json → Prop) :
    List Piece →
    List Piece →
    Prop :=
  List.Forall₂ (Piece.Replaced exchanged)

section Pieces

variable
  {exchanged : Json → Json → Prop}
  {left right : List Piece}
  {lefts rights : List (List Piece)}

theorem piecesReplaced_word
    (sqlWord : Word) :
    PiecesReplaced exchanged [.word sqlWord] [.word sqlWord] :=
  .cons (.word sqlWord) .nil

theorem piecesReplaced_separated
    (sqlWord : Word)
    (parts : List.Forall₂ (PiecesReplaced exchanged) lefts rights) :
    PiecesReplaced exchanged (separated sqlWord lefts)
      (separated sqlWord rights) := by
  induction parts with
  | nil =>
      exact .nil
  | cons part rest inductionHypothesis =>
      cases rest with
      | nil =>
          rw [separated_singleton, separated_singleton]
          exact part
      | cons next others =>
          rw [separated_cons_cons, separated_cons_cons]
          exact
            List.rel_append (List.rel_append part (piecesReplaced_word sqlWord))
              inductionHypothesis

theorem piecesReplaced_enclosed
    (pieces : PiecesReplaced exchanged left right) :
    PiecesReplaced exchanged (enclosed left) (enclosed right) :=
  List.rel_append (List.rel_append (piecesReplaced_word .openParen) pieces)
    (piecesReplaced_word .closeParen)

theorem piecesReplaced_enclosedIf
    (needed : Bool)
    (pieces : PiecesReplaced exchanged left right) :
    PiecesReplaced exchanged (enclosedIf needed left)
      (enclosedIf needed right) := by
  cases needed with
  | false =>
      exact pieces
  | true =>
      exact piecesReplaced_enclosed pieces

theorem piecesReplaced_clausePieces
    (sqlWord : Word)
    (parts : List.Forall₂ (PiecesReplaced exchanged) lefts rights) :
    PiecesReplaced exchanged (clausePieces sqlWord lefts)
      (clausePieces sqlWord rights) := by
  cases parts with
  | nil =>
      exact .nil
  | cons part rest =>
      exact
        List.rel_append (piecesReplaced_word sqlWord)
          (piecesReplaced_separated .comma (.cons part rest))

end Pieces

/--
Expressions that are rendered alike: to pieces with replaced values in every
dialect, and with parentheses in the same places.
-/
structure Expr.Replaced
    (exchanged : Json → Json → Prop)
    (left right : Expr) :
    Prop where
  pieces :
    ∀ dialect,
      PiecesReplaced exchanged (exprPieces dialect left)
        (exprPieces dialect right)
  sameConjunction : left.isConjunction = right.isConjunction
  sameDisjunction : left.isDisjunction = right.isDisjunction

namespace Expr.Replaced

variable {exchanged : Json → Json → Prop}

theorem column
    (table : Option String)
    (name : String) :
    Replaced exchanged (.column table name) (.column table name) := by
  refine ⟨fun dialect => ?_, rfl, rfl⟩
  cases table with
  | none =>
      exact .cons (.identifier name) .nil
  | some tableName =>
      exact .cons (.identifier tableName)
        (.cons (.word .dot) (.cons (.identifier name) .nil))

theorem raw
    (sql : String) :
    Replaced exchanged (.raw sql) (.raw sql) :=
  ⟨fun _ => .cons (.raw sql) .nil, rfl, rfl⟩

theorem countAll :
    Replaced exchanged .countAll .countAll :=
  ⟨fun _ => piecesReplaced_word .countAll, rfl, rfl⟩

theorem constant
    (value : Bool) :
    Replaced exchanged (.constant value) (.constant value) :=
  ⟨fun _ => piecesReplaced_word _, rfl, rfl⟩

theorem operand
    (base : String)
    {left right : Json}
    (value : left.Replaced exchanged right) :
    Replaced exchanged (.operand base left) (.operand base right) :=
  ⟨fun _ => .cons (.operand _ (.fixed value)) .nil, rfl, rfl⟩

variable
  {subject subjectToo left right low high lowToo highToo : Expr}
  {lefts rights : List Expr}
  (subjects : Replaced exchanged subject subjectToo)

include subjects

theorem comparison
    (sign : Comparison)
    (operands : Replaced exchanged left right) :
    Replaced exchanged (.comparison subject sign left)
      (.comparison subjectToo sign right) := by
  refine ⟨fun dialect => ?_, rfl, rfl⟩
  exact
    List.rel_append
      (List.rel_append (subjects.pieces dialect) (piecesReplaced_word _))
      (operands.pieces dialect)

theorem isNull
    (negated : Bool) :
    Replaced exchanged (.isNull subject negated) (.isNull subjectToo negated) :=
  ⟨fun dialect =>
    List.rel_append (subjects.pieces dialect) (piecesReplaced_word _), rfl, rfl⟩

omit subjects in
theorem itemPieces
    (dialect : Dialect)
    (items : List.Forall₂ (Replaced exchanged) lefts rights) :
    List.Forall₂ (PiecesReplaced exchanged) (itemPieces dialect lefts)
      (itemPieces dialect rights) := by
  rw [itemPieces_eq_map, itemPieces_eq_map]
  exact List.rel_map (fun _ _ item => item.pieces dialect) items

theorem inList
    (negated : Bool)
    (items : List.Forall₂ (Replaced exchanged) lefts rights) :
    Replaced exchanged (.inList subject lefts negated)
      (.inList subjectToo rights negated) := by
  refine ⟨fun dialect => ?_, rfl, rfl⟩
  rw [exprPieces, exprPieces]
  apply List.rel_append
  · exact List.rel_append (subjects.pieces dialect) (piecesReplaced_word _)
  · exact piecesReplaced_enclosed
      (piecesReplaced_separated _ (itemPieces dialect items))

theorem between
    (lows : Replaced exchanged low lowToo)
    (highs : Replaced exchanged high highToo) :
    Replaced exchanged (.between subject low high)
      (.between subjectToo lowToo highToo) := by
  refine ⟨fun dialect => ?_, rfl, rfl⟩
  have lowBound :=
    List.rel_append
      (List.rel_append (subjects.pieces dialect) (piecesReplaced_word .between))
      (lows.pieces dialect)
  exact
    List.rel_append (List.rel_append lowBound (piecesReplaced_word .both))
      (highs.pieces dialect)

theorem like
    (ignoringCase : Bool)
    (patterns : Replaced exchanged left right) :
    Replaced exchanged (.like subject left ignoringCase)
      (.like subjectToo right ignoringCase) := by
  refine ⟨fun dialect => ?_, rfl, rfl⟩
  have plainly : ∀ sqlWord,
      PiecesReplaced exchanged
        (exprPieces dialect subject ++ [.word sqlWord] ++
          exprPieces dialect left)
        (exprPieces dialect subjectToo ++ [.word sqlWord] ++
          exprPieces dialect right) :=
    fun sqlWord =>
      List.rel_append
        (List.rel_append (subjects.pieces dialect)
          (piecesReplaced_word sqlWord)) (patterns.pieces dialect)
  rw [exprPieces, exprPieces]
  split
  · exact plainly .like
  · split
    · exact plainly .caseBlindLike
    · have loweredSubject :=
        List.rel_append (piecesReplaced_word .lowered)
          (piecesReplaced_enclosed (subjects.pieces dialect))
      have compared :=
        List.rel_append
          (List.rel_append loweredSubject (piecesReplaced_word .like))
          (piecesReplaced_word .lowered)
      exact List.rel_append compared
        (piecesReplaced_enclosed (patterns.pieces dialect))

omit subjects

theorem conjunction
    (terms : List.Forall₂ (Replaced exchanged) lefts rights) :
    Replaced exchanged (.conjunction lefts) (.conjunction rights) := by
  refine ⟨fun dialect => ?_, rfl, rfl⟩
  rw [exprPieces, exprPieces, conjunctPieces_eq_map, conjunctPieces_eq_map]
  apply piecesReplaced_separated
  refine List.rel_map (fun term other replaced => ?_) terms
  rw [replaced.sameDisjunction]
  exact piecesReplaced_enclosedIf _ (replaced.pieces dialect)

theorem disjunction
    (terms : List.Forall₂ (Replaced exchanged) lefts rights) :
    Replaced exchanged (.disjunction lefts) (.disjunction rights) := by
  refine ⟨fun dialect => ?_, rfl, rfl⟩
  rw [exprPieces, exprPieces, disjunctPieces_eq_map, disjunctPieces_eq_map]
  apply piecesReplaced_separated
  refine List.rel_map (fun term other replaced => ?_) terms
  rw [replaced.sameConjunction]
  exact piecesReplaced_enclosedIf _ (replaced.pieces dialect)

theorem allOf?
    (terms : List.Forall₂ (Replaced exchanged) lefts rights) :
    Option.Rel (Replaced exchanged) (Expr.allOf? lefts)
      (Expr.allOf? rights) := by
  cases terms with
  | nil =>
      exact .none
  | cons first rest =>
      cases rest with
      | nil =>
          exact .some first
      | cons second others =>
          exact .some (conjunction (.cons first (.cons second others)))

theorem anyOf?
    (terms : List.Forall₂ (Replaced exchanged) lefts rights) :
    Option.Rel (Replaced exchanged) (Expr.anyOf? lefts)
      (Expr.anyOf? rights) := by
  cases terms with
  | nil =>
      exact .none
  | cons first rest =>
      cases rest with
      | nil =>
          exact .some first
      | cons second others =>
          exact .some (disjunction (.cons first (.cons second others)))

end Expr.Replaced

end Sql

end PolyQuery
