import Mathlib.Data.List.Perm.Subperm
import Std.Data.String.ToNat
import PolyQuery.Proofs.Entries
import PolyQuery.Proofs.Sql.Tokens

namespace PolyQuery.Sql

/-!
# Names of parameters

Whatever a parameter is to be named after, the name that it gets is one that no
other parameter has, and one that every driver can bind. The search for a free
number succeeds, because numbered names differ and one more of them is tried
than there are names in use.
-/

theorem isBindableName_bindSafe
    (name : String) :
    IsBindableName (bindSafe name) := by
  unfold bindSafe
  split
  next =>
    refine ⟨by decide, fun character member => ?_⟩
    rw [List.mem_singleton.mp member]
    rfl
  next notEmpty =>
    refine ⟨?_, ?_⟩
    · intro isEmpty
      have noCharacters := congrArg String.toList isEmpty
      simp [String.toList_map] at noCharacters
      simp [noCharacters] at notEmpty
    · intro character member
      rw [String.toList_map] at member
      obtain ⟨original, -, isCharacter⟩ := List.mem_map.mp member
      rw [← isCharacter]
      split
      next bindable =>
        exact bindable
      next =>
        rfl

namespace Binder

theorem isBindableName_numberedName
    {base : String}
    (bindable : IsBindableName base)
    (number : Nat) :
    IsBindableName (numberedName base number) := by
  obtain ⟨notEmpty, allBindable⟩ := bindable
  refine ⟨?_, ?_⟩
  · intro isEmpty
    have noCharacters := congrArg String.toList isEmpty
    simp [numberedName] at noCharacters
  · intro character member
    rw [numberedName, String.toList_append, String.toList_append,
      List.mem_append, List.mem_append] at member
    rcases member with (inBase | isUnderscore) | inNumber
    · exact allBindable character inBase
    · rw [List.mem_singleton.mp isUnderscore]
      rfl
    · simp [isBindable, Char.isAlphanum, isDigit_of_mem_toString inNumber]

theorem numberedName_injective
    (base : String) :
    Function.Injective (numberedName base) := by
  intro left right same
  exact Nat.repr_injective ((String.append_right_inj _).mp same)

/-- The first free number is free, or all the numbers tried are taken. -/
theorem firstFree_free_or
    (used : List String)
    (base : String)
    (fuel number : Nat) :
    numberedName base (firstFree used base fuel number) ∉ used ∨
      ∀ tried < fuel, numberedName base (number + tried) ∈ used := by
  induction fuel generalizing number with
  | zero =>
      exact .inr fun _ none => absurd none (Nat.not_lt_zero _)
  | succ fuel inductionHypothesis =>
      unfold firstFree
      split
      next taken =>
        rcases inductionHypothesis (number + 1) with free | allTaken
        · exact .inl free
        · refine .inr fun tried within => ?_
          cases tried with
          | zero =>
              simpa using taken
          | succ before =>
              have later := allTaken before (Nat.lt_of_succ_lt_succ within)
              rwa [Nat.add_assoc, Nat.add_comm 1] at later
      next free =>
        exact .inl (by simpa using free)

/-- No more numbers in a row are taken than there are names in use. -/
theorem length_le_of_taken
    {used : List String}
    {base : String}
    {first length : Nat}
    (taken : ∀ tried < length, numberedName base (first + tried) ∈ used) :
    length ≤ used.length := by
  have distinct :
      ((List.range length).map fun offset =>
        numberedName base (first + offset)).Nodup := by
    refine List.Nodup.map ?_ List.nodup_range
    intro left right same
    exact Nat.add_left_cancel (numberedName_injective base same)
  have areUsed :
      ((List.range length).map fun offset =>
        numberedName base (first + offset)) ⊆ used := by
    intro name member
    obtain ⟨offset, within, isName⟩ := List.mem_map.mp member
    rw [← isName]
    exact taken offset (List.mem_range.mp within)
  simpa using (distinct.subperm areUsed).length_le

/-- One more number than names in use is enough to find a free one. -/
theorem firstFree_free
    (used : List String)
    (base : String)
    (number : Nat) :
    numberedName base (firstFree used base (used.length + 1) number) ∉
      used := by
  rcases firstFree_free_or used base (used.length + 1) number with
      free | allTaken
  · exact free
  · have fewer := length_le_of_taken allTaken
    omega

variable (binder : Binder)

theorem number_free
    (base : String) :
    (binder.number base).1 ∉ binder.used :=
  firstFree_free binder.used base _

/-- A name that is handed out is free, and in use from then on. -/
theorem bind_free
    (naming : Naming) :
    (binder.bind naming).1 ∉ binder.used := by
  cases naming with
  | exact name =>
      unfold bind
      dsimp only
      split
      next =>
        exact binder.number_free (bindSafe name)
      next free =>
        simpa using free
  | numbered base =>
      exact binder.number_free (bindSafe base)

theorem used_bind
    (naming : Naming) :
    (binder.bind naming).2.used = binder.used ++ [(binder.bind naming).1] := by
  cases naming with
  | exact name =>
      unfold bind
      dsimp only
      split <;> rfl
  | numbered base =>
      rfl

theorem isBindableName_bind
    (naming : Naming) :
    IsBindableName (binder.bind naming).1 := by
  cases naming with
  | exact name =>
      have safe := isBindableName_bindSafe name
      unfold bind
      dsimp only
      split
      · exact isBindableName_numberedName safe _
      · exact safe
  | numbered base =>
      exact isBindableName_numberedName (isBindableName_bindSafe base) _

end Binder

/-- The text of a piece, its operand named next by a binder. -/
def Piece.text
    (dialect : Dialect)
    (binder : Binder) :
    Piece →
    String
  | .word sqlWord => sqlWord.text
  | .identifier name => dialect.quote name
  | .raw sql => sql
  | .operand naming _ =>
      dialect.placeholder (binder.bind naming).1 (binder.used.length + 1)

/-- The parameter of a piece, if it has one. -/
def Piece.parameter?
    (binder : Binder) :
    Piece →
    Option (String × Slot)
  | .operand naming slot => some ((binder.bind naming).1, slot)
  | _ => none

/-- The slot of a piece, if it is an operand. -/
def Piece.slot? : Piece → Option Slot
  | .operand _ slot => some slot
  | _ => none

@[simp] theorem Piece.slot?_word
    (sqlWord : Word) :
    (Piece.word sqlWord).slot? = none :=
  rfl

@[simp] theorem Piece.slot?_identifier
    (name : String) :
    (Piece.identifier name).slot? = none :=
  rfl

@[simp] theorem Piece.slot?_raw
    (sql : String) :
    (Piece.raw sql).slot? = none :=
  rfl

@[simp] theorem Piece.slot?_operand
    (naming : Naming)
    (slot : Slot) :
    (Piece.operand naming slot).slot? = some slot :=
  rfl

/-- The names handed out once a piece is bound. -/
def Binder.past
    (binder : Binder) :
    Piece →
    Binder
  | .operand naming _ => (binder.bind naming).2
  | _ => binder

/-- The names handed out once some pieces are bound. -/
def Binder.pastAll
    (binder : Binder)
    (pieces : List Piece) :
    Binder :=
  pieces.foldl past binder

@[simp] theorem Binder.pastAll_nil
    (binder : Binder) :
    binder.pastAll [] = binder :=
  rfl

@[simp] theorem Binder.pastAll_word_cons
    (binder : Binder)
    (sqlWord : Word)
    (rest : List Piece) :
    binder.pastAll (.word sqlWord :: rest) = binder.pastAll rest :=
  rfl

@[simp] theorem Binder.pastAll_append
    (binder : Binder)
    (first second : List Piece) :
    binder.pastAll (first ++ second) = (binder.pastAll first).pastAll second :=
  List.foldl_append

theorem bindPieces_cons
    (dialect : Dialect)
    (binder : Binder)
    (piece : Piece)
    (rest : List Piece) :
    bindPieces dialect binder (piece :: rest) =
      {
        texts :=
          piece.text dialect binder ::
            (bindPieces dialect (binder.past piece) rest).texts
        slots :=
          (piece.parameter? binder).toList ++
            (bindPieces dialect (binder.past piece) rest).slots
      } := by
  cases piece with
  | word sqlWord => rfl
  | identifier name => rfl
  | raw sql => rfl
  | operand naming slot =>
      simp [bindPieces, Piece.text, Piece.parameter?, Binder.past,
        Binder.used_bind]

/-- Pieces are bound one after the other. -/
theorem bindPieces_append
    (dialect : Dialect)
    (binder : Binder)
    (first second : List Piece) :
    bindPieces dialect binder (first ++ second) =
      {
        texts :=
          (bindPieces dialect binder first).texts ++
            (bindPieces dialect (binder.pastAll first) second).texts
        slots :=
          (bindPieces dialect binder first).slots ++
            (bindPieces dialect (binder.pastAll first) second).slots
      } := by
  induction first generalizing binder with
  | nil =>
      rfl
  | cons piece rest inductionHypothesis =>
      rw [List.cons_append, bindPieces_cons, bindPieces_cons,
        inductionHypothesis]
      simp [Binder.pastAll]

section Slots

variable
  (dialect : Dialect)
  (binder : Binder)

/-- The slots are those of the operands, in their order. -/
theorem map_snd_slots
    (pieces : List Piece) :
    (bindPieces dialect binder pieces).slots.map Prod.snd =
      pieces.filterMap Piece.slot? := by
  induction pieces generalizing binder with
  | nil =>
      rfl
  | cons piece rest inductionHypothesis =>
      rw [bindPieces_cons, List.map_append, inductionHypothesis]
      cases piece <;> rfl

/-- Binding pieces adds the names of their parameters to those in use. -/
theorem used_pastAll
    (pieces : List Piece) :
    (binder.pastAll pieces).used =
      binder.used ++ (bindPieces dialect binder pieces).slots.map Prod.fst := by
  induction pieces generalizing binder with
  | nil =>
      simp [Binder.pastAll, bindPieces]
  | cons piece rest inductionHypothesis =>
      have restUsed := inductionHypothesis (binder.past piece)
      rw [bindPieces_cons]
      cases piece with
      | word | identifier | raw =>
          exact restUsed
      | operand naming slot =>
          simp only [Binder.past, Binder.used_bind, List.append_assoc]
            at restUsed
          exact restUsed

/-- No two parameters have one name, and none has one in use before. -/
theorem nodup_names
    (distinct : binder.used.Nodup)
    (pieces : List Piece) :
    (binder.used ++
      (bindPieces dialect binder pieces).slots.map Prod.fst).Nodup := by
  rw [← used_pastAll]
  induction pieces generalizing binder with
  | nil =>
      exact distinct
  | cons piece rest inductionHypothesis =>
      apply inductionHypothesis
      cases piece with
      | word | identifier | raw =>
          exact distinct
      | operand naming slot =>
          rw [Binder.past, Binder.used_bind]
          refine distinct.append (List.nodup_singleton _) ?_
          intro name taken isNew
          rw [List.mem_singleton.mp isNew] at taken
          exact binder.bind_free naming taken

theorem isBindableName_of_mem_slots
    {pieces : List Piece}
    {parameter : String × Slot}
    (member : parameter ∈ (bindPieces dialect binder pieces).slots) :
    IsBindableName parameter.1 := by
  induction pieces generalizing binder with
  | nil =>
      cases member
  | cons piece rest inductionHypothesis =>
      rw [bindPieces_cons] at member
      rcases List.mem_append.mp member with isHead | inRest
      · cases piece with
        | word | identifier | raw =>
            cases isHead
        | operand naming slot =>
            rw [List.mem_singleton.mp isHead]
            exact binder.isBindableName_bind naming
      · exact inductionHypothesis (binder.past piece) inRest

end Slots

end PolyQuery.Sql
