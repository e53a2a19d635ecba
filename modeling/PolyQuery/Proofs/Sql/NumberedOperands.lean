import PolyQuery.Proofs.Sql.Placeholders
import PolyQuery.Proofs.Sql.SelectClauses

namespace PolyQuery.Sql

/-!
# Numbered operands

A base and its number are told apart by the last underscore of a name, so no
name with a number is taken by another base. Where all operands are named by
numbers, as in the conditions of a select or of a delete, the search for a free
number stops at once then, and the operands of a base are numbered one after the
other.

A statement that writes rows takes names of its columns, too, which may look
like names with numbers. The search goes past those that are taken. All numbers
of the base up to the one where it stops are in use, so it tries no more numbers
than there are names in use, and one.
-/

section Marks

variable
  {α : Type}
  {mark : α}
  {front other tail rest : List α}

/--
A mark that is not met again stands at the same place in
both readings of a list.
-/
theorem surplus_eq_nil_of_not_mem
    {surplus : List α}
    (tailFree : mark ∉ tail)
    (same : mark :: tail = surplus ++ mark :: rest) :
    surplus = [] ∧ tail = rest := by
  cases surplus with
  | nil =>
      exact ⟨rfl, (List.cons.inj same).2⟩
  | cons first surplus =>
      refine absurd ?_ tailFree
      rw [(List.cons.inj same).2]
      simp

/-- What stands before and after a mark is told apart by the last mark. -/
theorem append_cons_inj_of_tails_free
    (tailFree : mark ∉ tail)
    (restFree : mark ∉ rest)
    (same : front ++ mark :: tail = other ++ mark :: rest) :
    front = other ∧ tail = rest := by
  rcases List.append_eq_append_iff.mp same with
    ⟨surplus, isOther, isTail⟩ | ⟨surplus, isFront, isRest⟩
  · obtain ⟨rfl, sameTail⟩ := surplus_eq_nil_of_not_mem tailFree isTail
    exact ⟨by simpa using isOther.symm, sameTail⟩
  · obtain ⟨rfl, sameTail⟩ := surplus_eq_nil_of_not_mem restFree isRest
    exact ⟨by simpa using isFront, sameTail.symm⟩

end Marks

namespace Binder

theorem underscore_not_mem_toString
    (number : Nat) :
    '_' ∉ (toString number).toList :=
  fun member => absurd (isDigit_of_mem_toString member) (by decide)

/-- Names with numbers differ if their bases or their numbers do. -/
theorem numberedName_inj
    {base other : String}
    {number next : Nat}
    (same : numberedName base number = numberedName other next) :
    base = other ∧ number = next := by
  have sameCharacters :
      base.toList ++ '_' :: (toString number).toList =
        other.toList ++ '_' :: (toString next).toList := by
    simpa [numberedName] using congrArg String.toList same
  obtain ⟨sameBase, sameDigits⟩ :=
    append_cons_inj_of_tails_free (underscore_not_mem_toString number)
      (underscore_not_mem_toString next) sameCharacters
  exact ⟨String.toList_injective sameBase,
    Nat.repr_injective (String.toList_injective sameDigits)⟩

/--
The search for a free number of a base, one number after the other, goes on from
a number and stops at another.
-/
inductive Search
    (used : List String)
    (base : String) :
    Nat →
    Nat →
    Prop
  | free
      {number : Nat}
      (isFree : numberedName base number ∉ used) :
      Search used base number number
  | taken
      {number found : Nat}
      (isTaken : numberedName base number ∈ used)
      (further : Search used base (number + 1) found) :
      Search used base number found

namespace Search

variable
  {used : List String}
  {base : String}
  {number found other : Nat}

theorem eq_of_free
    (search : Search used base number found)
    (isFree : numberedName base number ∉ used) :
    found = number := by
  cases search with
  | free => rfl
  | taken isTaken => exact absurd isTaken isFree

/-- All numbers that the search has gone past are taken. -/
theorem passed_taken
    (search : Search used base number found)
    (notBefore : number ≤ other)
    (before : other < found) :
    numberedName base other ∈ used := by
  induction search with
  | free => omega
  | @taken number found isTaken _ inductionHypothesis =>
      by_cases first : number = other
      · exact first ▸ isTaken
      · exact inductionHypothesis (by omega) before

end Search

/-- A search that ends at a free number has stopped there. -/
theorem search_firstFree_of_free
    {used : List String}
    {base : String}
    {fuel number : Nat}
    (isFree : numberedName base (firstFree used base fuel number) ∉ used) :
    Search used base number (firstFree used base fuel number) := by
  induction fuel generalizing number with
  | zero =>
      exact .free isFree
  | succ fuel inductionHypothesis =>
      unfold firstFree at isFree ⊢
      split
      next isTaken =>
        rw [if_pos isTaken] at isFree
        exact .taken (by simpa using isTaken) (inductionHypothesis isFree)
      next notTaken =>
        exact .free (by simpa using notTaken)

/-- The last number that was handed out for a base, zero if none was. -/
def lastNumber
    (binder : Binder)
    (base : String) :
    Nat :=
  (binder.counters.get? base).getD 0

/-- The number that is handed out next for a base. -/
def nextNumber
    (binder : Binder)
    (base : String) :
    Nat :=
  firstFree binder.used base (binder.used.length + 1)
    (binder.lastNumber base + 1)

section Numbers

variable
  (binder : Binder)
  (base : String)

theorem number_name :
    (binder.number base).1 = numberedName base (binder.nextNumber base) :=
  rfl

theorem used_number :
    (binder.number base).2.used =
      binder.used ++ [numberedName base (binder.nextNumber base)] :=
  rfl

theorem lastNumber_number
    (other : String) :
    (binder.number base).2.lastNumber other =
      if base = other then
        binder.nextNumber base
      else
        binder.lastNumber other := by
  have stored :
      (binder.number base).2.counters =
        binder.counters.insert base (binder.nextNumber base) :=
    rfl
  rw [lastNumber, stored, Entries.get?_insert]
  split <;> rfl

/-- The search for the next number of a base stops. -/
theorem search_nextNumber :
    Search binder.used base (binder.lastNumber base + 1)
      (binder.nextNumber base) :=
  search_firstFree_of_free (firstFree_free binder.used base _)

end Numbers

/-- All numbers of a base are in use up to the last one that was handed out. -/
def Contiguous
    (binder : Binder) :
    Prop :=
  ∀ base number,
    0 < number →
    number ≤ binder.lastNumber base →
    numberedName base number ∈ binder.used

section Contiguity

variable {binder : Binder}

theorem contiguous_empty :
    Contiguous empty := by
  intro base number positive within
  exact absurd within (Nat.not_le.mpr positive)

/-- All numbers before the next one are in use. -/
theorem Contiguous.taken_before
    (contiguous : binder.Contiguous)
    {base : String}
    {number : Nat}
    (positive : 0 < number)
    (before : number < binder.nextNumber base) :
    numberedName base number ∈ binder.used := by
  by_cases within : number ≤ binder.lastNumber base
  · exact contiguous base number positive within
  · exact (binder.search_nextNumber base).passed_taken (by omega) before

/-- The next number is not greater than the number of names there are then. -/
theorem Contiguous.nextNumber_le
    (contiguous : binder.Contiguous)
    (base : String) :
    binder.nextNumber base ≤ binder.used.length + 1 := by
  have taken :
      ∀ tried < binder.nextNumber base - 1,
        numberedName base (1 + tried) ∈ binder.used := by
    intro tried within
    exact contiguous.taken_before (by omega) (by omega)
  have fewer := length_le_of_taken taken
  omega

theorem Contiguous.number
    (contiguous : binder.Contiguous)
    (base : String) :
    (binder.number base).2.Contiguous := by
  intro other number positive within
  rw [lastNumber_number] at within
  rw [used_number, List.mem_append, List.mem_singleton]
  split at within
  next same =>
    subst same
    rcases Nat.lt_or_eq_of_le within with before | isNext
    · exact .inl (contiguous.taken_before positive before)
    · exact .inr (congrArg (numberedName base) isNext)
  next =>
    exact .inl (contiguous other number positive within)

theorem Contiguous.bind
    (contiguous : binder.Contiguous)
    (naming : Naming) :
    (binder.bind naming).2.Contiguous := by
  cases naming with
  | exact name =>
      unfold Binder.bind
      dsimp only
      split
      · exact contiguous.number _
      · intro base number positive within
        exact List.mem_append_left _ (contiguous base number positive within)
  | numbered base =>
      exact contiguous.number _

theorem Contiguous.pastAll
    (contiguous : binder.Contiguous)
    (pieces : List Piece) :
    (binder.pastAll pieces).Contiguous := by
  induction pieces generalizing binder with
  | nil =>
      exact contiguous
  | cons piece rest inductionHypothesis =>
      apply inductionHypothesis
      cases piece with
      | word | identifier | raw =>
          exact contiguous
      | operand naming slot =>
          exact contiguous.bind naming

end Contiguity

/--
The names in use are those of operands with some bases, numbered
from one for each base.
-/
structure NumbersOnly
    (binder : Binder)
    (bases : List String) :
    Prop where
  counted : ∀ base, binder.lastNumber base = bases.count base
  within :
    ∀ base number,
      numberedName base number ∈ binder.used → number ≤ bases.count base

section Numbering

variable
  {binder : Binder}
  {bases : List String}

theorem numbersOnly_empty :
    NumbersOnly empty [] where
  counted _ := rfl
  within _ _ taken := absurd taken List.not_mem_nil

/-- The search stops at its first number. -/
theorem NumbersOnly.nextNumber_eq
    (only : binder.NumbersOnly bases)
    (base : String) :
    binder.nextNumber base = bases.count base + 1 := by
  have search := binder.search_nextNumber base
  rw [only.counted] at search
  apply search.eq_of_free
  intro taken
  exact absurd (only.within base _ taken) (by omega)

theorem NumbersOnly.number
    (only : binder.NumbersOnly bases)
    (base : String) :
    (binder.number base).2.NumbersOnly (bases ++ [base]) where
  counted other := by
    rw [lastNumber_number, only.nextNumber_eq, only.counted, List.count_append,
      List.count_singleton]
    by_cases same : base = other
    · subst same
      simp
    · simp [same]
  within other number taken := by
    rw [used_number, only.nextNumber_eq, List.mem_append, List.mem_singleton]
      at taken
    rw [List.count_append]
    rcases taken with before | isNew
    · exact Nat.le_add_right_of_le (only.within other number before)
    · obtain ⟨rfl, rfl⟩ := numberedName_inj isNew
      simp

end Numbering

/-- Name operands one after the other. -/
def bindAll :
    Binder →
    List (Naming × Slot) →
    List (String × Slot)
  | _, [] => []
  | binder, (naming, slot) :: rest =>
      ((binder.bind naming).1, slot) :: bindAll (binder.bind naming).2 rest

end Binder

/-- The naming and the slot of an operand. -/
def Piece.operand? : Piece → Option (Naming × Slot)
  | .operand naming slot => some (naming, slot)
  | _ => none

/-- The base and the value of an operand. -/
def Expr.operand? : Expr → Option (String × Json)
  | .operand base value => some (base, value)
  | _ => none

/-- How an operand of an expression is named, and its slot. -/
def numberedOperand
    (operand : String × Json) :
    Naming × Slot :=
  (.numbered operand.1, .fixed operand.2)

/-- The operands of a statement's expressions, in the order of the text. -/
def Statement.operands
    (dialect : Dialect)
    (statement : Statement) :
    List (String × Json) :=
  (statement.exprs dialect).flatMap fun expr =>
    expr.leaves.filterMap Expr.operand?

/-- The base of an operand's name. -/
def safeBase
    (operand : String × Json) :
    String :=
  bindSafe operand.1

/--
The values of operands by name, after operands with some bases: the first
operand of a base is its number one, and every other one is the next number of
its base.
-/
def numberedAfter
    (earlier : List String)
    (operands : List (String × Json)) :
    Document :=
  operands.mapIdx fun index operand =>
    (Binder.numberedName (safeBase operand)
        ((earlier ++ (operands.map safeBase).take (index + 1)).count
          (safeBase operand)),
      operand.2)

theorem numberedAfter_cons
    (earlier : List String)
    (operand : String × Json)
    (rest : List (String × Json)) :
    numberedAfter earlier (operand :: rest) =
      (Binder.numberedName (safeBase operand)
        (earlier.count (safeBase operand) + 1), operand.2) ::
        numberedAfter (earlier ++ [safeBase operand]) rest := by
  simp [numberedAfter, List.mapIdx_cons]

theorem slots_bindPieces
    (dialect : Dialect)
    (binder : Binder)
    (pieces : List Piece) :
    (bindPieces dialect binder pieces).slots =
      binder.bindAll (pieces.filterMap Piece.operand?) := by
  induction pieces generalizing binder with
  | nil =>
      rfl
  | cons piece rest inductionHypothesis =>
      rw [bindPieces_cons, inductionHypothesis]
      cases piece <;> rfl

/-- Operands of expressions are numbered on from those before. -/
theorem Binder.NumbersOnly.bindAll_eq
    {binder : Binder}
    {earlier : List String}
    (only : binder.NumbersOnly earlier)
    (operands : List (String × Json)) :
    binder.bindAll (operands.map numberedOperand) =
      (numberedAfter earlier operands).map fun bound =>
        (bound.1, .fixed bound.2) := by
  induction operands generalizing binder earlier with
  | nil =>
      rfl
  | cons operand rest inductionHypothesis =>
      rw [numberedAfter_cons, List.map_cons, List.map_cons,
        ← inductionHypothesis (only.number (safeBase operand)),
        ← only.nextNumber_eq]
      rfl

theorem chosenAlike_operand? :
    ChosenAlike Piece.operand? fun leaf =>
      leaf.operand?.map numberedOperand := by
  constructor <;> intros <;> rfl

/--
The operands of a statement that writes no rows are those of its expressions.
-/
theorem filterMap_operand?_of_no_rows
    (dialect : Dialect)
    {statement : Statement}
    (noRows : statement.rowPieces = []) :
    (statement.pieces dialect).filterMap Piece.operand? =
      (statement.operands dialect).map numberedOperand := by
  rw [chosenAlike_operand?.pieces, noRows, Statement.operands, List.map_flatMap]
  simp [List.map_filterMap]

/--
The payload of a statement that writes no rows holds its operands
under their numbers.
-/
theorem payload_of_no_rows
    (dialect : Dialect)
    {statement : Statement}
    (noRows : statement.rowPieces = [])
    (row : List Json)
    (key : Option Json) :
    payload (bindPieces dialect .empty (statement.pieces dialect)).slots row
        key =
      numberedAfter [] (statement.operands dialect) := by
  rw [slots_bindPieces, filterMap_operand?_of_no_rows dialect noRows,
    Binder.numbersOnly_empty.bindAll_eq, payload, List.map_map]
  exact List.map_id _

/--
Operands are numbered by their bases, without gaps.

In a select, in a count and in a delete each operand, those of subqueries
included, is bound under its base with the number of operands that the base has
had by then. Whatever part of a statement has been written, the search for a
number of any base goes on from the last one, stops at a number that is not
greater than the number of names there are then, and the name that is handed
out, with that number, is none of those handed out before.
-/
theorem operands_numbered_without_gaps
    (dialect : Dialect) :
    (∀ selected : Select,
      ((Statement.select selected).render dialect).params =
        .single
          (numberedAfter [] ((Statement.select selected).operands dialect))) ∧
    (∀ (query : Query) (counting : Statement),
      compileCount query = .ok counting →
        (counting.render dialect).params =
          .single (numberedAfter [] (counting.operands dialect))) ∧
    (∀ deleted : Delete,
      ((Statement.delete deleted).render dialect).params =
        .single
          (numberedAfter [] ((Statement.delete deleted).operands dialect))) ∧
    ∀ (statement : Statement) (written : Nat) (base : String),
      let before := (statement.pieces dialect).take written
      let binder := Binder.empty.pastAll before
      binder.used = (bindPieces dialect .empty before).slots.map Prod.fst ∧
        ∃ found,
          Binder.Search binder.used base (binder.lastNumber base + 1) found ∧
            found ≤ binder.used.length + 1 ∧
            (binder.number base).1 = Binder.numberedName base found ∧
            (binder.number base).1 ∉ binder.used := by
  have select :
      ∀ selected : Select,
        ((Statement.select selected).render dialect).params =
          .single
            (numberedAfter [] ((Statement.select selected).operands dialect)) :=
    fun _ => congrArg Params.single (payload_of_no_rows dialect rfl [] none)
  refine ⟨select, fun query counting compiled => ?_, fun deleted => ?_, ?_⟩
  · obtain ⟨body, -, rfl⟩ := compileCount_eq_ok.mp compiled
    exact select _
  · exact congrArg Params.single (payload_of_no_rows dialect rfl [] none)
  · intro statement written base before binder
    have contiguous : binder.Contiguous :=
      Binder.contiguous_empty.pastAll before
    exact
      ⟨used_pastAll dialect .empty before, binder.nextNumber base,
        binder.search_nextNumber base, contiguous.nextNumber_le base,
        binder.number_name base, binder.number_free base⟩

/-- A search goes past the name of a column that is written. -/
example :
    ((Binder.empty.pastAll [.operand (.exact "a_1") (.column 0)]).number
      "a").1 = "a_2" := by
  cbv

/--
Groups by a column, under conditions on it and on one that has
its name with a number.
-/
def numberedColumns : Query :=
  {
    filter := [
      ("size", .conditions [⟨"gt", .ofInt 1⟩]),
      ("rank", .equals (.ofInt 2))]
    alternatives := [("size", [⟨"lt", .ofInt 8⟩, ⟨"eq", .ofInt 9⟩])]
    groups := [.field "size"]
    having := [⟨.raw "count(*)", ⟨"gt", .ofInt 3⟩⟩]
    kind := .select
    schema := {
      name := "point"
      storageName := none
      fields := [
        ⟨"id", none, true, none, none⟩,
        ⟨"size", some "s", false, none, none⟩,
        ⟨"rank", some "s_1", false, none, none⟩]
    }
    values := none
  }

theorem operands_numbered_without_gaps_of_numberedColumns :
    ∃ counting,
      compileCount numberedColumns = .ok counting ∧
        (counting.render .postgres).params =
          .single
            [("s_1", .ofInt 1), ("s_1_1", .ofInt 2), ("s_2", .ofInt 8),
              ("s_3", .ofInt 9),
            ("having_1", .ofInt 3)] := by
  refine ⟨_, rfl, ?_⟩
  refine
    ((operands_numbered_without_gaps .postgres).2.1 numberedColumns _ rfl).trans
      (congrArg Params.single ?_)
  decide +kernel

end PolyQuery.Sql
