import PolyQuery.Proofs.Query.Moves
import PolyQuery.Proofs.Query.StoredPages

namespace PolyQuery

/-!
# Neighbours of pages

A fetched page says whether there is a page before and behind it, and which. It
finds out by dividing, while the paginator decides by a product that stops at
the greatest unsigned 64-bit integer. Both come to the same as long as the total
is such an integer: the number that a page gives for a neighbour is the page
that the move there makes for.

None of the sums, differences and quotients that are taken on the way leaves the
unsigned 64-bit integers, which is said by taking them where they exist only.
-/

variable {σ : Type}

namespace Checked

/-! Arithmetic of unsigned 64-bit integers, where the result is one, too. -/

def sum?
    (left right : Nat) :
    Option Nat :=
  if left + right ≤ unsignedMax then some (left + right) else none

def difference?
    (left right : Nat) :
    Option Nat :=
  if right ≤ left then some (left - right) else none

def quotient?
    (left right : Nat) :
    Option Nat :=
  if right = 0 then none else some (left / right)

def remainder?
    (left right : Nat) :
    Option Nat :=
  if right = 0 then none else some (left % right)

/-- The number of pages, where no step on the way to it overflows. -/
def pages?
    (page : Page) :
    Option Nat :=
  if page.pageSize = 0 then
    some (if 0 < page.total then 1 else 0)
  else do
    let whole ← quotient? page.total page.pageSize
    let rest ← remainder? page.total page.pageSize
    if rest = 0 then some whole else sum? whole 1

/-- The number of the page behind, where no step on the way to it overflows. -/
def nextNumber?
    (page : Page) :
    Option (Option Nat) := do
  let pages ← pages? page
  if page.page < pages then (sum? page.page 1).map some else some none

/-- The number of the page before, where no step on the way to it overflows. -/
def previousNumber?
    (page : Page) :
    Option (Option Nat) :=
  if page.hasPrevious then (difference? page.page 1).map some else some none

/--
The number of rows before a page, where no step on the way to it overflows.
-/
def offset?
    (request : PageRequest) :
    Option (Option Nat) :=
  if request.isUnbounded then
    some none
  else do
    let before ← difference? request.page 1
    return some (min (saturatingMul before request.pageSize) signedMax.toNat)

/-- The page that a move makes for, where no step on the way to it overflows. -/
def target?
    (paginator : Paginator) :
    Paginator.Move →
    Option (Option Nat)
  | .fetch => some (some paginator.request.page)
  | .next =>
      if paginator.request.isUnbounded || paginator.isExhausted then
        some none
      else
        (sum? paginator.request.page 1).map some
  | .previous =>
      if paginator.request.page ≤ 1 || paginator.request.isUnbounded then
        some none
      else
        (difference? paginator.request.page 1).map some

theorem sum?_eq
    {left right : Nat}
    (fits : left + right ≤ unsignedMax) :
    sum? left right = some (left + right) :=
  if_pos fits

theorem difference?_eq
    {left right : Nat}
    (notLess : right ≤ left) :
    difference? left right = some (left - right) :=
  if_pos notLess

/--
Pages of a total that is an unsigned 64-bit integer are counted
without an overflow.
-/
theorem pages?_eq
    {page : Page}
    (representable : page.total ≤ unsignedMax) :
    pages? page = some page.pages := by
  by_cases unbounded : page.pageSize = 0
  · simp only [pages?, Page.pages, unbounded, if_true]
  · simp only [pages?, Page.pages, unbounded, if_false, quotient?, remainder?,
      Option.bind_eq_bind, Option.bind_some]
    by_cases even : page.total % page.pageSize = 0
    · simp only [even, if_true, Nat.add_zero]
    · -- A rest is left only of a division by two or more, whose quotient has
      -- room above it.
      have several : 2 ≤ page.pageSize := by
        by_contra few
        have single : page.pageSize = 1 := by omega
        exact even (by rw [single, Nat.mod_one])
      have smaller : page.total / page.pageSize ≤ page.total / 2 :=
        Nat.div_le_div_left several Nat.zero_lt_two
      rw [if_neg even, if_neg even]
      apply sum?_eq
      unfold unsignedMax at representable ⊢
      omega

theorem nextNumber?_eq
    {page : Page}
    (representable : page.total ≤ unsignedMax)
    (room : page.page + 1 ≤ unsignedMax) :
    nextNumber? page = some page.nextNumber? := by
  simp only [nextNumber?, pages?_eq representable, Option.bind_eq_bind,
    Option.bind_some, sum?_eq room, Page.nextNumber?, Page.hasNext,
    decide_eq_true_eq]
  split <;> rfl

theorem previousNumber?_eq
    (page : Page) :
    previousNumber? page = some page.previousNumber? := by
  unfold previousNumber? Page.previousNumber?
  split
  next behind =>
    have notFirst : 1 ≤ page.page := by
      simp only [Page.hasPrevious, Bool.and_eq_true, decide_eq_true_eq]
        at behind
      omega
    rw [difference?_eq notFirst]
    rfl
  next =>
    rfl

theorem offset?_eq
    {request : PageRequest}
    (onPage : 1 ≤ request.page) :
    offset? request = some request.offset := by
  have stopped :
      min (saturatingMul (request.page - 1) request.pageSize) signedMax.toNat =
        min ((request.page - 1) * request.pageSize) signedMax.toNat := by
    have smaller : signedMax.toNat ≤ unsignedMax := by decide
    rw [saturatingMul, Nat.min_assoc, Nat.min_eq_right smaller]
  unfold offset? PageRequest.offset
  split
  · rfl
  · rw [difference?_eq onPage, ← stopped]
    rfl

theorem target?_eq
    {paginator : Paginator}
    (room : paginator.request.page + 1 ≤ unsignedMax)
    (move : Paginator.Move) :
    target? paginator move = some (move.target? paginator) := by
  cases move with
  | fetch =>
      rfl
  | next =>
      simp only [target?, Paginator.Move.target?, sum?_eq room]
      split <;> rfl
  | previous =>
      simp only [target?, Paginator.Move.target?]
      split
      next =>
        rfl
      next goesOn =>
        have notFirst : 1 ≤ paginator.request.page := by
          simp only [Bool.or_eq_true, decide_eq_true_eq, not_or, Nat.not_le]
            at goesOn
          omega
        rw [difference?_eq notFirst]
        rfl

end Checked

/--
An executor answers no more rows and no higher count than an unsigned
64-bit integer tells.
-/
structure Executor.Representable
    (executor : Executor σ) :
    Prop where
  rows :
    ∀ query before items after,
      (executor.fetch query).runFrom before = (.ok items, after) →
        items.length ≤ unsignedMax
  total :
    ∀ query before total after,
      (executor.count query).runFrom before = (.ok total, after) →
        total ≤ unsignedMax

/--
A page is behind another one exactly if rows are left behind the other one.
-/
theorem Page.lt_pages_iff
    {page : Page}
    (bounded : 0 < page.pageSize)
    (number : Nat) :
    number < page.pages ↔ number * page.pageSize < page.total := by
  have whole :
      number ≤ page.total / page.pageSize ↔
        number * page.pageSize ≤ page.total :=
    Nat.le_div_iff_mul_le bounded
  have parts := Nat.div_add_mod' page.total page.pageSize
  rw [pages, if_neg (Nat.ne_of_gt bounded)]
  by_cases even : page.total % page.pageSize = 0
  · rw [if_pos even, Nat.add_zero]
    rw [even, Nat.add_zero] at parts
    constructor
    · intro before
      have fewer := Nat.mul_lt_mul_of_pos_right before bounded
      rw [parts] at fewer
      exact fewer
    · intro fewer
      rw [← parts] at fewer
      exact Nat.lt_of_mul_lt_mul_right fewer
  · rw [if_neg even, Nat.lt_succ_iff, whole]
    constructor
    · intro notMore
      apply Nat.lt_of_le_of_ne notMore
      intro filled
      rw [← filled, Nat.mul_mod_left] at even
      exact even rfl
    · exact Nat.le_of_lt

namespace Paginator

/-- What a paginator and the page that it has just answered have in common. -/
structure Shows
    (paginator : Paginator)
    (fetched : Page) :
    Prop where
  page_eq : fetched.page = paginator.request.page
  pageSize_eq : fetched.pageSize = paginator.request.pageSize
  total_eq : paginator.total = some fetched.total

theorem Fetched.shows
    {executor : Executor σ}
    {paginator after : Paginator}
    {fetched : Page}
    (isFetched : Fetched executor paginator fetched after) :
    after.Shows fetched := by
  obtain ⟨samePage, sameSize, rfl, -, -⟩ := isFetched
  exact ⟨samePage, sameSize, rfl⟩

section Numbers

variable
  {paginator : Paginator}
  {fetched : Page}

/-- The page behind a fetched one is the page that the next move makes for. -/
theorem Shows.nextNumber?_eq
    (shows : paginator.Shows fetched)
    (onPage : 1 ≤ paginator.request.page)
    (representable : fetched.total ≤ unsignedMax) :
    fetched.nextNumber? = Move.target? paginator .next := by
  obtain ⟨samePage, sameSize, known⟩ := shows
  have exhausted :
      paginator.isExhausted = true ↔
        fetched.total ≤ fetched.page * fetched.pageSize := by
    rw [isExhausted, known]
    change decide _ = true ↔ _
    rw [decide_eq_true_eq, saturatingMul, ← samePage, ← sameSize]
    omega
  rcases Nat.eq_zero_or_pos fetched.pageSize with unbounded | bounded
  · have isUnbounded : paginator.request.isUnbounded = true := by
      simp [PageRequest.isUnbounded, ← sameSize, unbounded]
    have noNext : fetched.hasNext = false := by
      simp only [Page.hasNext, Page.pages, unbounded, if_true,
        decide_eq_false_iff_not, samePage]
      split <;> omega
    simp [Page.nextNumber?, Move.target?, noNext, isUnbounded]
  · have isBounded : paginator.request.isUnbounded = false := by
      apply PageRequest.isUnbounded_eq_false
      rw [← sameSize]
      exact bounded
    have goesOn : fetched.hasNext = true ↔ ¬paginator.isExhausted = true := by
      rw [exhausted, Nat.not_le, Page.hasNext, decide_eq_true_eq,
        Page.lt_pages_iff bounded]
    simp only [Page.nextNumber?, Move.target?, isBounded, Bool.false_or,
      samePage]
    by_cases isLast : paginator.isExhausted = true
    · rw [if_pos isLast, if_neg fun further => goesOn.mp further isLast]
    · rw [if_neg isLast, if_pos (goesOn.mpr isLast)]

/-- The page before a fetched one is the page that the move back makes for. -/
theorem Shows.previousNumber?_eq
    (shows : paginator.Shows fetched) :
    fetched.previousNumber? = Move.target? paginator .previous := by
  obtain ⟨samePage, sameSize, -⟩ := shows
  have goesBack :
      fetched.hasPrevious = true ↔
        ¬(decide (paginator.request.page ≤ 1) ||
          paginator.request.isUnbounded) = true := by
    simp only [Page.hasPrevious, PageRequest.isUnbounded, samePage, sameSize,
      Bool.and_eq_true, Bool.or_eq_true, decide_eq_true_eq]
    omega
  simp only [Page.previousNumber?, Move.target?, samePage]
  by_cases isFirst :
      (decide (paginator.request.page ≤ 1) || paginator.request.isUnbounded) =
        true
  · rw [if_pos isFirst, if_neg fun further => goesBack.mp further isFirst]
  · rw [if_neg isFirst, if_pos (goesBack.mpr isFirst)]

end Numbers

/--
A flag and a number announce what a move does, whatever has
become of the executor.
-/
structure Announces
    (executor : Executor σ)
    (paginator : Paginator)
    (move : Move)
    (flag : Bool)
    (number? : Option Nat) :
    Prop where
  flag_iff :
    ∀ state, flag = true ↔
      ((move.run executor).runFrom (paginator, state)).1 ≠ .ok none
  number_iff : flag = true ↔ number?.isSome = true
  goes :
    ∀ state number,
      number? = some number →
      (move.run executor).runFrom (paginator, state) =
        (goTo executor number).runFrom (paginator, state)
  answers :
    ∀ state fetched after,
      (move.run executor).runFrom (paginator, state) =
        (.ok (some fetched), after) →
      number? = some fetched.page

/-- The page that a move makes for announces the move. -/
theorem announces_of_target
    {executor : Executor σ}
    {paginator : Paginator}
    {move : Move}
    {flag : Bool}
    {number? : Option Nat}
    (flagged : flag = true ↔ number?.isSome = true)
    (isTarget : number? = move.target? paginator) :
    Announces executor paginator move flag number? where
  flag_iff state := by
    rw [flagged, isTarget]
    cases aimed : move.target? paginator with
    | none =>
        rw [Move.run_of_untargeted aimed]
        simp
    | some page =>
        rw [Move.run_of_target aimed, runFrom_goTo]
        cases ((fetch executor).runFrom (paginator.movedTo page, state)).1 <;>
          simp [Except.map]
  number_iff := flagged
  goes state number given := Move.run_of_target (isTarget.symm.trans given)
  answers state fetched after ran := by
    rw [isTarget]
    rcases Move.run_ends ran with
      ⟨-, noPage, -⟩ | ⟨page, aimed,
        ⟨cause, failed, -⟩ | ⟨answered, same, isFetched⟩⟩
    · cases noPage
    · cases failed
    · cases same
      rw [aimed, isFetched.page_eq]
      rfl

/-- What holds of a paginator after so many moves. -/
structure Near
    (first : Nat)
    (moves : Nat)
    (paginator : Paginator) :
    Prop where
  onPage : 1 ≤ paginator.request.page
  page_le : paginator.request.page ≤ first + moves
  total_le : ∀ total, paginator.total = some total → total ≤ unsignedMax

section Journeys

variable
  {executor : Executor σ}
  {paginator after : Paginator}
  {move : Move}
  {first moves : Nat}

theorem Totalled.le
    {items : List Document}
    {total : Nat}
    (totalled : Totalled executor paginator items total)
    (representable : executor.Representable)
    (near : Near first moves paginator)
    (served :
      ∃ query before later,
        (executor.fetch query).runFrom before = (.ok items, later)) :
    total ≤ unsignedMax := by
  cases totalled with
  | known isKnown =>
      exact near.total_le total isKnown
  | shown =>
      obtain ⟨query, before, later, answered⟩ := served
      exact representable.rows query before items later answered
  | counted _ isCounted =>
      exact representable.total _ _ total _ isCounted

/--
A page that a move makes for is next to a paginator, and no page
is before the first.
-/
theorem Near.movedTo
    {page : Nat}
    (near : Near first moves paginator)
    (targeted : move.target? paginator = some page) :
    Near first (moves + 1) (paginator.movedTo page) := by
  have shifted := Move.target_eq targeted
  have onPage := near.onPage
  have page_le := near.page_le
  refine ⟨?_, ?_, near.total_le⟩
  · change 1 ≤ page
    cases move with
    | previous =>
        simp only [Move.target?, Option.ite_none_left_eq_some, Bool.or_eq_true,
          decide_eq_true_eq, not_or, Nat.not_le, Option.some.injEq] at targeted
        omega
    | _ =>
        simp only [Move.shift] at shifted
        omega
  · change page ≤ first + (moves + 1)
    cases move <;> simp only [Move.shift] at shifted <;> omega

/--
A move keeps a paginator near its first page, whether it succeeds or fails.
-/
theorem Near.run
    {state left : σ}
    {result : Except QueryError (Option Page)}
    (near : Near first moves paginator)
    (representable : executor.Representable)
    (ran :
      (move.run executor).runFrom (paginator, state) =
        (result, (after, left))) :
    Near first (moves + 1) after := by
  rcases Move.run_ends ran with
    ⟨-, -, rfl⟩ | ⟨page, targeted, ⟨cause, -, rfl⟩ | ⟨fetched, -, isFetched⟩⟩
  · exact ⟨near.onPage, Nat.le_succ_of_le near.page_le, near.total_le⟩
  · exact near.movedTo targeted
  · have moved := near.movedTo targeted
    have total_le := isFetched.totalled.le representable moved isFetched.served
    rw [isFetched.after_eq]
    refine ⟨moved.onPage, moved.page_le, fun total same => ?_⟩
    cases same
    exact total_le

/-- So do moves made one after the other. -/
theorem Near.journey
    (representable : executor.Representable)
    (further : List Move)
    (place : Paginator × σ)
    (near : Near first moves place.1) :
    Near first (moves + further.length) (journey executor further place).1 := by
  induction further generalizing place moves with
  | nil =>
      exact near
  | cons move rest inductionHypothesis =>
      rw [List.length_cons, Nat.add_comm rest.length 1, ← Nat.add_assoc]
      exact inductionHypothesis _ (near.run representable rfl)

end Journeys

/--
The arithmetic of a paginator's moves stays within the unsigned 64-bit integers.
-/
structure Computes
    (paginator : Paginator) :
    Prop where
  targets :
    ∀ move, Checked.target? paginator move = some (move.target? paginator)
  offsets :
    ∀ move page,
      Move.target? paginator move = some page →
      Checked.offset? (paginator.movedTo page).request =
        some (paginator.movedTo page).request.offset

/--
Fetched pages tell the truth about their neighbours.

Let a paginator begin at any page that is a signed 64-bit integer, with any page
size, and make fewer than 2^63 moves, whether these succeed or fail. Then the
page that each further move makes for, and its offset, are computed without an
overflow. If the last of the moves has just answered a page, the page has a next
one exactly if asking for the next page does not answer none, and gives the
number of the page that is fetched then; the same holds for the previous page.
These numbers, too, are computed without an overflow and without a division by
zero.
-/
theorem neighbours_announced
    {executor : Executor σ}
    {page pageSize : Int}
    {moves : List Move}
    (representable : executor.Representable)
    (signed : page ≤ signedMax)
    (few : moves.length < 2 ^ 63)
    (builder : Builder)
    (pagination : Pagination)
    (state : σ) :
    Computes
        (journey executor moves
          (start builder page pageSize pagination, state)).1 ∧
      ∀ front last fetched,
        moves = front ++ [last] →
        ((last.run executor).runFrom
            (journey executor front
              (start builder page pageSize pagination, state))).1 =
          .ok (some fetched) →
        Announces executor
            (journey executor moves
              (start builder page pageSize pagination, state)).1 .next
            fetched.hasNext fetched.nextNumber? ∧
          Announces executor
            (journey executor moves
              (start builder page pageSize pagination, state)).1 .previous
            fetched.hasPrevious fetched.previousNumber? ∧
          Checked.pages? fetched = some fetched.pages ∧
          Checked.nextNumber? fetched = some fetched.nextNumber? ∧
          Checked.previousNumber? fetched = some fetched.previousNumber? := by
  have begins :
      Near (2 ^ 63 - 1) 0 (start builder page pageSize pagination) := by
    refine ⟨?_, ?_, by rintro _ ⟨⟩⟩
    · simp only [start, PageRequest.ofNumbers]
      omega
    · simp only [start, PageRequest.ofNumbers]
      unfold signedMax at signed
      omega
  have near :=
    Near.journey representable moves
      (start builder page pageSize pagination, state) begins
  generalize reached :
    journey executor moves (start builder page pageSize pagination, state) =
      place at near ⊢
  have room : place.1.request.page + 1 ≤ unsignedMax := by
    have page_le := near.page_le
    unfold unsignedMax
    omega
  refine ⟨⟨Checked.target?_eq room, ?_⟩, ?_⟩
  · intro move target targeted
    exact Checked.offset?_eq (near.movedTo targeted).onPage
  · rintro front last fetched rfl answered
    rw [journey_append] at reached
    generalize journey executor front
        (start builder page pageSize pagination, state) = before
      at reached answered
    obtain ⟨earlier, drawn⟩ := before
    cases ran : (last.run executor).runFrom (earlier, drawn) with
    | mk result after =>
        change ((last.run executor).runFrom (earlier, drawn)).2 =
          place at reached
        rw [ran] at reached answered
        dsimp only at reached answered
        subst reached answered
        rcases Move.run_ends ran with
          ⟨-, noPage, -⟩ | ⟨target, -,
            ⟨cause, failed, -⟩ | ⟨other, same, isFetched⟩⟩
        · cases noPage
        · cases failed
        · cases same
          have shows := isFetched.shows
          have total_le := near.total_le fetched.total shows.total_eq
          rw [← shows.page_eq] at room
          refine ⟨announces_of_target ?_
            (shows.nextNumber?_eq near.onPage total_le),
            announces_of_target ?_ shows.previousNumber?_eq,
            Checked.pages?_eq total_le, Checked.nextNumber?_eq total_le room,
            Checked.previousNumber?_eq fetched⟩
          · simp [Page.nextNumber?]
          · simp [Page.previousNumber?]

/-- An executor that answers no rows, and counts as many as can be counted. -/
def vast : Executor Unit where
  fetch _ := return []
  count _ := return unsignedMax

/--
The page starts at the greatest signed integer, and the next one
ends beyond the total.
-/
theorem neighbours_announced_of_vast :
    vast.Representable ∧
    signedMax ≤ signedMax ∧
    [Move.fetch, Move.next].length < 2 ^ 63 ∧
    ∃ fetched after,
      (Move.run vast .next).runFrom
          (journey vast [.fetch] (start namedPersons signedMax 2 {}, ())) =
        (.ok (some fetched), after) ∧
      fetched.page = 2 ^ 63 ∧
      fetched.total = unsignedMax ∧
      unsignedMax < fetched.page * fetched.pageSize ∧
      Announces vast after.1 .next false none ∧
      Announces vast after.1 .previous true (some (2 ^ 63 - 1)) := by
  have representable : vast.Representable := by
    constructor
    · rintro query before items after ⟨⟩
      exact Nat.zero_le unsignedMax
    · rintro query before total after ⟨⟩
      exact Nat.le_refl unsignedMax
  have signed : signedMax ≤ signedMax := Int.le_refl signedMax
  have few : [Move.fetch, Move.next].length < 2 ^ 63 := by decide
  obtain ⟨onward, back, -⟩ :=
    (@neighbours_announced _ vast signedMax 2 [.fetch, .next] representable
      signed few namedPersons {} ()).2 [.fetch] .next _ rfl rfl
  exact ⟨representable, signed, few, _, _, rfl, rfl, rfl, by decide, onward,
    back⟩

end Paginator

end PolyQuery
