import PolyQuery.Proofs.Computation.Except
import PolyQuery.Proofs.Document.Evaluation
import PolyQuery.Proofs.Document.ReorderedValues

namespace PolyQuery

open Json (Reordered collapsed_object_iff collapsed_array_iff)

/-!
# Reordered filters

A document with its members in another order satisfies the same filters, and
fails the others with the same error. A filter may have its entries, the clauses
of its combinations and the members of its operands in another order: as its
evaluation stops early, it may meet an error that the other one does not come
to, but where both answer, they answer alike.
-/

namespace Matching

mutual

/--
The same condition with a reordered operand, or a combination
of reordered clauses.
-/
inductive EntryReordered : String × Json → String × Json → Prop where
  | condition
      {key : String}
      {asked other : Json}
      (combinesNothing : Connective.ofKey? key = none ∨ asked.isArray = false)
      (reordered : asked.Reordered other) :
      EntryReordered (key, asked) (key, other)
  | combination
      {key : String}
      {connective : Connective}
      (combines : Connective.ofKey? key = some connective)
      {clauses arranged others : List Json}
      (alike : List.Forall₂ ClauseReordered clauses arranged)
      (order : arranged.Perm others) :
      EntryReordered (key, .array clauses) (key, .array others)

/-- A filter document with its entries, each reordered itself, in some order. -/
inductive ClauseReordered : Json → Json → Prop where
  | filter
      {filter arranged other : Document}
      (alike : List.Forall₂ EntryReordered filter arranged)
      (order : arranged.Perm other) :
      ClauseReordered (.object filter) (.object other)
  | malformed
      {clause other : Json}
      (noFilter : clause.isObject = false)
      (reordered : clause.Reordered other) :
      ClauseReordered clause other

end

/--
What holds of combinations and filters, if it does of their parts,
holds of all clauses.
-/
theorem ClauseReordered.inductionOn
    (onEntry : String × Json → String × Json → Prop)
    (onClause : Json → Json → Prop)
    (condition :
      ∀ key asked other, Connective.ofKey? key = none ∨ asked.isArray = false →
        asked.Reordered other → onEntry (key, asked) (key, other))
    (combination :
      ∀ key connective clauses arranged others,
        Connective.ofKey? key = some connective →
        List.Forall₂ onClause clauses arranged → arranged.Perm others →
          onEntry (key, .array clauses) (key, .array others))
    (filter :
      ∀ filter arranged other : Document, List.Forall₂ onEntry filter arranged →
        arranged.Perm other → onClause (.object filter) (.object other))
    (malformed :
      ∀ clause other, clause.isObject = false → clause.Reordered other →
        onClause clause other)
    {clause other : Json}
    (reordered : ClauseReordered clause other) :
    onClause clause other :=
  @ClauseReordered.rec (fun first second _ => onEntry first second)
    (fun first second _ => onClause first second)
    (fun first second _ => List.Forall₂ onClause first second)
    (fun first second _ => List.Forall₂ onEntry first second)
    (fun combinesNothing isReordered =>
      condition _ _ _ combinesNothing isReordered)
    (fun combines _ _ _ _ order clausesHold =>
      combination _ _ _ _ _ combines clausesHold order)
    (fun _ order entriesHold => filter _ _ _ entriesHold order)
    (fun noFilter isReordered => malformed _ _ noFilter isReordered)
    .nil (fun _ _ first rest => .cons first rest)
    .nil (fun _ _ first rest => .cons first rest) clause other reordered

end Matching

/--
Filter documents apart only in the order of their entries, clauses
and operands' members.
-/
def Document.FilterReordered
    (filter other : Document) :
    Prop :=
  Matching.ClauseReordered (.object filter) (.object other)

namespace Matching

/--
Evaluations that do not contradict each other: where both
answer, they answer alike.
-/
def Consistent
    (first second : Except QueryError Bool) :
    Prop :=
  ∀ value other, first = .ok value → second = .ok other → value = other

theorem consistent_of_eq
    {first second : Except QueryError Bool}
    (same : first = second) :
    Consistent first second := by
  intro value other answered answeredToo
  exact Except.ok.inj (answered.symm.trans (same.trans answeredToo))

theorem Consistent.map
    {first second : Except QueryError Bool}
    (consistent : Consistent first second)
    (change : Bool → Bool) :
    Consistent (first.map change) (second.map change) := by
  intro value other answered answeredToo
  obtain ⟨held, isHeld, rfl⟩ := Failing.map_eq_ok.mp answered
  obtain ⟨heldToo, isHeldToo, rfl⟩ := Failing.map_eq_ok.mp answeredToo
  exact congrArg change (consistent held heldToo isHeld isHeldToo)

section AllHold

variable
  {α : Type}
  {holds holdsToo : α → Except QueryError Bool}
  {items arranged others : List α}

theorem holds_of_allHold
    (allDo : allHold holds items = .ok true) :
    ∀ item ∈ items, holds item = .ok true := by
  induction items with
  | nil =>
      exact fun _ member => nomatch member
  | cons item rest inductionHypothesis =>
      rw [allHold] at allDo
      split at allDo
      · cases allDo
      · cases allDo
      next itemHolds =>
        exact List.forall_mem_cons.mpr ⟨itemHolds, inductionHypothesis allDo⟩

theorem exists_failing_of_allHold
    (someFails : allHold holds items = .ok false) :
    ∃ item ∈ items, holds item = .ok false := by
  induction items with
  | nil =>
      cases someFails
  | cons item rest inductionHypothesis =>
      rw [allHold] at someFails
      split at someFails
      · cases someFails
      next itemFails =>
        exact ⟨item, List.mem_cons_self, itemFails⟩
      · obtain ⟨failing, member, fails⟩ := inductionHypothesis someFails
        exact ⟨failing, List.mem_cons_of_mem _ member, fails⟩

/-- Items that are evaluated consistently are so in any order. -/
theorem allHold_consistent
    (alike :
      List.Forall₂ (fun item other => Consistent (holds item) (holdsToo other))
        items arranged)
    (order : arranged.Perm others) :
    Consistent (allHold holds items) (allHold holdsToo others) := by
  intro value other answered answeredToo
  match value, other with
  | true, true => rfl
  | false, false => rfl
  | true, false =>
      -- The item that fails on the one side holds on the other.
      obtain ⟨failing, member, fails⟩ := exists_failing_of_allHold answeredToo
      obtain ⟨item, isItem, consistent⟩ :=
        Failing.exists_left_of_mem alike (order.mem_iff.mpr member)
      exact consistent _ _ (holds_of_allHold answered item isItem) fails
  | false, true =>
      obtain ⟨failing, member, fails⟩ := exists_failing_of_allHold answered
      obtain ⟨item, isItem, consistent⟩ :=
        Failing.exists_right_of_mem alike member
      exact consistent _ _ fails
        (holds_of_allHold answeredToo item (order.mem_iff.mp isItem))

end AllHold

/-- A combination is undecided if all of its clauses leave it so. -/
theorem anyDecides_eq_allHold
    (document : Document)
    (connective : Connective)
    (clauses : List Json) :
    anyDecides document connective clauses =
      (allHold
        (fun clause => (clauseHolds document clause).map fun value =>
          !connective.decides value)
        clauses).map not := by
  induction clauses with
  | nil =>
      rfl
  | cons clause rest inductionHypothesis =>
      rw [anyDecides, allHold, inductionHypothesis]
      cases clauseHolds document clause with
      | error => rfl
      | ok value =>
          cases decisive : connective.decides value <;>
            simp [Except.map, decisive]

section ReorderedActual

variable
  {actual actualToo : Option Json}
  (both : Option.Rel Reordered actual actualToo)

include both

theorem equals_actual :
    equals actual = equals actualToo := by
  funext expected
  cases both with
  | none =>
      rfl
  | some reordered =>
      simp only [equals, reordered.same_left]
      cases reordered with
      | refl => rfl
      | object => rfl
      | array alike =>
          congr 1
          induction alike with
          | nil => rfl
          | cons headReordered _ inductionHypothesis =>
              simp only [List.any_cons, headReordered.same_left,
                inductionHypothesis]

theorem ordered_actual :
    ordered actual = ordered actualToo := by
  funext expected accept
  cases both with
  | none => rfl
  | some reordered =>
      simp only [ordered, Option.bind_some, reordered.order?_left]

theorem regexHolds_actual
    (operators : Document) :
    regexHolds operators actual = regexHolds operators actualToo := by
  funext operand
  cases both with
  | none => rfl
  | some reordered => cases reordered <;> rfl

/-- No operator sees the order in which the members of a value stand. -/
theorem operatorHolds_actual
    (operators : Document) :
    operatorHolds operators actual = operatorHolds operators actualToo := by
  funext operator operand
  simp only [operatorHolds, equals_actual both, ordered_actual both,
    regexHolds_actual both, Entries.isSome_eq_of_rel both]

theorem conditionHolds_actual :
    conditionHolds actual = conditionHolds actualToo := by
  funext condition
  simp only [conditionHolds, equals_actual both, operatorHolds_actual both]

end ReorderedActual

section ReorderedDocument

variable {document documentToo : Document}

/--
Documents are alike in the values at their paths, as far as conditions see them.
-/
def AlikeAtPaths
    (document documentToo : Document) :
    Prop :=
  ∀ path,
    conditionHolds (document.lookup? path) =
      conditionHolds (documentToo.lookup? path)

mutual

/--
A filter sees of a document only how the values at its paths meet conditions.
-/
theorem filterHolds_document
    (alike : AlikeAtPaths document documentToo)
    (filter : List (String × Json)) :
    filterHolds document filter = filterHolds documentToo filter := by
  match filter with
  | [] =>
      rfl
  | (key, condition) :: rest =>
      simp only [filterHolds, entryHolds_document alike key condition,
        filterHolds_document alike rest]

theorem entryHolds_document
    (alike : AlikeAtPaths document documentToo)
    (key : String)
    (condition : Json) :
    entryHolds document key condition =
      entryHolds documentToo key condition := by
  cases condition with
  | array clauses =>
      simp only [entryHolds, anyDecides_document alike _ clauses, alike key]
  | _ =>
      simp only [entryHolds, alike key]

theorem anyDecides_document
    (alike : AlikeAtPaths document documentToo)
    (connective : Connective)
    (clauses : List Json) :
    anyDecides document connective clauses =
      anyDecides documentToo connective clauses := by
  match clauses with
  | [] =>
      rfl
  | clause :: rest =>
      simp only [anyDecides, clauseHolds_document alike clause,
        anyDecides_document alike connective rest]

theorem clauseHolds_document
    (alike : AlikeAtPaths document documentToo)
    (clause : Json) :
    clauseHolds document clause = clauseHolds documentToo clause := by
  cases clause with
  | object filter => exact filterHolds_document alike filter
  | _ => rfl

end

end ReorderedDocument

/--
A document satisfies a filter alike, and fails it alike, whatever the
order of its members.
-/
theorem matches_of_reordered_document
    {document other : Document}
    (single : (Json.object document).Collapsed)
    (reordered : (Json.object document).Reordered (.object other))
    (filter : Document) :
    document.matches filter = other.matches filter :=
  filterHolds_document
    (fun path =>
      conditionHolds_actual
        (Path.rel_get? (Path.segments path) reordered single)) filter

section ReorderedOperand

variable
  {operand other : Json}
  (reordered : operand.Reordered other)
  (single : operand.Collapsed)

include reordered single

theorem equals_operand
    (actual : Option Json) :
    equals actual operand = equals actual other := by
  cases actual with
  | none =>
      exact reordered.isNull_eq
  | some value =>
      simp only [equals, reordered.same_right single]

/--
Whether a value is in the list that an operator takes does not depend
on the members' order.
-/
theorem listOperand_operand
    (operator : String)
    (actual : Option Json)
    (change : Bool → Bool) :
    (listOperand operator operand).map
        (fun items => change (items.any (equals actual))) =
      (listOperand operator other).map fun items =>
        change (items.any (equals actual)) := by
  cases reordered with
  | refl => rfl
  | object => rfl
  | array alike =>
      have itemsSingle := collapsed_array_iff.mp single
      simp only [listOperand, Except.map, Except.ok.injEq]
      congr 1
      clear single
      induction alike with
      | nil =>
          rfl
      | cons headReordered _ inductionHypothesis =>
          obtain ⟨headSingle, restSingle⟩ := List.forall_mem_cons.mp itemsSingle
          simp only [List.any_cons, equals_operand headReordered headSingle,
            inductionHypothesis restSingle]

omit single in
theorem ordered_operand
    (actual : Option Json) :
    ordered actual operand = ordered actual other := by
  funext accept
  cases actual with
  | none => rfl
  | some value => simp only [ordered, Option.bind_some, reordered.order?_right]

omit single in
theorem regexHolds_operand
    {operators operatorsToo : Document}
    (sameOptions : optionsBeside operators = optionsBeside operatorsToo)
    (actual : Option Json) :
    regexHolds operators actual operand =
      regexHolds operatorsToo actual other := by
  cases reordered with
  | refl => simp only [regexHolds, sameOptions]
  | array => rfl
  | object => rfl

/--
An operator asks the same of a value if its operand is reordered
and its options stay.
-/
theorem operatorHolds_operand
    {operators operatorsToo : Document}
    (sameOptions : optionsBeside operators = optionsBeside operatorsToo)
    (actual : Option Json)
    (operator : String) :
    operatorHolds operators actual operator operand =
      operatorHolds operatorsToo actual operator other := by
  have sameList := listOperand_operand reordered single operator actual
  unfold operatorHolds
  split
  case h_1 | h_2 =>
    rw [equals_operand reordered single]
  case h_3 | h_4 | h_5 | h_6 =>
    rw [ordered_operand reordered]
  case h_7 =>
    exact sameList id
  case h_8 =>
    exact sameList not
  case h_9 =>
    rw [reordered.bool?_eq]
  case h_10 =>
    exact regexHolds_operand reordered sameOptions actual
  all_goals rfl

omit single in
theorem isOperatorDocument_operand :
    isOperatorDocument operand = isOperatorDocument other := by
  have sameIdentifier := reordered.ofJson?_eq
  cases reordered with
  | refl => rfl
  | array => rfl
  | @object members arranged others names alike order =>
      have sameKeys :=
        Json.keys_perm_of_arranged (Entries.alike_of_keys_eq names alike) order
      have sameMarks :
          (members.all fun member => Operator.isMarked member.1) =
            others.all fun member => Operator.isMarked member.1 := by
        have sameAll := sameKeys.all_eq (f := Operator.isMarked)
        rwa [Entries.keys, Entries.keys, List.all_map, List.all_map] at sameAll
      have sameEmpty : members.isEmpty = others.isEmpty := by
        have isEmpty := sameKeys.isEmpty_eq
        rwa [Entries.keys, Entries.keys, List.isEmpty_map, List.isEmpty_map]
          at isEmpty
      simp only [isOperatorDocument, sameEmpty, sameMarks, sameIdentifier]

/-- A reordered condition does not contradict the condition. -/
theorem conditionHolds_operand
    (actual : Option Json) :
    Consistent (conditionHolds actual operand)
      (conditionHolds actual other) := by
  have sameKind := isOperatorDocument_operand reordered
  unfold conditionHolds
  rw [← sameKind]
  split
  next isOperators =>
    cases operand with
    | object members =>
        cases other with
        | object others =>
            obtain ⟨distinct, inside⟩ := collapsed_object_iff.mp single
            obtain ⟨arranged, alike, order⟩ := reordered.members
            have sameOptions :
                optionsBeside members = optionsBeside others := by
              unfold optionsBeside
              rcases Entries.missing_or_found_of_rel
                  (Json.rel_get?_of_arranged alike order distinct
                    "$options") with
                ⟨missing, missingToo⟩ | ⟨letters, lettersToo, found, foundToo,
                  same⟩
              · rw [missing, missingToo]
              · rw [found, foundToo, Option.bind_some, Option.bind_some,
                  same.string?_eq]
            have inPlace :=
              (List.forall₂_and_left members arranged).mpr ⟨inside, alike⟩
            refine allHold_consistent
              (inPlace.imp fun entry entryToo entryAlike => ?_) order
            obtain ⟨entrySingle, sameOperator, sameOperand⟩ := entryAlike
            rw [← sameOperator]
            exact consistent_of_eq
              (operatorHolds_operand sameOperand entrySingle sameOptions actual
                entry.1)
        | _ => cases reordered
    | _ => cases isOperators
  next =>
    rw [equals_operand reordered single]
    exact consistent_of_eq rfl

end ReorderedOperand

theorem entryHolds_of_noConnective
    {key : String}
    (noConnective : Connective.ofKey? key = none)
    (document : Document)
    (condition : Json) :
    entryHolds document key condition =
      if Operator.isMarked key then
        .error (.invalidFilterOperator key)
      else
        conditionHolds (document.lookup? key) condition := by
  cases condition <;> simp only [entryHolds, noConnective]

theorem entryHolds_of_noList
    {key : String}
    {connective : Connective}
    (combines : Connective.ofKey? key = some connective)
    {condition : Json}
    (noList : condition.isArray = false)
    (document : Document) :
    entryHolds document key condition =
      .error (.invalidOperand key key "expected a list of documents") := by
  cases condition with
  | array => cases noList
  | _ => simp only [entryHolds, combines]

/--
A reordered clause is a filter document if the clause is, and
does not contradict it.
-/
theorem ClauseReordered.consistent
    {clause other : Json}
    (reordered : ClauseReordered clause other)
    (document : Document) :
    clause.isObject = other.isObject ∧
      (clause.Collapsed →
        Consistent (clauseHolds document clause)
          (clauseHolds document other)) := by
  refine reordered.inductionOn
    (fun entry entryToo =>
      entry.2.Collapsed →
        Consistent (entryHolds document entry.1 entry.2)
          (entryHolds document entryToo.1 entryToo.2))
    (fun clause other =>
      clause.isObject = other.isObject ∧
        (clause.Collapsed →
          Consistent (clauseHolds document clause)
            (clauseHolds document other)))
    ?condition ?combination ?filter ?malformed
  case condition =>
    intro key asked other combinesNothing inside single
    cases named : Connective.ofKey? key with
    | none =>
        rw [entryHolds_of_noConnective named, entryHolds_of_noConnective named]
        split
        · exact consistent_of_eq rfl
        · exact conditionHolds_operand inside single _
    | some connective =>
        have noList : asked.isArray = false :=
          combinesNothing.resolve_left
            (by rw [named]; exact Option.some_ne_none _)
        have noListToo : other.isArray = false := by
          cases inside with
          | array => cases noList
          | _ => exact noList
        rw [entryHolds_of_noList named noList,
          entryHolds_of_noList named noListToo]
        exact consistent_of_eq rfl
  case combination =>
    intro key connective clauses arranged others combines alike order single
    have clausesSingle := collapsed_array_iff.mp single
    have sameObjects :
        clauses.all Json.isObject = others.all Json.isObject := by
      rw [← order.all_eq]
      clear order single clausesSingle
      induction alike with
      | nil => rfl
      | cons headAlike _ inductionHypothesis =>
          rw [List.all_cons, List.all_cons, headAlike.1, inductionHypothesis]
    simp only [entryHolds, combines, sameObjects]
    split
    · simp only [anyDecides_eq_allHold]
      have inPlace :=
        (List.forall₂_and_left clauses arranged).mpr ⟨clausesSingle, alike⟩
      refine Consistent.map (Consistent.map (allHold_consistent ?_ order) _) _
      exact inPlace.imp fun _ _ both => (both.2.2 both.1).map _
    · exact consistent_of_eq rfl
  case filter =>
    intro filter arranged other alike order
    refine ⟨rfl, fun single => ?_⟩
    have inside := (collapsed_object_iff.mp single).2
    have inPlace := (List.forall₂_and_left filter arranged).mpr ⟨inside, alike⟩
    rw [clauseHolds, clauseHolds, filterHolds_eq_allHold,
      filterHolds_eq_allHold]
    exact allHold_consistent (inPlace.imp fun _ _ both => both.2 both.1) order
  case malformed =>
    intro clause other noFilter inside
    cases inside with
    | refl => exact ⟨rfl, fun _ => consistent_of_eq rfl⟩
    | array => exact ⟨rfl, fun _ => consistent_of_eq rfl⟩
    | object => cases noFilter

end Matching

open Matching

/--
Matching does not depend on the order of names.

A document whose members stand in another order, on any level, satisfies and
fails the same filters, with the same errors. A filter whose entries, clauses
and members of operands stand in another order does not contradict the filter:
where both are evaluated, they hold alike.
-/
theorem Document.matches_ignores_order
    (document filter : Document) :
    (∀ reordered : Document,
        (Json.object document).Collapsed →
        (Json.object document).Reordered (.object reordered) →
        reordered.matches filter = document.matches filter) ∧
      (∀ reordered : Document,
        (Json.object filter).Collapsed →
        filter.FilterReordered reordered →
        ∀ held heldToo,
          document.matches filter = .ok held →
          document.matches reordered = .ok heldToo →
          held = heldToo) := by
  constructor
  · intro reordered single isReordered
    exact (matches_of_reordered_document single isReordered filter).symm
  · intro reordered single isReordered held heldToo
    exact (isReordered.consistent document).2 single held heldToo

/-- A place, and the same with its coordinates the other way round. -/
def place : Json :=
  .object [("x", .ofInt 1), ("y", .ofInt 2)]

def turnedPlace : Json :=
  .object [("y", .ofInt 2), ("x", .ofInt 1)]

theorem place_reordered :
    place.Reordered turnedPlace := by
  refine .object ?_ ?_ (.swap _ _ _)
  · rfl
  · exact .cons (.refl _) (.cons (.refl _) .nil)

/-- A person at a place. -/
def placedPerson : Document :=
  [("name", .string "Ada"), ("at", place)]

def turnedPerson : Document :=
  [("at", turnedPlace), ("name", .string "Ada")]

/-- Asks for a name, and for another name or a place. -/
def placeFilter : Document :=
  [("$or", .array [.object [("name", .string "Eve")], .object [("at", place)]]),
    ("name", .string "Ada")]

def turnedFilter : Document :=
  [("name", .string "Ada"),
    ("$or",
      .array
        [.object [("at", turnedPlace)], .object [("name", .string "Eve")]])]

theorem placedPerson_reordered :
    (Json.object placedPerson).Reordered (.object turnedPerson) := by
  refine .object ?_ ?_ (.swap _ _ _)
  · rfl
  · exact .cons (.refl _) (.cons place_reordered .nil)

theorem placeFilter_reordered :
    placeFilter.FilterReordered turnedFilter := by
  have named :
      ClauseReordered (.object [("name", .string "Eve")])
        (.object [("name", .string "Eve")]) :=
    .filter (.cons (.condition (.inl rfl) (.refl _)) .nil) (.refl _)
  have placed :
      ClauseReordered (.object [("at", place)])
        (.object [("at", turnedPlace)]) :=
    .filter (.cons (.condition (.inl rfl) place_reordered) .nil) (.refl _)
  refine .filter (.cons ?combination (.cons ?condition .nil)) (.swap _ _ _)
  case combination =>
    exact .combination rfl (.cons named (.cons placed .nil)) (.swap _ _ _)
  case condition =>
    exact .condition (.inl rfl) (.refl _)

theorem Document.matches_ignores_order_of_places :
    (Json.object placedPerson).Collapsed ∧
      (Json.object placedPerson).Reordered (.object turnedPerson) ∧
      turnedPerson.matches placeFilter = placedPerson.matches placeFilter ∧
      (Json.object placeFilter).Collapsed ∧
      placeFilter.FilterReordered turnedFilter ∧
      placedPerson.matches placeFilter = .ok true ∧
      placedPerson.matches turnedFilter = .ok true := by
  have single : (Json.object placedPerson).Collapsed := by decide
  have filterSingle : (Json.object placeFilter).Collapsed := by decide
  have held : placedPerson.matches placeFilter = .ok true := by decide
  obtain ⟨heldToo, isHeld⟩ :
      ∃ heldToo, placedPerson.matches turnedFilter = .ok heldToo :=
    ⟨true, by decide⟩
  obtain ⟨ofDocuments, ofFilters⟩ :=
    Document.matches_ignores_order placedPerson placeFilter
  have same : true = heldToo :=
    ofFilters turnedFilter filterSingle placeFilter_reordered true heldToo held
      isHeld
  exact ⟨single, placedPerson_reordered,
    ofDocuments turnedPerson single placedPerson_reordered, filterSingle,
    placeFilter_reordered, held, same ▸ isHeld⟩

end PolyQuery
