import PolyQuery.Proofs.Document.ExactDeletes

namespace PolyQuery

/-!
# Exact updates

An update that succeeds and inserts nothing puts what its changes make of them
in the place of the documents that its filter holds of, all of them or the first
one only, and counts those that came out different.

An update that fails stops at a document. Those before it keep what was made of
them, those behind it are not looked at, and the document itself has the changes
that stand before the failing one, as if they had been asked for alone. Only
where the failure comes from the insert that an upsert ends with, and so no
document satisfied the filter, is the collection what it was.
-/

namespace Update

/--
The part of an update before one of its changes, or before an
operator that has none.
-/
inductive Cut
    (changes : Document) :
    Document →
    Prop where
  | atChange
      {front rest : Document}
      {operator path : String}
      {operand : Json}
      {earlier later : List (String × Json)}
      (places :
        changes =
          front ++
            (operator, .object (earlier ++ (path, operand) :: later)) :: rest) :
      Cut changes (front ++ [(operator, .object earlier)])
  | atOperator
      {front rest : Document}
      {operator : String}
      {fields : Json}
      (places : changes = front ++ (operator, fields) :: rest)
      (misshapen : fields.isObject = false) :
      Cut changes front

theorem Cut.cons
    {changes part : Document}
    (isCut : Cut changes part)
    (first : String × Json) :
    Cut (first :: changes) (first :: part) := by
  cases isCut with
  | @atChange front _ _ _ _ _ _ places =>
      have later : first :: changes = (first :: front) ++ _ :=
        congrArg (List.cons first) places
      have isCut := Cut.atChange later
      exact isCut
  | atOperator places misshapen =>
      exact .atOperator (congrArg (List.cons first) places) misshapen

theorem Cut.within
    (operator path : String)
    (operand : Json)
    (earlier later : List (String × Json))
    (rest : Document) :
    Cut ((operator, .object (earlier ++ (path, operand) :: later)) :: rest)
      [(operator, .object earlier)] := by
  have places :
      (operator, .object (earlier ++ (path, operand) :: later)) :: rest =
        [] ++
          (operator, .object (earlier ++ (path, operand) :: later)) :: rest :=
    rfl
  exact .atChange places

theorem Cut.first
    {fields : Json}
    (misshapen : fields.isObject = false)
    (operator : String)
    (rest : Document) :
    Cut ((operator, fields) :: rest) [] := by
  have places : (operator, fields) :: rest = [] ++ (operator, fields) :: rest :=
    rfl
  exact .atOperator places misshapen

section Failures

variable
  {inserting : Bool}
  {operator : String}
  {cause : QueryError}
  {state after : Document × Supply}

/-- A change that fails changes nothing. -/
theorem changeAt_of_error
    {path : String}
    {operand : Json}
    (failed :
      (changeAt inserting operator path operand).runFrom state =
        (.error cause, after)) :
    after = state := by
  simp only [changeAt, Stateful.runFrom_bind, Stateful.runFrom_get] at failed
  split at failed
  · cases failed
  · split at failed
    · cases failed
    · cases failed
      rfl

/--
The changes of an operator that fail do so at one of them,
after those before it.
-/
theorem applyPaths_of_error
    {changes : List (String × Json)}
    (failed :
      (applyPaths inserting operator changes).runFrom state =
        (.error cause, after)) :
    ∃ earlier path operand later,
      changes = earlier ++ (path, operand) :: later ∧
        (applyPaths inserting operator earlier).runFrom state =
          (.ok (), after) := by
  induction changes generalizing state with
  | nil =>
      cases failed
  | cons change rest inductionHypothesis =>
      obtain ⟨path, operand⟩ := change
      rcases Stateful.runFrom_bind_eq_error failed with
        failedHere | ⟨⟨⟩, reached, changed, failedLater⟩
      · have unchanged := changeAt_of_error failedHere
        subst unchanged
        exact ⟨[], path, operand, rest, rfl, rfl⟩
      · obtain ⟨earlier, latePath, lateOperand, later, rfl, applied⟩ :=
          inductionHypothesis failedLater
        refine ⟨(path, operand) :: earlier, latePath, lateOperand, later, rfl,
          ?_⟩
        rw [applyPaths, Stateful.runFrom_bind, changed]
        exact applied

/--
An operator with an object of fields makes its changes before the
operators behind it.
-/
theorem apply_cons_object
    (operator : String)
    (changes : List (String × Json))
    (rest : Document)
    (state : Document × Supply) :
    (apply inserting ((operator, .object changes) :: rest)).runFrom state =
      match (applyPaths inserting operator changes).runFrom state with
      | (.ok _, changed) => (apply inserting rest).runFrom changed
      | (.error cause, changed) => (.error cause, changed) := by
  refine
    (Stateful.runFrom_bind (applyPaths inserting operator changes)
      (fun _ => apply inserting rest) state).trans ?_
  cases (applyPaths inserting operator changes).runFrom state with
  | mk result changed =>
      cases result <;> rfl

/--
An update that fails leaves what the part before the failing change
makes of the document.
-/
theorem apply_of_error
    {changes : Document}
    (failed : (apply inserting changes).runFrom state = (.error cause, after)) :
    ∃ part,
      Cut changes part ∧
        (apply inserting part).runFrom state = (.ok (), after) := by
  induction changes generalizing state with
  | nil =>
      cases failed
  | cons entry rest inductionHypothesis =>
      obtain ⟨operator, fields⟩ := entry
      cases fields with
      | object changes =>
          rcases Stateful.runFrom_bind_eq_error failed with
            failedHere | ⟨⟨⟩, reached, changed, failedLater⟩
          · obtain ⟨earlier, path, operand, later, rfl, applied⟩ :=
              applyPaths_of_error failedHere
            refine ⟨_, .within operator path operand earlier later rest, ?_⟩
            rw [apply_cons_object, applied]
            rfl
          · obtain ⟨part, isCut, applied⟩ := inductionHypothesis failedLater
            refine ⟨_, isCut.cons _, ?_⟩
            rw [apply_cons_object, changed]
            exact applied
      | _ =>
          cases failed
          exact ⟨[], .first rfl operator rest, rfl⟩

end Failures

end Update

namespace Collection

/-- Whether a document came out different from what it was. -/
def differs
    (change : Document × Document) :
    Bool :=
  !(Json.object change.2).same (.object change.1)

/-- Whether a filter held of a document before its change. -/
def wasMet
    (filter : Document)
    (change : Document × Document) :
    Bool :=
  meets filter change.1

/-- How many of the documents that an update affects came out different. -/
def modifiedCount
    (filter : Document)
    (many : Bool)
    (before : List Document)
    (after : List Document) :
    Nat :=
  (picked many (wasMet filter) (before.zip after)).countP differs

section Counting

variable
  {filter document changed : Document}
  {many : Bool}
  {rest after : List Document}

theorem modifiedCount_cons_of_spared
    (spared : JudgedBy filter document false) :
    modifiedCount filter many (document :: rest) (changed :: after) =
      modifiedCount filter many rest after := by
  have fails : wasMet filter (document, changed) = false :=
    meets_of_judgedBy spared
  rw [modifiedCount, List.zip_cons_cons, picked_cons_of_failing _ fails,
    modifiedCount]

theorem modifiedCount_cons_of_chosen
    (chosen : JudgedBy filter document true) :
    modifiedCount filter many (document :: rest) (changed :: after) =
      (if differs (document, changed) then 1 else 0) +
        if many then modifiedCount filter many rest after else 0 := by
  have isPassing : wasMet filter (document, changed) = true :=
    meets_of_judgedBy chosen
  rw [modifiedCount, List.zip_cons_cons, picked_cons_of_passing _ isPassing,
    List.countP_cons, Nat.add_comm]
  cases many <;> rfl

end Counting

/--
An update that succeeds counts the affected documents that came out different.
-/
theorem modified_of_updateMatching
    {filter changes : Document}
    {many : Bool}
    {documents after : List Document}
    {tally total : Tally}
    {supply left : Supply}
    (ran :
      updateMatching filter changes many documents tally supply =
        (.ok total, after, left)) :
    total.modified =
      tally.modified + modifiedCount filter many documents after := by
  induction documents generalizing tally supply after with
  | nil =>
      cases ran
      cases many <;> rfl
  | cons document rest inductionHypothesis =>
      unfold updateMatching at ran
      split at ran
      next =>
        cases ran
      next spared =>
        cases continued :
            updateMatching filter changes many rest tally supply with
        | mk result further =>
            obtain ⟨others, drawn⟩ := further
            rw [continued] at ran
            cases ran
            rw [modifiedCount_cons_of_spared spared]
            exact inductionHypothesis continued
      next chosen =>
        split at ran
        next =>
          cases ran
        next changed drawn applied =>
          have told :
              (!(Json.object changed).same (.object document)) =
                differs (document, changed) :=
            rfl
          rw [told] at ran
          cases many with
          | false =>
              cases ran
              rw [modifiedCount_cons_of_chosen chosen]
              rfl
          | true =>
              rw [if_pos rfl] at ran
              dsimp only at ran
              cases continued :
                  updateMatching filter changes true rest
                    ⟨tally.matched + 1,
                      tally.modified +
                        if differs (document, changed) then 1 else 0⟩
                    drawn with
              | mk result further =>
                  obtain ⟨others, further⟩ := further
                  rw [continued] at ran
                  cases ran
                  rw [modifiedCount_cons_of_chosen chosen,
                    inductionHypothesis continued, if_pos rfl, Nat.add_assoc]

/--
How an update fails on a document: its filter does, or a change behind
a part of the update.
-/
inductive FailsOn
    (filter changes : Document)
    (cause : QueryError)
    (document : Document)
    (supply : Supply) :
    Document →
    Supply →
    Prop where
  | unjudged
      (fails : document.matches filter = .error cause) :
      FailsOn filter changes cause document supply document supply
  | halfway
      {part broken : Document}
      {left : Supply}
      (chosen : JudgedBy filter document true)
      (failed :
        applyTo false changes document supply = (.error cause, broken, left))
      (isCut : Update.Cut changes part)
      (applied : applyTo false part document supply = (.ok (), broken, left)) :
      FailsOn filter changes cause document supply broken left

theorem failsOn_of_applyTo
    {filter changes document broken : Document}
    {cause : QueryError}
    {supply left : Supply}
    (chosen : JudgedBy filter document true)
    (failed :
      applyTo false changes document supply = (.error cause, broken, left)) :
    FailsOn filter changes cause document supply broken left := by
  obtain ⟨part, isCut, applied⟩ := Update.apply_of_error failed
  exact .halfway chosen failed isCut applied

/--
An update stops at a document after it has affected the documents before it.
-/
inductive Stopped
    (filter changes : Document)
    (many : Bool)
    (cause : QueryError)
    (before : List Document)
    (supply : Supply) :
    List Document →
    Supply →
    Prop where
  | atDocument
      {touched front frontAfter rest : List Document}
      {document broken : Document}
      {drawn left : Supply}
      (places : before = front ++ document :: rest)
      (affected :
        Affected (JudgedBy filter) (ChangedBy changes) many touched front supply
          frontAfter drawn)
      (goesOn : many = true ∨ touched = [])
      (fails : FailsOn filter changes cause document drawn broken left) :
      Stopped filter changes many cause before supply
        (frontAfter ++ broken :: rest) left

section Stops

variable
  {filter changes : Document}
  {many : Bool}
  {cause : QueryError}
  {document broken : Document}
  {rest after : List Document}
  {supply left : Supply}

theorem Stopped.first
    (fails : FailsOn filter changes cause document supply broken left) :
    Stopped filter changes many cause (document :: rest) supply (broken :: rest)
      left := by
  have nobody :
      Affected (JudgedBy filter) (ChangedBy changes) many [] [] supply []
        supply := .none
  have places : document :: rest = [] ++ document :: rest := rfl
  have stopped := Stopped.atDocument places nobody (.inr rfl) fails
  exact stopped

theorem Stopped.passedOver
    (spared : JudgedBy filter document false)
    (stopped : Stopped filter changes many cause rest supply after left) :
    Stopped filter changes many cause (document :: rest) supply
      (document :: after) left := by
  cases stopped with
  | @atDocument _ front _ _ _ _ _ _ places affected goesOn fails =>
      have later : document :: rest = (document :: front) ++ _ :=
        congrArg (List.cons document) places
      have stopped :=
        Stopped.atDocument later (.passedOver spared affected) goesOn fails
      exact stopped

theorem Stopped.taken
    {changed : Document}
    {drawn : Supply}
    (chosen : JudgedBy filter document true)
    (applied : applyTo false changes document supply = (.ok (), changed, drawn))
    (stopped : Stopped filter changes true cause rest drawn after left) :
    Stopped filter changes true cause (document :: rest) supply
      (changed :: after) left := by
  cases stopped with
  | @atDocument _ front _ _ _ _ _ _ places affected goesOn fails =>
      have later : document :: rest = (document :: front) ++ _ :=
        congrArg (List.cons document) places
      have becomes : ChangedBy changes document supply [changed] drawn :=
        ⟨changed, rfl, applied⟩
      have stopped :=
        Stopped.atDocument later (.taken rfl chosen becomes affected) (.inl rfl)
          fails
      exact stopped

end Stops

/--
An update that fails among the documents of a collection stops at one of them.
-/
theorem stopped_of_updateMatching
    {filter changes : Document}
    {many : Bool}
    {documents after : List Document}
    {tally : Tally}
    {supply left : Supply}
    {cause : QueryError}
    (ran :
      updateMatching filter changes many documents tally supply =
        (.error cause, after, left)) :
    Stopped filter changes many cause documents supply after left := by
  induction documents generalizing tally supply after with
  | nil =>
      cases ran
  | cons document rest inductionHypothesis =>
      unfold updateMatching at ran
      split at ran
      next other fails =>
        cases ran
        exact .first (.unjudged fails)
      next spared =>
        cases continued :
            updateMatching filter changes many rest tally supply with
        | mk result further =>
            obtain ⟨others, drawn⟩ := further
            rw [continued] at ran
            cases ran
            exact .passedOver spared (inductionHypothesis continued)
      next chosen =>
        split at ran
        next other changed drawn failed =>
          cases ran
          exact .first (failsOn_of_applyTo chosen failed)
        next changed drawn applied =>
          cases many with
          | false =>
              cases ran
          | true =>
              rw [if_pos rfl] at ran
              generalize
                (if !(Json.object changed).same (.object document) then
                    1
                  else
                    0) = increment
                  at ran
              cases continued :
                  updateMatching filter changes true rest
                    ⟨tally.matched + 1, tally.modified + increment⟩ drawn with
              | mk result further =>
                  obtain ⟨others, further⟩ := further
                  rw [continued] at ran
                  cases ran
                  exact .taken chosen applied (inductionHypothesis continued)

/-- An update puts one document in the place of each. -/
theorem Affected.length_eq
    {judged : Document → Bool → Prop}
    {changes : Document}
    {many : Bool}
    {touched before after : List Document}
    {supply left : Supply}
    (affected :
      Affected judged (ChangedBy changes) many touched before supply after
        left) :
    after.length = before.length := by
  induction affected with
  | none =>
      rfl
  | passedOver _ _ inductionHypothesis =>
      simp [inductionHypothesis]
  | taken _ _ becomes _ inductionHypothesis =>
      obtain ⟨changed, rfl, -⟩ := becomes
      simp [inductionHypothesis]
  | only _ _ becomes =>
      obtain ⟨changed, rfl, -⟩ := becomes
      simp

/-- How an update that succeeds and inserts nothing ends. -/
structure Exact
    (filter changes : Document)
    (many : Bool)
    (before : List Document)
    (supply : Supply)
    (outcome : Outcome)
    (after : List Document)
    (left : Supply) :
    Prop where
  /--
  What the whole update makes of them stands for the documents that
  the filter holds of.
  -/
  affected :
    Affected (JudgedBy filter) (ChangedBy changes) many
      (picked many (meets filter) before) before supply after left
  /-- No document is lost, and none joins. -/
  sameLength : after.length = before.length
  matched : outcome.matched = (picked many (meets filter) before).length
  modified : outcome.modified = modifiedCount filter many before after
  told : outcome.affected = outcome.modified

theorem exact_of_updateMatching
    {filter changes : Document}
    {many : Bool}
    {before after : List Document}
    {total : Tally}
    {supply left : Supply}
    (ran :
      updateMatching filter changes many before {} supply =
        (.ok total, after, left)) :
    Exact filter changes many before supply
      { affected := total.modified, matched := total.matched,
        modified := total.modified }
      after left := by
  obtain ⟨touched, counted, affected⟩ := affected_of_updateMatching ran
  have met :
      Affected (fun document holds => meets filter document = holds)
        (ChangedBy changes) many touched before supply after left :=
    affected.imp fun document _ holds judged => meets_of_judgedBy judged
  have isPicked : touched = picked many (meets filter) before := met.touched_eq
  subst isPicked
  have modified := modified_of_updateMatching ran
  rw [Nat.zero_add] at counted modified
  exact {
    affected := affected
    sameLength := affected.length_eq
    matched := counted
    modified := modified
    told := rfl
  }

/--
An update is exact, or it stops halfway.

If it succeeds without an insert, the documents that the filter holds of, all of
them or the first, have what the whole update makes of them in their place, and
both counts are right. If it fails, it stops at a document, and what it did
before stays; or it fails to insert what no document could be changed into, and
then the documents are what they were.
-/
theorem update_exact_or_stopped
    (filter changes : Document)
    (many upserting : Bool)
    (collection : Collection)
    (supply : Supply) :
    ∃ result remaining left,
      (update filter changes many upserting).runFrom (collection, supply) =
          (result, ({ collection with documents := remaining }, left)) ∧
        (∀ outcome, result = .ok outcome → outcome.upsertedId = none →
          Exact filter changes many collection.documents supply outcome
            remaining left) ∧
        ∀ cause, result = .error cause →
          Stopped filter changes many cause collection.documents supply
              remaining left ∨
            upserting = true ∧
              (∀ document ∈ collection.documents,
                JudgedBy filter document false) ∧
                remaining = collection.documents := by
  simp only [update, Stateful.runFrom_bind, Stateful.runFrom_get,
    Stateful.runFrom_set, Stateful.runFrom_ofExcept]
  cases ran :
      updateMatching filter changes many collection.documents {} supply with
  | mk result further =>
      obtain ⟨documents, drawn⟩ := further
      cases result with
      | error cause =>
          refine ⟨_, documents, drawn, rfl, by rintro _ ⟨⟩, ?_⟩
          intro _ same
          cases same
          exact .inl (stopped_of_updateMatching ran)
      | ok total =>
          have exactly := exact_of_updateMatching ran
          dsimp only
          split
          next unmatched =>
            rw [Bool.and_eq_true, decide_eq_true_eq] at unmatched
            obtain ⟨noneMatched, isUpsert⟩ := unmatched
            have noneTouched :
                picked many (meets filter) collection.documents = [] :=
              List.length_eq_zero_iff.mp
                (exactly.matched.symm.trans noneMatched)
            obtain ⟨unchanged, nothingDrawn, spared⟩ :=
              exactly.affected.of_none noneTouched
            subst unchanged nothingDrawn
            rw [Stateful.runFrom_bind]
            cases upserted :
                (upsert filter changes).runFrom
                  ({ collection with documents := collection.documents },
                    drawn) with
            | mk answer reached =>
                obtain ⟨changed, further⟩ := reached
                cases answer with
                | error cause =>
                    rw [upsert_of_error upserted]
                    refine ⟨.error cause, collection.documents, further, rfl,
                      by rintro _ ⟨⟩, ?_⟩
                    intro _ _
                    exact .inr ⟨isUpsert, spared, rfl⟩
                | ok identifier =>
                    have sameName :=
                      upsert_keeps_name filter changes collection.name
                        (collection, drawn) rfl
                    rw [upserted] at sameName
                    dsimp only at sameName
                    rw [← sameName]
                    refine ⟨_, changed.documents, further, rfl, ?_,
                      by rintro _ ⟨⟩⟩
                    intro _ same noneInserted
                    cases same
                    cases noneInserted
          next =>
            refine ⟨_, documents, drawn, rfl, ?_, by rintro _ ⟨⟩⟩
            intro _ same _
            cases same
            exact exactly

/-- Two persons, the second of whom has a name. -/
def namedPerson : Collection :=
  {
    name := "person"
    documents := [
      [("_id", .ofInt 1)],
      [("_id", .ofInt 2), ("name", .string "Ada")]]
  }

/--
A mark for a person, and an addition that only a missing or a
numeric name allows.
-/
def markAndAdd : Document :=
  [("$set", .object [("seen", .bool true)]),
    ("$inc", .object [("name", .ofInt 1)])]

/--
An update that fails on the second document keeps all that it changed in the
first one, and the first half of what it was to change in the second.
-/
theorem failing_update_keeps_changes :
    (update [] markAndAdd true false).runFrom (namedPerson, Store.firstSupply) =
      (.error (.invalidOperand "name" "$inc" "expected numbers"),
        ({
          name := "person"
          documents := [
            [("_id", .ofInt 1), ("seen", .bool true), ("name", .ofInt 1)],
            [("_id", .ofInt 2), ("name", .string "Ada"), ("seen", .bool true)]]
        }, Store.firstSupply)) :=
  rfl

end Collection

end PolyQuery
