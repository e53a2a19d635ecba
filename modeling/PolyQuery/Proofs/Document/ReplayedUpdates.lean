import PolyQuery.Proofs.Document.AffectedDocuments
import PolyQuery.Proofs.Document.PlainKeys
import PolyQuery.Proofs.Document.PlainUpdates

namespace PolyQuery

open Failing

/-!
# Replayed updates

An update that only sets and unsets values decides what shows at a route by its
last change that does not leave the route alone, whatever the document was. If
no change touches the route, what shows there stays. So the update changes
nothing in a document that it has been applied to, even if its paths lead
through one another, through lists or through scalars.

Run again on a collection, such an update meets documents that it did not hold
of before, which it passes over again, and documents that it was applied to. Of
these it may fail to judge one; those that it applies to once more stay what
they were.
-/

namespace Update

namespace Step

/--
What setting or unsetting a value shows at a route, unless it
leaves the route alone.
-/
def shows?
    (step : Step)
    (route : List String) :
    Option (Option Json) :=
  if step.operator = "$set" then
    Path.writes? (Path.segments step.path) step.operand route
  else
    Path.removes? (Path.segments step.path) route

end Step

/--
What the last of some changes that does not leave a route alone shows there.
-/
def lastShown? :
    List Step →
    List String →
    Option (Option Json)
  | [], _ => none
  | step :: rest, route => (lastShown? rest route).or (step.shows? route)

section Edits

variable
  {changes : List Step}
  {document : Document}

theorem collapsed_edit
    {step : Step}
    (single : (Json.object document).Collapsed)
    (operandSingle : step.operand.Collapsed) :
    (Json.object (step.edit document)).Collapsed := by
  unfold Step.edit
  split
  · exact Path.collapsed_set single operandSingle _
  · exact Path.collapsed_removed single _

/--
A change shows what it shows of any document, or leaves what showed before.
-/
theorem shown?_edit
    (single : (Json.object document).Collapsed)
    (step : Step)
    (route : List String) :
    Path.shown? route (.object (step.edit document)) =
      (step.shows? route).getD (Path.shown? route (.object document)) := by
  unfold Step.edit Step.shows?
  split
  · exact Path.shown?_set (Path.segments_ne_nil step.path) step.operand route
      document
  · exact Path.shown?_removed (Path.segments_ne_nil step.path) single route

theorem collapsed_edited
    (single : (Json.object document).Collapsed)
    (operandsSingle : ∀ step ∈ changes, step.operand.Collapsed) :
    (Json.object (edited changes document)).Collapsed := by
  induction changes generalizing document with
  | nil =>
      exact single
  | cons step rest inductionHypothesis =>
      obtain ⟨operandSingle, restSingle⟩ :=
        List.forall_mem_cons.mp operandsSingle
      exact inductionHypothesis (collapsed_edit single operandSingle) restSingle

/--
Changes one after the other show what the last one that touches
a route shows there.
-/
theorem shown?_edited
    (single : (Json.object document).Collapsed)
    (operandsSingle : ∀ step ∈ changes, step.operand.Collapsed)
    (route : List String) :
    Path.shown? route (.object (edited changes document)) =
      (lastShown? changes route).getD
        (Path.shown? route (.object document)) := by
  induction changes generalizing document with
  | nil =>
      rfl
  | cons step rest inductionHypothesis =>
      obtain ⟨operandSingle, restSingle⟩ :=
        List.forall_mem_cons.mp operandsSingle
      have shown :=
        inductionHypothesis (collapsed_edit single operandSingle) restSingle
      rw [shown?_edit single step route] at shown
      rw [lastShown?]
      refine shown.trans ?_
      cases lastShown? rest route <;> rfl

/-- A document to which changes have been made is not changed by them again. -/
theorem edited_again_same
    (single : (Json.object document).Collapsed)
    (operandsSingle : ∀ step ∈ changes, step.operand.Collapsed) :
    (Json.object (edited changes (edited changes document))).same
      (.object (edited changes document)) = true := by
  have onceSingle := collapsed_edited single operandsSingle
  apply Path.same_of_shown _ _ (collapsed_edited onceSingle operandsSingle)
    onceSingle
  intro route
  -- the last change that touches the route decides, and without one nothing
  -- happens there
  rw [shown?_edited onceSingle operandsSingle,
    shown?_edited single operandsSingle]
  cases lastShown? changes route <;> rfl

end Edits

/-- No operand of an update that repeats no name repeats one. -/
theorem operands_collapsed
    {changes : Document}
    (single : (Json.object changes).Collapsed) :
    ∀ step ∈ steps changes, step.operand.Collapsed := by
  intro step member
  obtain ⟨⟨operator, fields⟩, isEntry, isStep⟩ := List.mem_flatMap.mp member
  have fieldsSingle := (Json.collapsed_object_iff.mp single).2 _ isEntry
  cases fields with
  | object paths =>
      obtain ⟨change, isChange, rfl⟩ := List.mem_map.mp isStep
      exact (Json.collapsed_object_iff.mp fieldsSingle).2 change isChange
  | _ =>
      cases isStep

end Update

namespace Collection

/--
The first document has become the second one, which differs from
it in order at most.
-/
def KeepsMembers
    (before after : Document) :
    Prop :=
  (Json.object after).same (.object before) = true

/--
An update, where its filter holds of a document, makes nothing else of it.
-/
def IsIdle
    (filter changes document : Document) :
    Prop :=
  document.matches filter = .ok true →
    ∃ again,
      KeepsMembers document again ∧
        ∀ supply,
          applyTo false changes document supply = (.ok (), again, supply)

/--
How a run of an update ends that changes no document, though it
may fail to judge one.
-/
structure ChangesNothing
    (filter : Document)
    (documents : List Document)
    (modified : Nat)
    (result : Except QueryError Tally)
    (after : List Document) :
    Prop where
  kept : List.Forall₂ KeepsMembers documents after
  unmodified : ∀ total, result = .ok total → total.modified = modified
  unjudged :
    ∀ cause, result = .error cause → ∃ document ∈ documents,
      document.matches filter = .error cause

section Replays

variable
  {filter changes : Document}
  {document : Document}
  {documents rest after : List Document}
  {modified : Nat}
  {result : Except QueryError Tally}

theorem KeepsMembers.refl
    (single : (Json.object document).Collapsed) :
    KeepsMembers document document :=
  Json.same_self _ single

theorem ChangesNothing.cons
    {changed : Document}
    (same : KeepsMembers document changed)
    (nothing : ChangesNothing filter rest modified result after) :
    ChangesNothing filter (document :: rest) modified result
      (changed :: after) where
  kept := .cons same nothing.kept
  unmodified := nothing.unmodified
  unjudged cause fails := by
    obtain ⟨other, member, unjudged⟩ := nothing.unjudged cause fails
    exact ⟨other, List.mem_cons_of_mem document member, unjudged⟩

theorem ChangesNothing.of_unjudged
    {cause : QueryError}
    (single : ∀ document ∈ documents, (Json.object document).Collapsed)
    (unjudged :
      ∃ document ∈ documents, document.matches filter = .error cause) :
    ChangesNothing filter documents modified (.error cause) documents where
  kept :=
    List.forall₂_same.mpr fun document member => .refl (single document member)
  unmodified _ succeeds := nomatch succeeds
  unjudged _ fails := by
    cases fails
    exact unjudged

/--
An update that is idle on all documents of a list runs over them
and changes nothing.
-/
theorem updateMatching_of_idle
    (single : ∀ document ∈ documents, (Json.object document).Collapsed)
    (idle : ∀ document ∈ documents, IsIdle filter changes document)
    (tally : Tally)
    (supply : Supply) :
    ∃ result again,
      updateMatching filter changes true documents tally supply =
          (result, again, supply) ∧
        ChangesNothing filter documents tally.modified result again := by
  induction documents generalizing tally with
  | nil =>
      refine ⟨.ok tally, [], rfl, .nil, ?_, by rintro _ ⟨⟩⟩
      rintro _ ⟨⟩
      rfl
  | cons document rest inductionHypothesis =>
      obtain ⟨headSingle, restSingle⟩ := List.forall_mem_cons.mp single
      obtain ⟨headIdle, restIdle⟩ := List.forall_mem_cons.mp idle
      have continued := inductionHypothesis restSingle restIdle
      unfold updateMatching
      cases judged : document.matches filter with
      | error cause =>
          exact ⟨_, _, rfl,
            .of_unjudged single ⟨document, List.mem_cons_self, judged⟩⟩
      | ok holds =>
          cases holds with
          | false =>
              obtain ⟨result, again, ran, nothing⟩ := continued tally
              refine ⟨result, document :: again, ?_,
                nothing.cons (.refl headSingle)⟩
              simp only [ran]
          | true =>
              obtain ⟨same, keeps, applied⟩ := headIdle judged
              obtain ⟨result, again, ran, nothing⟩ :=
                continued ⟨tally.matched + 1, tally.modified⟩
              refine ⟨result, same :: again, ?_, nothing.cons keeps⟩
              have noDifference :
                  (Json.object same).same (.object document) = true := keeps
              simp only [applied, noDifference, Bool.not_true,
                Bool.false_eq_true, if_false, if_true, Nat.add_zero, ran]

/-- A plain update is idle on every document that it has been applied to. -/
theorem isIdle_of_applied
    {changed : Document}
    {supply left : Supply}
    (isPlain : Update.IsPlain changes)
    (changesSingle : (Json.object changes).Collapsed)
    (single : (Json.object document).Collapsed)
    (applied :
      applyTo false changes document supply = (.ok (), changed, left)) :
    (Json.object changed).Collapsed ∧ IsIdle filter changes changed := by
  have operandsSingle := Update.operands_collapsed changesSingle
  have isShaped := Update.isShaped_of_apply applied
  have runs := Update.runFrom_apply_plain isPlain isShaped false
  have isChanged : Update.edited (Update.steps changes) document = changed :=
    congrArg (fun ran => ran.2.1) ((runs document supply).symm.trans applied)
  subst isChanged
  refine ⟨Update.collapsed_edited single operandsSingle,
    fun _ => ⟨_, ?_, runs _⟩⟩
  exact Update.edited_again_same single operandsSingle

/--
After a plain update has affected some documents, it is idle on all of them.
-/
theorem isIdle_of_affected
    {touched before : List Document}
    {supply left : Supply}
    (isPlain : Update.IsPlain changes)
    (changesSingle : (Json.object changes).Collapsed)
    (single : ∀ document ∈ before, (Json.object document).Collapsed)
    (affected :
      Affected (JudgedBy filter) (ChangedBy changes) true touched before supply
        after left) :
    ∀ document ∈ after,
      (Json.object document).Collapsed ∧ IsIdle filter changes document := by
  induction affected with
  | none =>
      exact fun _ member => nomatch member
  | passedOver spared _ inductionHypothesis =>
      obtain ⟨headSingle, restSingle⟩ := List.forall_mem_cons.mp single
      have isIdle : IsIdle filter changes _ :=
        fun chosen => nomatch spared.symm.trans chosen
      exact List.forall_mem_cons.mpr
        ⟨⟨headSingle, isIdle⟩, inductionHypothesis restSingle⟩
  | taken _ _ becomes _ inductionHypothesis =>
      obtain ⟨headSingle, restSingle⟩ := List.forall_mem_cons.mp single
      obtain ⟨changed, rfl, applied⟩ := becomes
      exact List.forall_mem_cons.mpr
        ⟨isIdle_of_applied isPlain changesSingle headSingle applied,
          inductionHypothesis restSingle⟩
  | only one =>
      cases one

/-- What an update tells that inserts nothing. -/
def Tally.outcome
    (tally : Tally) :
    Outcome :=
  {
    affected := tally.modified
    matched := tally.matched
    modified := tally.modified
  }

/-- An update that is not to insert ends as its run over the documents does. -/
theorem update_runFrom_without_upsert
    (filter changes : Document)
    (many : Bool)
    (collection : Collection)
    (supply : Supply) :
    (update filter changes many false).runFrom (collection, supply) =
      ((updateMatching filter changes many collection.documents {} supply).1.map
          Tally.outcome,
        ({ collection with
            documents :=
              (updateMatching filter changes many collection.documents {}
                supply).2.1 },
          (updateMatching filter changes many collection.documents {}
            supply).2.2)) := by
  simp only [update, Stateful.runFrom_bind, Stateful.runFrom_get,
    Stateful.runFrom_set, Stateful.runFrom_ofExcept, Bool.and_false,
    Bool.false_eq_true, if_false]
  cases (updateMatching filter changes many collection.documents {}
      supply).1 <;> rfl

/--
Running a plain update of all documents again changes nothing more.

It succeeds, or it fails because its filter cannot judge one of the documents.
Every document stays what it was up to the order of its fields, and none is
reported as modified.
-/
theorem replayed_update_changes_nothing
    {collection changed : Collection}
    {supply left : Supply}
    {outcome : Outcome}
    (isPlain : Update.IsPlain changes)
    (changesSingle : (Json.object changes).Collapsed)
    (single :
      ∀ document ∈ collection.documents, (Json.object document).Collapsed)
    (ran :
      (update filter changes true false).runFrom (collection, supply) =
        (.ok outcome, (changed, left)))
    (later : Supply) :
    ∃ result again,
      (update filter changes true false).runFrom (changed, later) =
          (result, ({ changed with documents := again }, later)) ∧
        List.Forall₂ KeepsMembers changed.documents again ∧
          (∀ repeated, result = .ok repeated →
            repeated.modified = 0 ∧ repeated.affected = 0 ∧
            repeated.upsertedId = none) ∧
          ∀ cause, result = .error cause →
            ∃ document ∈ changed.documents,
              document.matches filter = .error cause := by
  obtain ⟨touched, -, affected⟩ := (settled_of_update ran).affected
  have idle := isIdle_of_affected isPlain changesSingle single affected
  obtain ⟨result, again, ranAgain, nothing⟩ :=
    updateMatching_of_idle (fun document member => (idle document member).1)
      (fun document member => (idle document member).2) {} later
  refine ⟨result.map Tally.outcome, again, ?_, nothing.kept, ?_, ?_⟩
  · rw [update_runFrom_without_upsert, ranAgain]
  · intro repeated succeeds
    obtain ⟨total, isTotal, rfl⟩ := map_eq_ok.mp succeeds
    have noneModified := nothing.unmodified total isTotal
    exact ⟨noneModified, noneModified, rfl⟩
  · intro cause fails
    apply nothing.unjudged cause
    cases result with
    | error other =>
        cases fails
        rfl
    | ok total =>
        cases fails

end Replays

/-- An update whose paths lead through one another. -/
def crossingChanges : Document :=
  [
    ("$set",
      .object [("a.b.c", .ofInt 1), ("a.b", .ofInt 2), ("a.d.e", .ofInt 3)]),
    ("$unset", .object [("a.b.c", .null), ("a.d", .null), ("k", .null)])
  ]

/--
Documents with a list, an object, a number and nothing on
the way of these paths.
-/
def crossedCollection : Collection :=
  {
    name := "p"
    documents :=
      [
        [("_id", .ofInt 1), ("a", .array [.ofInt 5]), ("t", .ofInt 0)],
        [("_id", .ofInt 2), ("a", .object [("b", .object [("c", .ofInt 6)])]),
          ("t", .ofInt 0)],
        [("_id", .ofInt 3), ("a", .ofInt 7), ("t", .ofInt 1)],
        [("k", .ofInt 8), ("_id", .ofInt 4), ("t", .ofInt 0)]
      ]
  }

theorem replayed_update_changes_nothing_of_crossing :
    ∃ outcome changed left,
      (update [("t", .ofInt 0)] crossingChanges true false).runFrom
            (crossedCollection, Store.firstSupply) =
          (.ok outcome, (changed, left)) ∧
        ∀ later, ∃ result again,
          (update [("t", .ofInt 0)] crossingChanges true false).runFrom
            (changed, later) =
              (result, ({ changed with documents := again }, later)) ∧
            List.Forall₂ KeepsMembers changed.documents again ∧
              (∀ repeated, result = .ok repeated →
                repeated.modified = 0 ∧ repeated.affected = 0 ∧
                repeated.upsertedId = none) ∧
              ∀ cause, result = .error cause →
                ∃ document ∈ changed.documents,
                  document.matches [("t", .ofInt 0)] = .error cause := by
  have isPlain : Update.IsPlain crossingChanges := by
    unfold Update.IsPlain
    decide
  have changesSingle : (Json.object crossingChanges).Collapsed := by
    decide
  have single :
      ∀ document ∈ crossedCollection.documents,
        (Json.object document).Collapsed := by
    decide
  have ran :
      (update [("t", .ofInt 0)] crossingChanges true false).runFrom
          (crossedCollection, Store.firstSupply) =
        (.ok { affected := 3, matched := 3, modified := 3 },
          ({ crossedCollection with
              documents :=
                [
                  [("_id", .ofInt 1), ("a", .object [("b", .ofInt 2)]),
                    ("t", .ofInt 0)],
                  [("_id", .ofInt 2), ("a", .object [("b", .ofInt 2)]),
                    ("t", .ofInt 0)],
                  [("_id", .ofInt 3), ("a", .ofInt 7), ("t", .ofInt 1)],
                  [("a", .object [("b", .ofInt 2)]), ("_id", .ofInt 4),
                    ("t", .ofInt 0)]
                ] },
            Store.firstSupply)) := by
    rfl
  exact ⟨_, _, _, ran,
    replayed_update_changes_nothing isPlain changesSingle single ran⟩

end Collection

end PolyQuery
