import PolyQuery.Proofs.Computation.Stateful
import PolyQuery.Proofs.Document.ObjectRoutes

namespace PolyQuery

/-!
# Plain updates

An update that only sets and unsets values makes its changes one after the
other. None of them can fail, reads what others wrote or draws from the supply.
So all that can keep such an update from being applied is an operator without
fields, and that keeps it from being applied to any document.
-/

namespace Update

/-- An update document that does nothing but set and unset values. -/
def IsPlain
    (changes : Document) :
    Prop :=
  ∀ entry ∈ changes, entry.1 = "$set" ∨ entry.1 = "$unset"

/-- An update document all of whose operators have fields. -/
def IsShaped
    (changes : Document) :
    Prop :=
  ∀ entry ∈ changes, ∃ paths, entry.2 = .object paths

namespace Step

/-- What setting or unsetting a value makes of a document. -/
def edit
    (step : Step)
    (document : Document) :
    Document :=
  if step.operator = "$set" then
    document.setPath step.path step.operand
  else
    Path.removed (Path.segments step.path) document

end Step

/--
What some settings and unsettings make of a document, one after the other.
-/
def edited
    (changes : List Step)
    (document : Document) :
    Document :=
  changes.foldl (fun document step => step.edit document) document

theorem edited_append
    (earlier later : List Step)
    (document : Document) :
    edited (earlier ++ later) document =
      edited later (edited earlier document) :=
  List.foldl_append

section Runs

variable
  {inserting : Bool}
  {changes : Document}

theorem runFrom_changeAt_plain
    {operator : String}
    (isPlain : operator = "$set" ∨ operator = "$unset")
    (path : String)
    (operand : Json)
    (document : Document)
    (supply : Supply) :
    (changeAt inserting operator path operand).runFrom (document, supply) =
      (.ok (), (Step.edit ⟨operator, path, operand⟩ document, supply)) := by
  rcases isPlain with rfl | rfl
  · simp [changeAt, change, Stateful.runFrom_bind, Step.edit]
  · simp only [changeAt, change, Stateful.runFrom_bind, Stateful.runFrom_get,
      Step.edit, Path.removed, Document.removePath?]
    cases Path.remove? (Path.segments path) document <;> rfl

theorem runFrom_applyPaths_plain
    {operator : String}
    (isPlain : operator = "$set" ∨ operator = "$unset")
    (paths : List (String × Json))
    (document : Document)
    (supply : Supply) :
    (applyPaths inserting operator paths).runFrom (document, supply) =
      (.ok (),
        (edited (paths.map fun change => ⟨operator, change.1, change.2⟩)
          document, supply)) := by
  induction paths generalizing document with
  | nil =>
      rfl
  | cons entry rest inductionHypothesis =>
      obtain ⟨path, operand⟩ := entry
      rw [applyPaths, Stateful.runFrom_bind, runFrom_changeAt_plain isPlain]
      exact inductionHypothesis _

/--
The changes of an update are those of its first operator, and
then the other ones.
-/
theorem steps_cons
    (operator : String)
    (paths : List (String × Json))
    (rest : Document) :
    steps ((operator, .object paths) :: rest) =
      (paths.map fun change => ⟨operator, change.1, change.2⟩) ++ steps rest :=
  rfl

/--
A plain update whose operators have fields can be applied to every document.
-/
theorem runFrom_apply_plain
    (isPlain : IsPlain changes)
    (isShaped : IsShaped changes)
    (inserting : Bool)
    (document : Document)
    (supply : Supply) :
    (apply inserting changes).runFrom (document, supply) =
      (.ok (), (edited (steps changes) document, supply)) := by
  induction changes generalizing document with
  | nil =>
      rfl
  | cons entry rest inductionHypothesis =>
      obtain ⟨operator, fields⟩ := entry
      obtain ⟨operatorPlain, restPlain⟩ := List.forall_mem_cons.mp isPlain
      obtain ⟨⟨paths, same⟩, restShaped⟩ := List.forall_mem_cons.mp isShaped
      dsimp only at same
      subst same
      rw [apply, Stateful.runFrom_bind, runFrom_applyPaths_plain operatorPlain]
      dsimp only
      rw [inductionHypothesis restPlain restShaped, steps_cons, edited_append]

/-- An update that succeeds has fields for all its operators. -/
theorem isShaped_of_apply
    {state after : Document × Supply}
    (applied : (apply inserting changes).runFrom state = (.ok (), after)) :
    IsShaped changes := by
  induction changes generalizing state with
  | nil =>
      exact fun _ member => nomatch member
  | cons entry rest inductionHypothesis =>
      obtain ⟨operator, fields⟩ := entry
      cases fields with
      | object paths =>
          obtain ⟨⟨⟩, between, -, later⟩ := Stateful.runFrom_bind_eq_ok applied
          exact List.forall_mem_cons.mpr
            ⟨⟨paths, rfl⟩, inductionHypothesis later⟩
      | _ =>
          cases applied

end Runs

end Update

end PolyQuery
