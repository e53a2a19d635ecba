import PolyQuery.Document.Update
import PolyQuery.Proofs.Computation.Stateful
import PolyQuery.Proofs.Entries

namespace PolyQuery

/-!
# What updates change

A change writes a value at its path, removes the value there, moves it to
another path, or leaves the document as it is. What no such edit breaks, no
update breaks, be it that it succeeds or that it fails on the way. A key that no
path leads to keeps its value.
-/

namespace Path

/--
The first segment of a path: the key of the document that the path leads to.
-/
def root?
    (path : String) :
    Option String :=
  (segments path).head?

theorem under_set_of_ne
    {route : List String}
    {key : String}
    (elsewhere : route.head? ≠ some key)
    (value : Json)
    (document : Document) :
    (set route value document).under key = document.under key := by
  match route with
  | [] =>
      rfl
  | [last] =>
      have different : last ≠ key := by simpa using elsewhere
      exact Entries.under_alter_of_ne different document _
  | first :: second :: rest =>
      have different : first ≠ key := by simpa using elsewhere
      exact Entries.under_alter_of_ne different document _

theorem under_remove?_of_ne
    {route : List String}
    {key : String}
    (elsewhere : route.head? ≠ some key)
    {document rest : Document}
    {value : Json}
    (removed : remove? route document = some (value, rest)) :
    (rest.under key).Perm (document.under key) := by
  match route with
  | [] =>
      cases removed
  | [last] =>
      have different : last ≠ key := by simpa using elsewhere
      simp only [remove?] at removed
      split at removed
      · cases removed
        exact Entries.under_erase_of_ne different document
      · cases removed
  | first :: second :: others =>
      have different : first ≠ key := by simpa using elsewhere
      simp only [remove?] at removed
      split at removed
      · split at removed
        · cases removed
          exact .of_eq (Entries.under_alter_of_ne different document _)
        · cases removed
      · cases removed

end Path

namespace Update

section Results

variable {document result : Document}

theorem exists_written_of_combine
    {arithmetic : Arithmetic}
    {operator path : String}
    {present operand : Json}
    (changed :
      ((combine arithmetic path operator present operand).map fun combined =>
        document.setPath path combined) = .ok result) :
    ∃ value, result = document.setPath path value := by
  cases computed : combine arithmetic path operator present operand with
  | error cause =>
      rw [computed] at changed
      cases changed
  | ok combined =>
      rw [computed] at changed
      cases changed
      exact ⟨combined, rfl⟩

theorem exists_written_of_changeList
    {operator path : String}
    {edit : List Json → List Json}
    (changed : changeList document path operator edit = .ok result) :
    ∃ value, result = document.setPath path value := by
  unfold changeList at changed
  cases listed : listAt document path operator with
  | error cause =>
      rw [listed] at changed
      cases changed
  | ok items =>
      rw [listed] at changed
      cases changed
      exact ⟨_, rfl⟩

/-- A renaming moves the value at its path to the new name, if there is one. -/
theorem rename_eq_ok
    {path : String}
    {operand : Json}
    (changed : rename document path operand = .ok result) :
    result = document ∨
      ∃ target moved rest, operand = .string target ∧
        document.removePath? path = some (moved, rest) ∧
          result = rest.setPath target moved := by
  unfold rename at changed
  split at changed
  · split at changed
    next found =>
      cases changed
      exact .inr ⟨_, _, _, rfl, found, rfl⟩
    next =>
      cases changed
      exact .inl rfl
  · cases changed

end Results

/-- What a change can make of a document. -/
inductive Edit
    (inserting : Bool)
    (operator : String)
    (path : String)
    (operand : Json)
    (document : Document) :
    Document →
    Prop where
  | unchanged :
      Edit inserting operator path operand document document
  | written
      (value : Json)
      (active : operator = "$setOnInsert" → inserting = true) :
      Edit inserting operator path operand document
        (document.setPath path value)
  | removed
      {value : Json}
      {rest : Document}
      (isRemoval : operator = "$unset")
      (found : document.removePath? path = some (value, rest)) :
      Edit inserting operator path operand document rest
  | moved
      {value : Json}
      {rest : Document}
      {target : String}
      (isRename : operator = "$rename")
      (isTarget : operand = .string target)
      (found : document.removePath? path = some (value, rest)) :
      Edit inserting operator path operand document (rest.setPath target value)

section Edits

variable
  {inserting : Bool}
  {operator path : String}
  {operand : Json}
  {document result : Document}

theorem edit_of_changeList
    {change : List Json → List Json}
    (active : operator ≠ "$setOnInsert")
    (changed : changeList document path operator change = .ok result) :
    Edit inserting operator path operand document result := by
  obtain ⟨value, rfl⟩ := exists_written_of_changeList changed
  exact .written value fun same => absurd same active

theorem edit_of_changeListIfPresent
    {change : List Json → List Json}
    (active : operator ≠ "$setOnInsert")
    (changed : changeListIfPresent document path operator change = .ok result) :
    Edit inserting operator path operand document result := by
  unfold changeListIfPresent at changed
  split at changed
  · exact edit_of_changeList active changed
  · cases changed
    exact .unchanged

theorem edit_of_replaceIf
    (active : operator ≠ "$setOnInsert")
    (wanted : Ordering) :
    Edit inserting operator path operand document
      (replaceIf document path operand wanted) := by
  unfold replaceIf
  dsimp only
  split
  all_goals
    split
    · exact .written _ fun same => absurd same active
    · exact .unchanged

theorem edit_of_combine
    {arithmetic : Arithmetic}
    {present : Json}
    (active : operator ≠ "$setOnInsert")
    (changed :
      ((combine arithmetic path operator present operand).map fun combined =>
        document.setPath path combined) = .ok result) :
    Edit inserting operator path operand document result := by
  obtain ⟨value, rfl⟩ := exists_written_of_combine changed
  exact .written value fun same => absurd same active

theorem edit_of_rename
    (changed : rename document path operand = .ok result) :
    Edit inserting "$rename" path operand document result := by
  rcases rename_eq_ok changed with rfl | ⟨target, moved, rest, rfl, found, rfl⟩
  · exact .unchanged
  · exact .moved rfl rfl found

/-- A change that succeeds edits the document. -/
theorem edit_of_change
    (changed : change inserting operator path operand document = .ok result) :
    Edit inserting operator path operand document result := by
  unfold change at changed
  dsimp only at changed
  split at changed
  case h_1 =>
    cases changed
    exact .written _ fun same => absurd same (by decide)
  case h_2 =>
    cases changed
    cases inserting with
    | false => exact .unchanged
    | true => exact .written _ fun _ => rfl
  case h_3 =>
    split at changed
    next found =>
      cases changed
      exact .removed rfl found
    next =>
      cases changed
      exact .unchanged
  case h_4 => exact edit_of_combine (by decide) changed
  case h_5 => exact edit_of_combine (by decide) changed
  case h_6 =>
    cases changed
    exact edit_of_replaceIf (by decide) .lt
  case h_7 =>
    cases changed
    exact edit_of_replaceIf (by decide) .gt
  case h_8 => exact edit_of_rename changed
  case h_9 => exact edit_of_changeList (by decide) changed
  case h_10 => exact edit_of_changeList (by decide) changed
  case h_11 => exact edit_of_changeListIfPresent (by decide) changed
  case h_12 =>
    split at changed
    · exact edit_of_changeListIfPresent (by decide) changed
    · cases changed
  case h_13 => exact edit_of_changeListIfPresent (by decide) changed
  case h_14 => cases changed

/--
A change edits the document also where the time is written, and not
at all where it fails.
-/
theorem edit_of_changeAt
    (supply : Supply) :
    Edit inserting operator path operand document
      ((changeAt inserting operator path operand).runFrom
        (document, supply)).2.1 := by
  simp only [changeAt, Stateful.runFrom_bind, Stateful.runFrom_get]
  split
  next isDate =>
    exact .written _ fun same => absurd (isDate.symm.trans same) (by decide)
  next =>
    cases changed : change inserting operator path operand document with
    | error cause =>
        exact .unchanged
    | ok result =>
        exact edit_of_change changed

end Edits

section Runs

variable
  {inserting : Bool}
  {property : Document → Prop}

theorem applyPaths_keeps
    {operator : String}
    {changes : List (String × Json)}
    (kept :
      ∀ change ∈ changes, ∀ document result,
        Edit inserting operator change.1 change.2 document result →
          property document → property result) :
    Stateful.Keeps (applyPaths inserting operator changes)
      fun state => property state.1 := by
  induction changes with
  | nil =>
      exact Stateful.keeps_pure _ _
  | cons change rest inductionHypothesis =>
      obtain ⟨path, operand⟩ := change
      obtain ⟨headKept, restKept⟩ := List.forall_mem_cons.mp kept
      refine Stateful.keeps_bind ?_ fun _ => inductionHypothesis restKept
      intro state held
      exact headKept _ _ (edit_of_changeAt state.2) held

/--
What no edit of an update breaks, the update leaves true, whether
it succeeds or fails.
-/
theorem apply_keeps
    {update : List (String × Json)}
    (kept :
      ∀ entry ∈ update, ∀ change ∈ Path.membersOf (some entry.2),
        ∀ document result,
        Edit inserting entry.1 change.1 change.2 document result →
          property document → property result) :
    Stateful.Keeps (apply inserting update) fun state => property state.1 := by
  induction update with
  | nil =>
      exact Stateful.keeps_pure _ _
  | cons entry rest inductionHypothesis =>
      obtain ⟨operator, fields⟩ := entry
      obtain ⟨headKept, restKept⟩ := List.forall_mem_cons.mp kept
      have restKeeps := inductionHypothesis restKept
      cases fields with
      | object changes =>
          exact Stateful.keeps_bind (applyPaths_keeps headKept)
            fun _ => restKeeps
      | _ =>
          exact Stateful.keeps_bind (Stateful.keeps_ofExcept (.error _) _)
            fun _ => restKeeps

end Runs

/--
Whether a change leads to no place under a key, be it by its
path or by its new name.
-/
def leavesAt
    (key : String)
    (operator : String)
    (path : String)
    (operand : Json) :
    Bool :=
  Path.root? path ≠ some key &&
    (operator ≠ "$rename" || (operand.string?.bind Path.root?) ≠ some key)

/-- Whether no change of an update leads to a place under a key. -/
def leaves
    (key : String)
    (update : Document) :
    Bool :=
  update.all fun entry =>
    (Path.membersOf (some entry.2)).all fun change =>
      leavesAt key entry.1 change.1 change.2

/-- Whether a change leaves a key of a document alone that is there already. -/
def sparesAt
    (key : String)
    (operator : String)
    (path : String)
    (operand : Json) :
    Bool :=
  operator = "$setOnInsert" ||
    Path.root? path ≠ some key &&
      (operator ≠ "$rename" || (operand.string?.bind Path.root?) ≠ some key)

/--
Whether an update leaves a key of the documents alone that are there already.
-/
def spares
    (key : String)
    (update : Document) :
    Bool :=
  update.all fun entry =>
    (Path.membersOf (some entry.2)).all fun change =>
      sparesAt key entry.1 change.1 change.2

section Frame

variable
  {inserting : Bool}
  {key operator path : String}
  {operand : Json}
  {document result : Document}

/--
An edit by a change that leads elsewhere leaves the entries under
a key what they are.
-/
theorem under_of_edit_elsewhere
    (elsewhere : leavesAt key operator path operand = true)
    (edited : Edit inserting operator path operand document result) :
    (result.under key).Perm (document.under key) := by
  simp only [leavesAt, Bool.and_eq_true, decide_eq_true_eq, Bool.or_eq_true]
    at elsewhere
  obtain ⟨pathElsewhere, targetElsewhere⟩ := elsewhere
  cases edited with
  | unchanged =>
      exact .refl _
  | written value active =>
      exact .of_eq (Path.under_set_of_ne pathElsewhere value document)
  | removed isRemoval found =>
      exact Path.under_remove?_of_ne pathElsewhere found
  | moved isRename isTarget found =>
      subst operator operand
      rcases targetElsewhere with noRename | notTarget
      · exact absurd rfl noRename
      · have written := Path.under_set_of_ne notTarget
        rw [Document.setPath, written]
        exact Path.under_remove?_of_ne pathElsewhere found

/--
An edit by a change that spares a key leaves the entries under
the key what they are.
-/
theorem under_of_edit
    (spared : sparesAt key operator path operand = true)
    (edited : Edit false operator path operand document result) :
    (result.under key).Perm (document.under key) := by
  rcases Bool.or_eq_true _ _ ▸ spared with onInsert | elsewhere
  · have isOnInsert := of_decide_eq_true onInsert
    cases edited with
    | unchanged =>
        exact .refl _
    | written value active =>
        cases active isOnInsert
    | removed isRemoval found =>
        exact absurd (isRemoval.symm.trans isOnInsert) (by decide)
    | moved isRename isTarget found =>
        exact absurd (isRename.symm.trans isOnInsert) (by decide)
  · exact under_of_edit_elsewhere elsewhere edited

end Frame

section Updates

variable
  {inserting : Bool}
  {key : String}
  {update : Document}

/--
An update leaves the entries under a key what they are if
each of its edits does.
-/
theorem under_apply_of_edits
    (kept :
      ∀ entry ∈ update, ∀ change ∈ Path.membersOf (some entry.2),
        ∀ document result,
        Edit inserting entry.1 change.1 change.2 document result →
          (result.under key).Perm (document.under key))
    (document : Document)
    (supply : Supply) :
    (((apply inserting update).runFrom (document, supply)).2.1.under key).Perm
      (document.under key) := by
  have keeps :
      Stateful.Keeps (apply inserting update) fun state =>
        (state.1.under key).Perm (document.under key) := by
    refine @apply_keeps
      _ (fun result => (result.under key).Perm (document.under key)) _ ?_
    intro entry entryMember change changeMember present result edited held
    exact (kept entry entryMember change changeMember present result
      edited).trans held
  exact keeps (document, supply) (.refl _)

/--
An update that spares a key leaves the entries under the key what they are.
-/
theorem under_apply
    (spared : spares key update = true)
    (document : Document)
    (supply : Supply) :
    (((apply false update).runFrom (document, supply)).2.1.under key).Perm
      (document.under key) := by
  apply under_apply_of_edits
  intro entry entryMember change changeMember present result edited
  have allSpared :=
    List.all_eq_true.mp (List.all_eq_true.mp spared entry entryMember)
  exact under_of_edit (allSpared change changeMember) edited

/--
An update that leads elsewhere leaves the entries under a key what they are.
-/
theorem under_apply_elsewhere
    (elsewhere : leaves key update = true)
    (inserting : Bool)
    (document : Document)
    (supply : Supply) :
    (((apply inserting update).runFrom (document, supply)).2.1.under key).Perm
      (document.under key) := by
  apply under_apply_of_edits
  intro entry entryMember change changeMember present result edited
  have allElsewhere :=
    List.all_eq_true.mp (List.all_eq_true.mp elsewhere entry entryMember)
  exact under_of_edit_elsewhere (allElsewhere change changeMember) edited

end Updates

end Update

end PolyQuery
