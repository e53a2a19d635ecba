import PolyQuery.Proofs.Document.DistinctIdentifiers
import PolyQuery.Proofs.Document.WrittenPaths

namespace PolyQuery

/-!
# What updates leave alone

Of two paths neither of which is a beginning of the other, reading at one goes
by what is changed at the other. A removal leaves what is read as it is. So does
a write that meets objects only. A write that meets a list on the way that the
two paths share puts an object in its place, though, and the items of the list
can no longer be read.
-/

namespace Path

/-- Neither of two routes is a beginning of the other. -/
def Apart
    (route : List String)
    (other : List String) :
    Prop :=
  ¬route <+: other ∧ ¬other <+: route

instance
    (route other : List String) :
    Decidable (Apart route other) :=
  inferInstanceAs (Decidable (¬route <+: other ∧ ¬other <+: route))

theorem Apart.left_ne_nil
    {route other : List String}
    (apart : Apart route other) :
    route ≠ [] := by
  rintro rfl
  exact apart.1 List.nil_prefix

theorem Apart.right_ne_nil
    {route other : List String}
    (apart : Apart route other) :
    other ≠ [] := by
  rintro rfl
  exact apart.2 List.nil_prefix

theorem apart_cons_iff
    {first second : String}
    {route other : List String} :
    Apart (first :: route) (second :: other) ↔
      first = second → Apart route other := by
  by_cases same : first = second
  · subst same
    simp [Apart, List.cons_prefix_cons]
  · simp [Apart, List.cons_prefix_cons, same, Ne.symm same]

/-- The way to the first list that a route leads into. -/
def listOnWay? :
    List String →
    Json →
    Option (List String)
  | segment :: rest, .object members =>
      match Entries.get? members segment with
      | some inner => (listOnWay? rest inner).map (List.cons segment)
      | none => none
  | _ :: _, .array _ => some []
  | _, _ => none

/-- A route leads into the list that stands on the way of another one. -/
def EntersList
    (route : List String)
    (other : List String)
    (value : Json) :
    Prop :=
  ∃ way, listOnWay? other value = some way ∧ way <+: route

/-- No object on a route names a member twice. -/
def NamesOnce :
    List String →
    Json →
    Prop
  | segment :: rest, .object members =>
      Entries.Distinct members ∧
        ∀ inner,
          Entries.get? members segment = some inner → NamesOnce rest inner
  | _, _ => True

/--
What is met on a route: the value at its end, and the first list on the way.
-/
def met
    (route : List String)
    (value : Json) :
    Option Json × Option (List String) :=
  (get? route value, listOnWay? route value)

section Reading

variable
  {first second segment : String}
  {route other rest : List String}
  {members others : Document}
  {inner : Json}

theorem met_of_found
    (found : Entries.get? members segment = some inner) :
    met (segment :: rest) (.object members) =
      (get? rest inner, (listOnWay? rest inner).map (List.cons segment)) := by
  simp [met, get?, listOnWay?, found]

theorem met_of_missing
    (missing : Entries.get? members segment = none) :
    met (segment :: rest) (.object members) = (none, none) := by
  simp [met, get?, listOnWay?, missing]

theorem met_congr
    (same : Entries.get? members segment = Entries.get? others segment) :
    met (segment :: rest) (.object members) =
      met (segment :: rest) (.object others) := by
  simp [met, get?, listOnWay?, same]

theorem met_object_congr
    (found : Entries.get? members segment = some inner)
    {changed : Json}
    (changedFound : Entries.get? others segment = some changed)
    (same : met rest changed = met rest inner) :
    met (segment :: rest) (.object others) =
      met (segment :: rest) (.object members) := by
  obtain ⟨sameValue, sameWay⟩ := Prod.mk.inj same
  rw [met_of_found found, met_of_found changedFound, sameValue, sameWay]

theorem met_object_lost
    (found : Entries.get? members segment = some inner)
    (lost : met rest inner = (none, none)) :
    met (segment :: rest) (.object members) = (none, none) := by
  obtain ⟨noValue, noList⟩ := Prod.mk.inj lost
  rw [met_of_found found, noValue, noList]
  rfl

theorem met_empty
    (more : rest ≠ []) :
    met rest (.object []) = (none, none) := by
  cases rest with
  | nil => exact absurd rfl more
  | cons segment rest => exact met_of_missing rfl

theorem not_entersList_of_unmet
    {value : Json}
    (unmet : met other value = (none, none)) :
    ¬EntersList route other value := by
  rintro ⟨way, onWay, -⟩
  have noList : listOnWay? other value = none := congrArg Prod.snd unmet
  rw [noList] at onWay
  cases onWay

theorem entersList_congr
    {value changed : Json}
    (same : met other changed = met other value) :
    EntersList route other changed ↔ EntersList route other value := by
  unfold EntersList
  rw [(Prod.mk.inj same).2]

theorem entersList_cons_iff :
    EntersList (first :: route) (second :: other) (.object members) ↔
      first = second ∧
        ∃ inner,
          Entries.get? members second = some inner ∧
            EntersList route other inner := by
  cases found : Entries.get? members second with
  | none =>
      simp [EntersList, listOnWay?, found]
  | some inner =>
      simp only [EntersList, listOnWay?, found, Option.map_eq_some_iff,
        Option.some.injEq, exists_eq_left']
      constructor
      · rintro ⟨_, ⟨way, onWay, rfl⟩, isPrefix⟩
        obtain ⟨rfl, within⟩ := List.cons_prefix_cons.mp isPrefix
        exact ⟨rfl, way, onWay, within⟩
      · rintro ⟨rfl, way, onWay, within⟩
        exact ⟨_, ⟨way, onWay, rfl⟩, List.cons_prefix_cons.mpr ⟨rfl, within⟩⟩

theorem entersList_array
    {items : List Json}
    (more : other ≠ []) :
    EntersList route other (.array items) := by
  cases other with
  | nil => exact absurd rfl more
  | cons segment rest => exact ⟨[], rfl, List.nil_prefix⟩

/-- A value is an object, a list, or has nothing inside to be met. -/
theorem object_or_list_or_unmet
    (more : rest ≠ [])
    (value : Json) :
    (∃ members, value = .object members) ∨ (∃ items, value = .array items) ∨
      membersOf (some value) = [] ∧ met rest value = (none, none) := by
  cases rest with
  | nil => exact absurd rfl more
  | cons segment rest =>
      cases value with
      | object members => exact .inl ⟨members, rfl⟩
      | array items => exact .inr (.inl ⟨items, rfl⟩)
      | _ => exact .inr (.inr ⟨rfl, rfl⟩)

theorem namesOnce_empty :
    NamesOnce rest (.object []) := by
  cases rest with
  | nil => trivial
  | cons segment rest => exact ⟨List.nodup_nil, by simp⟩

theorem namesOnce_membersOf
    {existing : Option Json}
    (once : ∀ value, existing = some value → NamesOnce rest value) :
    NamesOnce rest (.object (membersOf existing)) := by
  cases existing with
  | none => exact namesOnce_empty
  | some value =>
      cases value with
      | object members => exact once _ rfl
      | _ => exact namesOnce_empty

end Reading

section Writing

variable
  {route other : List String}
  {value : Json}
  {document rest : Document}

/--
A write that leads into the list on the way of a route leaves nothing to be met
there, and any other write apart from the route leaves what is met there.
-/
theorem met_set
    (apart : Apart route other)
    (value : Json)
    (document : Document) :
    (EntersList route other (.object document) →
      met other (.object (set route value document)) = (none, none)) ∧
    (¬EntersList route other (.object document) →
      met other (.object (set route value document)) =
        met other (.object document)) := by
  induction route generalizing other document with
  | nil =>
      exact absurd rfl apart.left_ne_nil
  | cons first route inductionHypothesis =>
      cases other with
      | nil =>
          exact absurd rfl apart.right_ne_nil
      | cons second other =>
          rw [set_cons, entersList_cons_iff]
          by_cases same : first = second
          · subst same
            have apart := apart_cons_iff.mp apart rfl
            have inside :=
              inductionHypothesis apart
                (membersOf (Entries.get? document first))
            have stored :
                Entries.get?
                    (Entries.alter document first (rewritten route value))
                    first =
                  some
                    (.object
                      (set route value
                        (membersOf (Entries.get? document first)))) := by
              rw [Entries.get?_alter, if_pos rfl, rewritten,
                if_neg apart.left_ne_nil]
            -- In a new object nothing is met on a route apart from the one
            -- written at.
            have lost :
                membersOf (Entries.get? document first) = [] →
                  met (first :: other)
                      (.object
                        (Entries.alter document first
                          (rewritten route value))) =
                    (none, none) := by
              intro noMembers
              have nothing := met_empty apart.right_ne_nil
              rw [noMembers] at inside stored
              have unmet :=
                (inside.2 (not_entersList_of_unmet nothing)).trans nothing
              exact met_object_lost stored unmet
            cases found : Entries.get? document first with
            | none =>
                refine ⟨by simp, fun _ => ?_⟩
                rw [met_of_missing found]
                exact lost (by rw [found]; rfl)
            | some existing =>
                simp only [true_and, Option.some.injEq, exists_eq_left']
                rcases object_or_list_or_unmet apart.right_ne_nil existing with
                  ⟨members, rfl⟩ | ⟨items, rfl⟩ | ⟨noMembers, unmet⟩
                · rw [found] at inside stored
                  constructor
                  · exact fun enters => met_object_lost stored (inside.1 enters)
                  · exact fun spares =>
                      met_object_congr found stored (inside.2 spares)
                · have enters : EntersList route other (.array items) :=
                    entersList_array apart.right_ne_nil
                  exact ⟨fun _ => lost (by rw [found]; rfl),
                    fun spares => absurd enters spares⟩
                · refine ⟨fun enters =>
                    absurd enters (not_entersList_of_unmet unmet), fun _ => ?_⟩
                  rw [met_object_lost found unmet]
                  exact lost (by rw [found, noMembers])
          · refine ⟨fun enters => absurd enters.1 same, fun _ => ?_⟩
            apply met_congr
            rw [Entries.get?_alter, if_neg same]

/-- A write apart from a route brings no name onto it twice. -/
theorem namesOnce_set
    (apart : Apart route other)
    (once : NamesOnce other (.object document))
    (value : Json) :
    NamesOnce other (.object (set route value document)) := by
  induction route generalizing other document with
  | nil =>
      exact absurd rfl apart.left_ne_nil
  | cons first route inductionHypothesis =>
      cases other with
      | nil =>
          exact absurd rfl apart.right_ne_nil
      | cons second other =>
          obtain ⟨distinct, inside⟩ := once
          rw [set_cons]
          refine ⟨Entries.distinct_alter distinct _ _, fun inner found => ?_⟩
          rw [Entries.get?_alter] at found
          by_cases same : first = second
          · have further := apart_cons_iff.mp apart same
            rw [if_pos same, rewritten, if_neg further.left_ne_nil,
              Option.some.injEq] at found
            subst first inner
            exact inductionHypothesis further (namesOnce_membersOf inside)
          · rw [if_neg same] at found
            exact inside inner found

/--
A removal apart from a route leaves what is met there, and brings
no name there twice.
-/
theorem met_remove?
    {removed : Json}
    (apart : Apart route other)
    (once : NamesOnce other (.object document))
    (found : remove? route document = some (removed, rest)) :
    met other (.object rest) = met other (.object document) ∧
      NamesOnce other (.object rest) := by
  induction route generalizing other document rest with
  | nil =>
      exact absurd rfl apart.left_ne_nil
  | cons first route inductionHypothesis =>
      cases other with
      | nil =>
          exact absurd rfl apart.right_ne_nil
      | cons second other =>
          obtain ⟨distinct, inside⟩ := once
          cases route with
          | nil =>
              have different : first ≠ second := fun same =>
                (apart_cons_iff.mp apart same).left_ne_nil rfl
              simp only [remove?] at found
              split at found
              next value present =>
                cases found
                have same := Entries.get?_erase_of_ne distinct different
                refine ⟨met_congr same, Entries.distinct_erase distinct present,
                  ?_⟩
                intro inner there
                exact inside inner (same ▸ there)
              next =>
                cases found
          | cons third route =>
              simp only [remove?] at found
              split at found
              next members present =>
                split at found
                next value fewer removedInside =>
                  cases found
                  have distinctAfter :=
                    Entries.distinct_insert distinct first (.object fewer)
                  by_cases same : first = second
                  · subst same
                    have further := apart_cons_iff.mp apart rfl
                    obtain ⟨sameMet, onceInside⟩ :=
                      inductionHypothesis further (inside _ present)
                        removedInside
                    have stored :=
                      Entries.get?_insert document first first (.object fewer)
                    rw [if_pos rfl] at stored
                    refine ⟨met_object_congr present stored sameMet,
                      distinctAfter, ?_⟩
                    intro inner there
                    cases stored.symm.trans there
                    exact onceInside
                  · have stored :=
                      Entries.get?_insert document first second (.object fewer)
                    rw [if_neg same] at stored
                    refine ⟨met_congr stored, distinctAfter,
                      fun inner there => ?_⟩
                    exact inside inner (stored ▸ there)
                next =>
                  cases found
              next =>
                cases found

end Writing

end Path

namespace Update

/-- One change of an update. -/
structure Step where
  operator : String
  path : String
  operand : Json

namespace Step

/-- The paths that a change names: its own, and the new name of a renaming. -/
def named
    (step : Step) :
    List String :=
  if step.operator = "$rename" then
    step.path :: step.operand.string?.toList
  else
    [step.path]

theorem path_mem_named
    (step : Step) :
    step.path ∈ step.named := by
  unfold named
  split <;> simp

/-- The paths that a change may write at. -/
def writable
    (inserting : Bool)
    (step : Step) :
    List String :=
  if step.operator = "$rename" then
    step.operand.string?.toList
  else if step.operator = "$unset" ∨
      step.operator = "$setOnInsert" ∧ inserting = false then
    []
  else
    [step.path]

/-- The paths that a change writes at whenever it succeeds. -/
def written
    (inserting : Bool)
    (step : Step) :
    List String :=
  if step.operator ∈
    ["$set", "$currentDate", "$inc", "$mul", "$push", "$addToSet"] ∨
      step.operator = "$setOnInsert" ∧ inserting = true then
    [step.path]
  else
    []

/-- A change run on a document. -/
def run
    (inserting : Bool)
    (step : Step) :
    Stateful (Document × Supply) Unit :=
  changeAt inserting step.operator step.path step.operand

end Step

/-- The changes of an update in order. -/
def steps
    (update : Document) :
    List Step :=
  update.flatMap fun entry =>
    (Path.membersOf (some entry.2)).map fun change =>
      ⟨entry.1, change.1, change.2⟩

/-- Changes that all succeed lead from one state to another. -/
inductive Succeed (inserting : Bool) :
    List Step →
    Document × Supply →
    Document × Supply →
    Prop where
  | done
      {state : Document × Supply} :
      Succeed inserting [] state state
  | next
      {step : Step}
      {rest : List Step}
      {state between after : Document × Supply} :
      (step.run inserting).runFrom state = (.ok (), between) →
      Succeed inserting rest between after →
      Succeed inserting (step :: rest) state after

section Runs

variable
  {inserting : Bool}
  {operator : String}
  {changes : List (String × Json)}
  {update : Document}
  {front rest : List Step}
  {state between after : Document × Supply}

theorem Succeed.append
    (first : Succeed inserting front state between)
    (second : Succeed inserting rest between after) :
    Succeed inserting (front ++ rest) state after := by
  induction first with
  | done => exact second
  | next ran _ inductionHypothesis =>
      exact .next ran (inductionHypothesis second)

theorem succeed_of_applyPaths
    (ran :
      (applyPaths inserting operator changes).runFrom state = (.ok (), after)) :
    Succeed inserting (changes.map fun change => ⟨operator, change.1, change.2⟩)
      state after := by
  induction changes generalizing state with
  | nil =>
      cases ran
      exact .done
  | cons change rest inductionHypothesis =>
      obtain ⟨⟨⟩, between, first, later⟩ := Stateful.runFrom_bind_eq_ok ran
      exact .next first (inductionHypothesis later)

/-- An update that succeeds makes all its changes one after the other. -/
theorem succeed_of_apply
    (ran : (apply inserting update).runFrom state = (.ok (), after)) :
    Succeed inserting (steps update) state after := by
  induction update generalizing state with
  | nil =>
      cases ran
      exact .done
  | cons entry rest inductionHypothesis =>
      obtain ⟨operator, fields⟩ := entry
      cases fields with
      | object changes =>
          obtain ⟨⟨⟩, between, first, later⟩ := Stateful.runFrom_bind_eq_ok ran
          exact (succeed_of_applyPaths first).append (inductionHypothesis later)
      | _ =>
          obtain ⟨⟨⟩, between, first, -⟩ := Stateful.runFrom_bind_eq_ok ran
          cases first

end Runs

/--
One of some paths leads into the list of a document that stands
on the way of a route.
-/
def EnterList
    (paths : List String)
    (route : List String)
    (document : Document) :
    Prop :=
  ∃ path ∈ paths, Path.EntersList (Path.segments path) route (.object document)

/--
What is met on a route of a document is what was met there in an earlier one,
or nothing, because one of some paths leads into a list that was on the way.
-/
structure KeptOrLost
    (paths : List String)
    (route : List String)
    (before : Document)
    (after : Document) :
    Prop where
  once : Path.NamesOnce route (.object after)
  met :
    Path.met route (.object after) = Path.met route (.object before) ∨
      Path.met route (.object after) = (none, none) ∧
        EnterList paths route before

namespace KeptOrLost

variable {paths route : List String} {before between after : Document}

theorem refl
    (once : Path.NamesOnce route (.object before)) :
    KeptOrLost paths route before before :=
  ⟨once, .inl rfl⟩

theorem lost
    (changed : KeptOrLost paths route before after)
    (nothing : Path.met route (.object before) = (none, none)) :
    Path.met route (.object after) = (none, none) := by
  rcases changed.met with same | ⟨unmet, -⟩
  · exact same.trans nothing
  · exact unmet

theorem trans
    (first : KeptOrLost paths route before between)
    (second : KeptOrLost paths route between after) :
    KeptOrLost paths route before after := by
  refine ⟨second.once, ?_⟩
  rcases first.met with same | ⟨unmet, enter⟩
  · rcases second.met with sameAgain | ⟨unmet, path, member, enters⟩
    · exact .inl (sameAgain.trans same)
    · exact .inr ⟨unmet, path, member, (Path.entersList_congr same).mp enters⟩
  · exact .inr ⟨second.lost unmet, enter⟩

theorem of_write
    {path : String}
    (writable : path ∈ paths)
    (apart : Path.Apart (Path.segments path) route)
    (once : Path.NamesOnce route (.object before))
    (value : Json) :
    KeptOrLost paths route before (before.setPath path value) := by
  refine ⟨Path.namesOnce_set apart once value, ?_⟩
  by_cases enters : Path.EntersList (Path.segments path) route (.object before)
  · exact .inr
      ⟨(Path.met_set apart value before).1 enters, path, writable, enters⟩
  · exact .inl ((Path.met_set apart value before).2 enters)

theorem of_removal
    {path : String}
    {removed : Json}
    (apart : Path.Apart (Path.segments path) route)
    (once : Path.NamesOnce route (.object before))
    (found : before.removePath? path = some (removed, after)) :
    KeptOrLost paths route before after := by
  obtain ⟨same, onceAfter⟩ := Path.met_remove? apart once found
  exact ⟨onceAfter, .inl same⟩

end KeptOrLost

section Steps

variable
  {inserting : Bool}
  {paths route : List String}
  {step : Step}
  {document result : Document}
  {supply later : Supply}

/--
A change that needs the time writes it, and any other is
made without the supply.
-/
theorem Step.run_eq_ok
    (ran :
      (step.run inserting).runFrom (document, supply) =
        (.ok (), result, later)) :
    (step.operator = "$currentDate" ∧
        ∃ value, result = document.setPath step.path value) ∨
      step.operator ≠ "$currentDate" ∧
        change inserting step.operator step.path step.operand document =
          .ok result := by
  simp only [Step.run, changeAt, Stateful.runFrom_bind, Stateful.runFrom_get]
    at ran
  split at ran
  next isDate =>
    cases ran
    exact .inl ⟨isDate, _, rfl⟩
  next noDate =>
    cases changed :
        change inserting step.operator step.path step.operand document with
    | error cause =>
        rw [changed] at ran
        cases ran
    | ok changed =>
        rw [changed] at ran
        cases ran
        exact .inr ⟨noDate, rfl⟩

/-- A removal takes the value at its path away, if there is one. -/
theorem change_unset_eq_ok
    {path : String}
    {operand : Json}
    (changed : change inserting "$unset" path operand document = .ok result) :
    result = document ∨ ∃ removed,
      document.removePath? path = some (removed, result) := by
  simp only [change] at changed
  split at changed
  next found =>
    cases changed
    exact .inr ⟨_, found⟩
  next =>
    cases changed
    exact .inl rfl

/--
A change that names no path along a route keeps what is met there,
or loses it in a list.
-/
theorem keptOrLost_of_step
    (apart : ∀ path ∈ step.named, Path.Apart (Path.segments path) route)
    (allowed : ∀ path ∈ step.writable inserting, path ∈ paths)
    (once : Path.NamesOnce route (.object document))
    (ran :
      (step.run inserting).runFrom (document, supply) =
        (.ok (), result, later)) :
    KeptOrLost paths route document result := by
  obtain ⟨operator, path, operand⟩ := step
  have ownApart : Path.Apart (Path.segments path) route :=
    apart path (Step.path_mem_named _)
  rcases Step.run_eq_ok ran with ⟨rfl, value, rfl⟩ | ⟨-, changed⟩
  · exact .of_write (allowed path (by simp [Step.writable])) ownApart once value
  · by_cases isRemoval : operator = "$unset"
    · subst isRemoval
      rcases change_unset_eq_ok changed with rfl | ⟨removed, found⟩
      · exact .refl once
      · exact .of_removal ownApart once found
    · by_cases isRename : operator = "$rename"
      · subst isRename
        rcases rename_eq_ok changed with
            rfl | ⟨target, moved, rest, rfl, found, rfl⟩
        · exact .refl once
        · have targetApart := apart target (by simp [Step.named, Json.string?])
          have targetAllowed :=
            allowed target (by simp [Step.writable, Json.string?])
          have taken : KeptOrLost paths route document rest :=
            .of_removal ownApart once found
          exact taken.trans
            (.of_write targetAllowed targetApart taken.once moved)
      · cases edit_of_change changed with
        | unchanged =>
            exact .refl once
        | written value active =>
            refine .of_write (allowed path ?_) ownApart once value
            have writes :
                ¬(operator = "$unset" ∨
                  operator = "$setOnInsert" ∧ inserting = false) := by
              rintro (isUnset | ⟨onInsert, noInsertion⟩)
              · exact isRemoval isUnset
              · cases noInsertion.symm.trans (active onInsert)
            simp [Step.writable, isRename, writes]
        | removed isUnset => exact absurd isUnset isRemoval
        | moved isMove => exact absurd isMove isRename

/-- A change with an operator that always writes does so at its path. -/
theorem exists_written_of_step
    {path : String}
    (sure : path ∈ step.written inserting)
    (ran :
      (step.run inserting).runFrom (document, supply) =
        (.ok (), result, later)) :
    path = step.path ∧ ∃ value, result = document.setPath path value := by
  obtain ⟨operator, own, operand⟩ := step
  obtain ⟨always, rfl⟩ : _ ∧ path = own := by
    simpa [Step.written] using sure
  refine ⟨rfl, ?_⟩
  rcases Step.run_eq_ok ran with ⟨-, written⟩ | ⟨noDate, changed⟩
  · exact written
  · rcases always with (rfl | rfl | rfl | rfl | rfl | rfl) | ⟨rfl, rfl⟩
    · cases changed
      exact ⟨operand, rfl⟩
    · exact absurd rfl noDate
    · exact exists_written_of_combine changed
    · exact exists_written_of_combine changed
    · exact exists_written_of_changeList changed
    · exact exists_written_of_changeList changed
    · cases changed
      exact ⟨operand, rfl⟩

end Steps

section Updates

variable
  {inserting : Bool}
  {paths route : List String}
  {pending : List Step}
  {state after : Document × Supply}

/--
Changes that name no path along a route keep what is met there,
or lose it in a list.
-/
theorem keptOrLost_of_succeed
    (apart :
      ∀ step ∈ pending, ∀ path ∈ step.named,
        Path.Apart (Path.segments path) route)
    (allowed : ∀ step ∈ pending, ∀ path ∈ step.writable inserting, path ∈ paths)
    (once : Path.NamesOnce route (.object state.1))
    (succeed : Succeed inserting pending state after) :
    KeptOrLost paths route state.1 after.1 := by
  induction succeed with
  | done =>
      exact .refl once
  | next ran _ inductionHypothesis =>
      obtain ⟨apartHere, apartLater⟩ := List.forall_mem_cons.mp apart
      obtain ⟨allowedHere, allowedLater⟩ := List.forall_mem_cons.mp allowed
      have first := keptOrLost_of_step apartHere allowedHere once ran
      exact first.trans (inductionHypothesis apartLater allowedLater first.once)

/--
Changes of which one writes into the list on the way of a route
leave nothing to be met.
-/
theorem lost_of_succeed
    (apart :
      ∀ step ∈ pending, ∀ path ∈ step.named,
        Path.Apart (Path.segments path) route)
    (once : Path.NamesOnce route (.object state.1))
    (enter : EnterList (pending.flatMap (Step.written inserting)) route state.1)
    (succeed : Succeed inserting pending state after) :
    Path.met route (.object after.1) = (none, none) := by
  induction succeed with
  | done =>
      obtain ⟨path, member, -⟩ := enter
      cases member
  | @next step rest state between after ran further inductionHypothesis =>
      obtain ⟨apartHere, apartLater⟩ := List.forall_mem_cons.mp apart
      have first :
          KeptOrLost (step.writable inserting) route state.1 between.1 :=
        keptOrLost_of_step apartHere (fun _ => id) once ran
      have remaining :
          KeptOrLost (rest.flatMap (Step.writable inserting)) route between.1
            after.1 :=
        keptOrLost_of_succeed apartLater
          (fun later member path own =>
            List.mem_flatMap.mpr ⟨later, member, own⟩) first.once
          further
      rcases first.met with same | ⟨unmet, -⟩
      · obtain ⟨path, member, enters⟩ := enter
        rcases List.mem_append.mp (List.flatMap_cons ▸ member) with here | ahead
        · obtain ⟨rfl, value, changed⟩ := exists_written_of_step here ran
          have ownApart := apartHere step.path step.path_mem_named
          have unmet := (Path.met_set ownApart value state.1).1 enters
          rw [← Document.setPath, ← changed] at unmet
          exact remaining.lost unmet
        · have stillEnters := (Path.entersList_congr same).mpr enters
          exact inductionHypothesis apartLater first.once
            ⟨path, ahead, stillEnters⟩
      · exact remaining.lost unmet

end Updates

/--
An update that succeeds keeps what a document has at a path along which it names
none, unless a path that it may write at leads into a list on the way: then the
value can be lost.

It is lost, for certain, where an operator that always writes does so.
-/
theorem apply_keeps_or_loses_other_paths
    {inserting : Bool}
    {update document after : Document}
    {supply later : Supply}
    {path : String}
    (apart :
      ∀ named ∈ (steps update).flatMap Step.named,
        Path.Apart (Path.segments named) (Path.segments path))
    (once : Path.NamesOnce (Path.segments path) (.object document))
    (applied :
      (apply inserting update).runFrom (document, supply) =
        (.ok (), after, later)) :
    (after.lookup? path = document.lookup? path ∨
      after.lookup? path = none ∧
        EnterList ((steps update).flatMap (Step.writable inserting))
          (Path.segments path) document) ∧
    (EnterList ((steps update).flatMap (Step.written inserting))
      (Path.segments path) document →
      after.lookup? path = none) := by
  have eachApart : ∀ step ∈ steps update, ∀ named ∈ step.named,
      Path.Apart (Path.segments named) (Path.segments path) :=
    fun step member named own =>
      apart named (List.mem_flatMap.mpr ⟨step, member, own⟩)
  have succeed := succeed_of_apply applied
  constructor
  · have changed :
        KeptOrLost ((steps update).flatMap (Step.writable inserting))
          (Path.segments path) document after :=
      keptOrLost_of_succeed eachApart
        (fun step member path own => List.mem_flatMap.mpr ⟨step, member, own⟩)
        once succeed
    rcases changed.met with same | ⟨unmet, enter⟩
    · exact .inl (congrArg Prod.fst same)
    · exact .inr ⟨congrArg Prod.fst unmet, enter⟩
  · intro enter
    exact congrArg Prod.fst (lost_of_succeed eachApart once enter succeed)

/-- A document with a list, next to an object. -/
def listAndObject : Document :=
  [("a", .array [.ofInt 1, .ofInt 2]),
    ("b", .object [("c", .ofInt 3), ("d", .ofInt 4)])]

/-- Additions to an item of the list and to a member of the object. -/
def additions : Document :=
  [("$inc", .object [("a.0", .ofInt 1), ("b.c", .ofInt 1)])]

/-- The document with an object in the place of the list. -/
def objectsOnly : Document :=
  [("a", .object [("0", .ofInt 2)]),
    ("b", .object [("c", .ofInt 4), ("d", .ofInt 4)])]

theorem apply_keeps_or_loses_other_paths_of_additions :
    (∀ path ∈ ["a.1", "b.d"],
      (∀ named ∈ (steps additions).flatMap Step.named,
        Path.Apart (Path.segments named) (Path.segments path)) ∧
      Path.NamesOnce (Path.segments path) (.object listAndObject)) ∧
    (apply false additions).runFrom (listAndObject, Store.firstSupply) =
      (.ok (), objectsOnly, Store.firstSupply) ∧
    objectsOnly.lookup? "a.1" = none ∧
    objectsOnly.lookup? "b.d" = listAndObject.lookup? "b.d" := by
  have apart :
      ∀ path ∈ ["a.1", "b.d"], ∀ named ∈ (steps additions).flatMap Step.named,
      Path.Apart (Path.segments named) (Path.segments path) := by
    decide +kernel
  have once : ∀ path ∈ ["a.1", "b.d"],
      Path.NamesOnce (Path.segments path) (.object listAndObject) := by
    have outside : Entries.Distinct listAndObject := by
      simp [Entries.Distinct, Entries.keys, listAndObject]
    simp only [List.forall_mem_cons]
    refine ⟨⟨outside, ?_⟩, ⟨outside, ?_⟩, by simp⟩
    · rintro _ ⟨⟩
      trivial
    · rintro _ ⟨⟩
      refine ⟨by simp [Entries.Distinct, Entries.keys], ?_⟩
      rintro _ ⟨⟩
      trivial
  have ran :
      (apply false additions).runFrom (listAndObject, Store.firstSupply) =
      (.ok (), objectsOnly, Store.firstSupply) :=
    rfl
  have entered :
      EnterList ((steps additions).flatMap (Step.written false))
        (Path.segments "a.1")
      listAndObject :=
    ⟨"a.0", by decide, ["a"], rfl, by decide +kernel⟩
  have spared : ¬EnterList ((steps additions).flatMap (Step.writable false))
      (Path.segments "b.d") listAndObject := by
    rintro ⟨_, -, way, onWay, -⟩
    cases onWay
  refine ⟨fun path member => ⟨apart path member, once path member⟩, ran, ?_, ?_⟩
  · exact (apply_keeps_or_loses_other_paths (apart _ (by simp))
      (once _ (by simp)) ran).2 entered
  · rcases (apply_keeps_or_loses_other_paths (apart "b.d" (by simp))
        (once _ (by simp)) ran).1 with
      same | ⟨-, enter⟩
    · exact same
    · exact absurd enter spared

/--
Adding to an item of a list loses the item behind it, which no path
of the update names.
-/
theorem increment_loses_other_item :
    (∀ named ∈ (steps additions).flatMap Step.named,
      Path.Apart (Path.segments named) (Path.segments "a.1")) ∧
    (apply false additions).runFrom (listAndObject, Store.firstSupply) =
      (.ok (), objectsOnly, Store.firstSupply) ∧
    listAndObject.lookup? "a.1" = some (.ofInt 2) ∧
    objectsOnly.lookup? "a.1" = none :=
  ⟨by decide +kernel, rfl, rfl, rfl⟩

end Update

end PolyQuery
