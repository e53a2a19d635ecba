import PolyQuery.Proofs.Document.BareValues
import PolyQuery.Proofs.Document.ExactUpdates
import PolyQuery.Proofs.Document.ProvidedValues
import PolyQuery.Proofs.Document.ReplayedUpdates
import PolyQuery.Proofs.Query.CompletedRows

namespace PolyQuery

open DocumentCompiler Failing

/-!
# Moved fields

An update that renames a field to another one takes the value from the column of
the first field and writes it at the name of the second one. Rows are read from
columns and filters look into them. So the value arrives at a field that is
stored under its own name. A field that is stored under another name keeps what
its column held, and no filter finds the value there.
-/

namespace Json

/-- What a value holds at a route is nested less deep than the value. -/
theorem depth_lt_of_get?
    {first : String}
    {rest : List String}
    {whole value : Json}
    (found : Path.get? (first :: rest) whole = some value) :
    value.depth < whole.depth := by
  have behind :
      ∀ inner, inner.depth < whole.depth → Path.get? rest inner = some value →
        value.depth < whole.depth := by
    intro inner less foundThere
    cases rest with
    | nil =>
        cases foundThere
        exact less
    | cons second others =>
        exact Nat.lt_trans (depth_lt_of_get? foundThere) less
  cases whole with
  | object members =>
      rw [Path.get?] at found
      cases isThere : Entries.get? members first with
      | none =>
          rw [isThere] at found
          cases found
      | some inner =>
          rw [isThere] at found
          have within := depth_le_depthOfMembers (Entries.mem_of_get? isThere)
          exact behind inner (Nat.lt_succ_of_le within) found
  | array items =>
      rw [Path.get?] at found
      cases isThere :
          (Path.position? first).bind fun position => items[position]? with
      | none =>
          rw [isThere] at found
          cases found
      | some inner =>
          rw [isThere] at found
          obtain ⟨position, -, isItem⟩ := Option.bind_eq_some_iff.mp isThere
          have within := depth_le_depthOfItems (List.mem_of_getElem? isItem)
          exact behind inner (Nat.lt_succ_of_le within) found
  | _ =>
      cases found

end Json

namespace Update

/-- The changes that rename a key to a path. -/
def renameOf
    (key target : String) :
    Document :=
  [("$rename", .object [(key, .string target)])]

/-- What a renaming of a key makes of a document. -/
def moved
    (key target : String)
    (document : Document) :
    Document :=
  match document.get? key with
  | some value => Document.setPath (document.erase key) target value
  | none => document

section Moves

variable
  {key target : String}
  {document : Document}

/--
A write at a path leaves every key alone but the one that the path begins with.
-/
theorem get?_setPath_of_elsewhere
    {other : String}
    (notRoot : Path.rootOf target ≠ other)
    {value : Json} :
    (document.setPath target value).get? other = document.get? other := by
  obtain ⟨rest, isRoute, -⟩ := Path.segments_eq_cons target
  have elsewhere : (Path.segments target).head? ≠ some other := by
    rw [isRoute, List.head?_cons]
    exact fun same => notRoot (Option.some.inj same)
  rw [Document.setPath, Entries.get?_eq_head?_under,
    Path.under_set_of_ne elsewhere, ← Entries.get?_eq_head?_under]

/-- A renaming of a plain key succeeds on every document. -/
theorem applyTo_renameOf
    (plain : IsPlainKey key)
    (inserting : Bool)
    (document : Document)
    (supply : Supply) :
    Collection.applyTo inserting (renameOf key target) document supply =
      (.ok (), moved key target document, supply) := by
  have changed :
      change inserting "$rename" key (.string target) document =
        .ok (moved key target document) := by
    change rename document key (.string target) = _
    rw [rename, Document.removePath?_of_plain plain, moved]
    cases document.get? key <;> rfl
  have notClock : ("$rename" : String) ≠ "$currentDate" := by decide
  simp only [Collection.applyTo, renameOf, apply, applyPaths, changeAt,
    Stateful.runFrom_bind, Stateful.runFrom_get, if_neg notClock, changed,
    Stateful.runFrom_set, Stateful.runFrom_pure]

variable
  {value : Json}
  (found : document.get? key = some value)

include found

theorem moved_eq :
    moved key target document =
      Document.setPath (document.erase key) target value := by
  rw [moved, found]

/-- The value stands at the path that its key was renamed to. -/
theorem lookup?_moved :
    (moved key target document).lookup? target = some value := by
  rw [moved_eq found, Document.lookup?_setPath]

/-- A key that is neither renamed nor on the way to the path keeps its value. -/
theorem get?_moved_of_elsewhere
    (distinct : document.Distinct)
    {other : String}
    (notKey : key ≠ other)
    (notRoot : Path.rootOf target ≠ other) :
    (moved key target document).get? other = document.get? other := by
  rw [moved_eq found, get?_setPath_of_elsewhere notRoot,
    Entries.get?_erase_of_ne distinct notKey]

/-- A renamed key is gone unless the path leads through it. -/
theorem get?_moved_self
    (distinct : document.Distinct)
    (notRoot : Path.rootOf target ≠ key) :
    (moved key target document).get? key = none := by
  rw [moved_eq found, get?_setPath_of_elsewhere notRoot,
    Entries.get?_erase_self distinct found]

theorem distinct_moved_of_plain
    (distinct : document.Distinct)
    (plainTarget : IsPlainKey target) :
    (moved key target document).Distinct := by
  rw [moved_eq found, Document.setPath_of_plain plainTarget]
  exact Entries.distinct_insert (Entries.distinct_erase distinct found) _ _

/-- A key from which the path leads further has an object around the value. -/
theorem get?_moved_of_within
    (within : Path.rootOf target ≠ target) :
    ∃ members,
      (moved key target document).get? (Path.rootOf target) =
          some (.object members) ∧
        value.depth < (Json.object members).depth := by
  obtain ⟨rest, isRoute, single⟩ := Path.segments_eq_cons target
  cases rest with
  | nil =>
      exact absurd (Path.rootOf_of_plain (single.mp rfl)) within
  | cons second others =>
      have isSet :
          (moved key target document).get? (Path.rootOf target) =
            some (.object (Path.set (second :: others) value
              (Path.membersOf
                (Entries.get? (document.erase key)
                  (Path.rootOf target))))) := by
        rw [moved_eq found, Document.setPath, isRoute, Path.set,
          Entries.get?_alter, if_pos rfl]
        exact List.cons_ne_nil second others
      exact ⟨_, isSet,
        Json.depth_lt_of_get? (Path.get?_set second others value _)⟩

end Moves

end Update

namespace Schema

/--
An ordinary field whose column is a plain key, and neither the
identifier's nor an operator.
-/
structure HasPlainColumn
    (schema : Schema)
    (field : Field) :
    Prop extends schema.IsOrdinaryField field where
  notIdKey : field.storage ≠ idKey
  plain : IsPlainKey field.storage
  unmarked : Operator.isMarked field.storage = false

/-- A document has a name as a key that is the column of no field. -/
def HasStray
    (schema : Schema)
    (name : String)
    (document : Document) :
    Prop :=
  document.contains name = true ∧ schema.fieldForStorage? name = none

section Names

variable
  {schema : Schema}
  (distinctNames : (schema.fields.map Field.name).Nodup)
  {field : Field}
  (hasColumn : schema.HasPlainColumn field)

include distinctNames hasColumn

/--
A key is shown as a field if it is the field's column, or the
field's name and no column.
-/
theorem HasPlainColumn.fieldName_eq_iff
    (distinctStorages : (schema.fields.map Field.storage).Nodup)
    (key : String) :
    fieldName schema key = field.name ↔
      key = field.storage ∨
        key = field.name ∧ schema.fieldForStorage? key = none := by
  have ownColumn :=
    fieldForStorage?_of_distinct distinctStorages hasColumn.member
  unfold fieldName
  by_cases isIdKey : key = idKey
  · rw [if_pos isIdKey, isIdKey]
    refine iff_of_false ?_ ?_
    · cases isKey : schema.primaryKey? with
      | none =>
          exact hasColumn.notReserved.symm
      | some primary =>
          intro sameName
          have isPrimary := List.find?_some isKey
          have sameField :=
            List.inj_on_of_nodup_map distinctNames
              (List.mem_of_find?_eq_some isKey) hasColumn.member sameName
          rw [sameField, hasColumn.notPrimary] at isPrimary
          cases isPrimary
    · rintro (isColumn | ⟨isName, -⟩)
      · exact hasColumn.notIdKey isColumn.symm
      · exact hasColumn.notReserved isName.symm
  · rw [if_neg isIdKey]
    cases stored : schema.fieldForStorage? key with
    | none =>
        have notColumn : key ≠ field.storage := by
          rintro rfl
          rw [ownColumn] at stored
          cases stored
        simp [notColumn]
    | some other =>
        have isColumn : other.storage = key := by
          simpa using List.find?_some stored
        constructor
        · intro sameName
          have sameField :=
            List.inj_on_of_nodup_map distinctNames
              (List.mem_of_find?_eq_some stored) hasColumn.member sameName
          exact .inl (by rw [← isColumn, sameField])
        · rintro (rfl | ⟨-, noColumn⟩)
          · rw [ownColumn] at stored
            rw [← Option.some.inj stored]
            rfl
          · cases noColumn

end Names

end Schema

namespace DocumentCompiler

/--
Whether the column of a field holds a value that a filter by equality finds.
-/
def holdsEqual
    (field : Field)
    (value : Json)
    (document : Document) :
    Bool :=
  Matching.equals (document.lookup? field.storage) value

/--
The value of a field stands in another one: rows show it, and filters find it.
-/
structure ArrivesAt
    (schema : Schema)
    (source target : Field)
    (value : Json)
    (before after : Document) :
    Prop where
  shown : (fromStore ObjectId.codec schema after).get? target.name = some value
  gone :
    (fromStore ObjectId.codec schema after).contains source.name = true ↔
      schema.HasStray source.name before
  found : holdsEqual target value after = true

/--
The value of a field stands at the name of another one, whose column is as it
was.

Only where the name leads through the column does the column change, and then it
holds an object around the value.
-/
structure MissesColumn
    (target : Field)
    (value : Json)
    (before after : Document) :
    Prop where
  written : after.lookup? target.name = some value
  found :
    holdsEqual target value after =
      (decide (Path.rootOf target.name ≠ target.storage) &&
        holdsEqual target value before)

section Rows

variable
  {codec : IdentifierCodec}
  {schema : Schema}
  {document : Document}

/-- A row has the names of the keys of its document. -/
theorem contains_fromStore_iff
    {name : String} :
    (fromStore codec schema document).contains name = true ↔
      ∃ key, document.contains key = true ∧ fieldName schema key = name := by
  rw [fromStore, Entries.contains_ofList_iff, Entries.keys, List.map_map,
    List.mem_map]
  constructor
  · rintro ⟨entry, member, isName⟩
    exact ⟨entry.1,
      Entries.contains_iff_mem_keys.mpr (Entries.mem_keys_of_mem member),
      isName⟩
  · rintro ⟨key, contained, isName⟩
    obtain ⟨entry, member, rfl⟩ :=
      List.mem_map.mp (Entries.contains_iff_mem_keys.mp contained)
    exact ⟨entry, member, isName⟩

/--
A value is shown under the name of its key if no other key is shown under it.
-/
theorem get?_fromStore_of_alone
    (distinct : document.Distinct)
    {key : String}
    {value : Json}
    (found : document.get? key = some value)
    (notIdKey : key ≠ idKey)
    (alone :
      ∀ other, document.contains other = true →
        fieldName schema other = fieldName schema key → other = key) :
    (fromStore codec schema document).get? (fieldName schema key) =
      some value := by
  refine Entries.get?_ofList_of_alone
    (List.mem_map.mpr ⟨_, Entries.mem_of_get? found, ?_⟩) ?_
  · rw [if_neg notIdKey]
  · intro entry member sameName
    obtain ⟨⟨other, stored⟩, isStored, rfl⟩ := List.mem_map.mp member
    have contained :=
      Entries.contains_iff_mem_keys.mpr (Entries.mem_keys_of_mem isStored)
    have sameKey := alone other contained sameName
    subst sameKey
    rw [Entries.get?_of_mem distinct isStored] at found
    rw [if_neg notIdKey]
    exact Option.some.inj found

variable
  (distinctNames : (schema.fields.map Field.name).Nodup)
  (distinctStorages : (schema.fields.map Field.storage).Nodup)
  {field : Field}
  (hasColumn : schema.HasPlainColumn field)

include distinctNames distinctStorages hasColumn

/--
A row has a field if its document has the field's column, or the
field's name astray.
-/
theorem contains_field_fromStore_iff :
    (fromStore codec schema document).contains field.name = true ↔
      document.contains field.storage = true ∨
        schema.HasStray field.name document := by
  rw [contains_fromStore_iff]
  simp only [hasColumn.fieldName_eq_iff distinctNames distinctStorages]
  constructor
  · rintro ⟨key, contained, rfl | ⟨rfl, noColumn⟩⟩
    · exact .inl contained
    · exact .inr ⟨contained, noColumn⟩
  · rintro (contained | ⟨contained, noColumn⟩)
    · exact ⟨_, contained, .inl rfl⟩
    · exact ⟨_, contained, .inr ⟨rfl, noColumn⟩⟩

/--
A row shows what the column of a field holds, unless the field's name is astray.
-/
theorem get?_field_fromStore
    (distinct : document.Distinct)
    (noStray : ¬schema.HasStray field.name document)
    {value : Json}
    (found : document.get? field.storage = some value) :
    (fromStore codec schema document).get? field.name = some value := by
  have isShown := hasColumn.fieldName_eq_iff distinctNames distinctStorages
  have isNamed : fieldName schema field.storage = field.name :=
    (isShown _).mpr (.inl rfl)
  rw [← isNamed]
  refine get?_fromStore_of_alone distinct found hasColumn.notIdKey
    fun other contained same => ?_
  rcases (isShown other).mp (same.trans isNamed) with isColumn | ⟨rfl, noColumn⟩
  · exact isColumn
  · exact absurd ⟨contained, noColumn⟩ noStray

end Rows

section Documents

variable
  {schema : Schema}
  (distinctNames : (schema.fields.map Field.name).Nodup)
  (distinctStorages : (schema.fields.map Field.storage).Nodup)
  {source target : Field}
  (isSource : schema.HasPlainColumn source)
  (isTarget : schema.HasPlainColumn target)
  (different : source ≠ target)
  {document : Document}
  (single : (Json.object document).Collapsed)
  {value : Json}
  (found : document.get? source.storage = some value)

include distinctStorages isSource isTarget different single found

/-- A target that is stored under another name than its own keeps its column. -/
theorem missesColumn_moved
    (otherName : target.storage ≠ target.name) :
    MissesColumn target value document
      (Update.moved source.storage target.name document) where
  written := Update.lookup?_moved found
  found := by
    have distinct := (Json.collapsed_object_iff.mp single).1
    have otherColumn : source.storage ≠ target.storage := fun sameStorage =>
      different
        (List.inj_on_of_nodup_map distinctStorages isSource.member
          isTarget.member sameStorage)
    rw [holdsEqual, holdsEqual, Document.lookup?_of_plain isTarget.plain,
      Document.lookup?_of_plain isTarget.plain]
    by_cases within : Path.rootOf target.name = target.storage
    · have further : Path.rootOf target.name ≠ target.name := within ▸ otherName
      obtain ⟨members, isObject, deeper⟩ :=
        Update.get?_moved_of_within found further
      rw [← within, isObject, Matching.equals_of_deeper deeper]
      simp
    · rw [Update.get?_moved_of_elsewhere found distinct otherColumn within]
      simp [within]

include distinctNames

/-- The value arrives at a target that is stored under its own name. -/
theorem arrivesAt_moved
    (ownName : target.storage = target.name) :
    ArrivesAt schema source target value document
      (Update.moved source.storage target.name document) := by
  have distinct := (Json.collapsed_object_iff.mp single).1
  have otherColumn : source.storage ≠ target.storage := fun sameStorage =>
    different
      (List.inj_on_of_nodup_map distinctStorages isSource.member isTarget.member
        sameStorage)
  have otherName : source.name ≠ target.name := fun sameName =>
    different
      (List.inj_on_of_nodup_map distinctNames isSource.member isTarget.member
        sameName)
  have plainName : IsPlainKey target.name := ownName ▸ isTarget.plain
  have stands :
      (Update.moved source.storage target.name document).get? target.storage =
        some value := by
    rw [ownName, ← Document.lookup?_of_plain plainName,
      Update.lookup?_moved found]
  have notStray :
      ¬schema.HasStray target.name
        (Update.moved source.storage target.name document) := by
    rintro ⟨-, noColumn⟩
    rw [← ownName,
      Schema.fieldForStorage?_of_distinct distinctStorages isTarget.member]
      at noColumn
    cases noColumn
  have isGone :
      (Update.moved source.storage target.name document).get? source.storage =
        none := by
    refine Update.get?_moved_self found distinct ?_
    rw [Path.rootOf_of_plain plainName, ← ownName]
    exact otherColumn.symm
  have sameStray :
      schema.HasStray source.name
          (Update.moved source.storage target.name document) ↔
        schema.HasStray source.name document := by
    refine and_congr_left fun noColumn => ?_
    have notColumn : source.storage ≠ source.name := by
      intro isColumn
      rw [← isColumn,
        Schema.fieldForStorage?_of_distinct distinctStorages isSource.member]
        at noColumn
      cases noColumn
    rw [Entries.contains, Entries.contains,
      Update.get?_moved_of_elsewhere found distinct notColumn]
    rw [Path.rootOf_of_plain plainName]
    exact otherName.symm
  exact {
    shown :=
      get?_field_fromStore distinctNames distinctStorages isTarget
        (Update.distinct_moved_of_plain found distinct plainName) notStray
        stands
    gone := by
      rw [contains_field_fromStore_iff distinctNames distinctStorages isSource,
        Entries.contains, isGone, sameStray]
      simp
    found := by
      have equal := Json.same_self value (single.of_get? found)
      rw [holdsEqual, Document.lookup?_of_plain isTarget.plain, stands]
      simp only [Matching.equals, equal, Bool.true_or]
  }

end Documents

/--
The update document of a renaming has a key for the source, but the
target as it was given.
-/
theorem updateDocument_renameOf
    (codec : IdentifierCodec)
    (schema : Schema)
    (source target : String) :
    updateDocument codec schema (Update.renameOf source target) =
      .ok (Update.renameOf (fieldKey schema source) target) :=
  rfl

/-- An update by one renaming is compiled if its filter is. -/
theorem compile_renameOf
    (codec : IdentifierCodec)
    {query : Query}
    (isUpdate : query.kind = .update)
    {source target : String}
    (values : query.values = some (.single (Update.renameOf source target))) :
    compile codec query =
      (filterDocument codec query).map fun filter =>
        .update query.schema.storage filter
          (Update.renameOf (fieldKey query.schema source) target)
          (!query.single) query.upsert := by
  simp only [compile, isUpdate, updateOperation, values,
    updateDocument_renameOf]
  cases filterDocument codec query <;> rfl

end DocumentCompiler

namespace Mutation

/-- Where nothing fills a field, a row of one entry is resolved to itself. -/
theorem resolveRow_single
    {m : Type → Type}
    [Monad m]
    [LawfulMonad m]
    (evaluate : Provider → m Json)
    {schema : Schema}
    (distinctNames : (schema.fields.map Field.name).Nodup)
    {purpose : WritePurpose}
    (noneFills : ∀ field ∈ schema.fields, field.provider? purpose = none)
    (name : String)
    (value : Json) :
    resolveRow evaluate schema purpose [(name, value)] =
      pure [(name, value)] := by
  have distinct : Entries.Distinct [(name, value)] := List.nodup_singleton name
  have noneAsked : leftOut purpose schema.fields [(name, value)] = [] := by
    refine List.filterMap_eq_nil_iff.mpr fun field member => ?_
    rw [request?, noneFills field member]
    split <;> rfl
  have given : Entries.get? [(name, value)] name = some value := by
    rw [Entries.get?_cons, if_pos rfl]
  have stands :
      (completedRow schema purpose [(name, value)] []).get? name = some value :=
    get?_completedRow_of_given distinctNames distinct given
  have known :
      ∀ field ∈ schema.fields,
        (completedValue? purpose [(name, value)] [] field).isSome =
          decide (field.name = name) := by
    intro field member
    rw [completedValue?, noneFills field member, Option.bind_none,
      Option.or_none, Entries.get?_cons]
    by_cases isName : name = field.name <;> simp [isName, eq_comm]
  have keys :
      (completedRow schema purpose [(name, value)] []).keys = [name] := by
    rw [completedRow, Entries.keys_append, keys_completedFields,
      keys_unknownEntries, List.filter_congr known, Entries.keys_cons]
    by_cases isKnown : name ∈ schema.fields.map Field.name
    · obtain ⟨field, member, rfl⟩ := List.mem_map.mp isKnown
      have notUnknown : ¬(schema.field? field.name).isNone = true := by
        rw [isNone_field?_iff, not_not]
        exact isKnown
      rw [filter_eq_singleton distinctNames member, List.filter_cons,
        if_neg notUnknown]
      rfl
    · have noField :
          schema.fields.filter (fun field => field.name = name) = [] := by
        refine List.filter_eq_nil_iff.mpr
          fun field member sameName => isKnown ?_
        rw [← of_decide_eq_true sameName]
        exact List.mem_map_of_mem member
      rw [noField, List.filter_cons, if_pos (isNone_field?_iff.mpr isKnown)]
      rfl
  obtain ⟨⟨first, stored⟩, isEntry, isName⟩ := List.map_eq_singleton_iff.mp keys
  dsimp only at isName
  subst isName
  rw [isEntry, Entries.get?_cons, if_pos rfl] at stands
  rw [resolveRow_eq purpose evaluate distinctNames distinct, noneAsked,
    List.mapM_nil, map_pure, isEntry, Option.some.inj stands]

end Mutation

namespace Builder

/--
The query of an update by one row that nothing fills has the
row as it was given.
-/
theorem values_of_update_single
    {builder : Builder}
    {schema : Schema}
    (distinctNames : (schema.fields.map Field.name).Nodup)
    (noneFills : ∀ field ∈ schema.fields, field.onUpdate = none)
    (entity : builder.schema = some schema)
    {name : String}
    {value : Json}
    (given : builder.values = some (.single [(name, value)]))
    {supply drawn : Supply}
    {query : Query}
    (built : builder.update.runFrom supply = (.ok query, drawn)) :
    query = builder.freeze .update schema (some (.single [(name, value)])) := by
  obtain ⟨-, resolved, resolution, rfl⟩ := (update_eq_ok entity given).mp built
  have noneProvides : ∀ field ∈ schema.fields, field.provider? .update = none :=
    noneFills
  rw [Mutation.resolveRow_single Supply.evaluate distinctNames noneProvides]
    at resolution
  cases resolution
  rfl

end Builder

namespace Collection

section Results

variable
  {filter changes : Document}
  {many upserting : Bool}
  {before after : List Document}
  {supply left : Supply}

/--
What an update affects is what its changes succeed on, paired with
what they make of it.
-/
theorem Affected.applyTo_of_picked
    {touched : List Document}
    (affected :
      Affected (JudgedBy filter) (ChangedBy changes) many touched before supply
        after left) :
    ∀ change ∈ picked many (wasMet filter) (before.zip after),
      ∃ drawn further,
        applyTo false changes change.1 drawn = (.ok (), change.2, further) := by
  induction affected with
  | none =>
      intro change member
      cases (of_mem_picked member).1
  | @passedOver document _ _ _ _ _ spared _ inductionHypothesis =>
      have fails : wasMet filter (document, document) = false :=
        meets_of_judgedBy spared
      rw [List.zip_cons_cons, picked_cons_of_failing _ fails]
      exact inductionHypothesis
  | @taken document _ _ _ _ _ _ _ all chosen becomes _ inductionHypothesis =>
      obtain ⟨changed, rfl, applied⟩ := becomes
      have isPassing : wasMet filter (document, changed) = true :=
        meets_of_judgedBy chosen
      rw [List.singleton_append, List.zip_cons_cons,
        picked_cons_of_passing _ isPassing, if_pos all]
      exact List.forall_mem_cons.mpr ⟨⟨_, _, applied⟩, inductionHypothesis⟩
  | @only document _ _ _ _ one chosen becomes =>
      obtain ⟨changed, rfl, applied⟩ := becomes
      have isPassing : wasMet filter (document, changed) = true :=
        meets_of_judgedBy chosen
      rw [List.singleton_append, List.zip_cons_cons,
        picked_cons_of_passing _ isPassing, one]
      exact List.forall_mem_singleton.mpr ⟨_, _, applied⟩

theorem Settled.applyTo_of_picked
    {outcome : Outcome}
    (settled :
      Settled filter changes many upserting before supply outcome after left) :
    ∀ change ∈ picked many (wasMet filter) (before.zip after),
      ∃ drawn further,
        applyTo false changes change.1 drawn = (.ok (), change.2, further) := by
  cases settled with
  | updated affected =>
      exact affected.applyTo_of_picked
  | inserted spared =>
      intro change member
      obtain ⟨isPair, isMet⟩ := of_mem_picked member
      have notMet := meets_of_judgedBy (spared _ (List.of_mem_zip isPair).1)
      cases notMet.symm.trans isMet

/--
An update whose changes succeed on every document fails only
where its filter does.
-/
theorem exists_unjudged_of_updateMatching
    (total :
      ∀ document supply, ∃ changed further,
        applyTo false changes document supply = (.ok (), changed, further))
    {tally : Tally}
    {cause : QueryError}
    (failed :
      updateMatching filter changes many before tally supply =
        (.error cause, after, left)) :
    ∃ document ∈ before, document.matches filter = .error cause := by
  cases stopped_of_updateMatching failed with
  | @atDocument _ _ _ _ document _ drawn _ places _ _ fails =>
      cases fails with
      | unjudged unjudged =>
          exact ⟨document, by simp [places], unjudged⟩
      | halfway _ failed =>
          obtain ⟨changed, further, succeeded⟩ := total document drawn
          rw [succeeded] at failed
          cases failed

end Results

end Collection

namespace Store

/--
An update whose changes succeed on every document fails only
where its filter does.
-/
theorem exists_unjudged_of_run_update
    {changes : Document}
    (total :
      ∀ document supply, ∃ changed further,
        Collection.applyTo false changes document supply =
          (.ok (), changed, further))
    {name : String}
    {filter : Document}
    {many : Bool}
    {state after : StoreState}
    {cause : QueryError}
    (failed :
      (run (.update name filter changes many false)).runFrom state =
        (.error cause, after)) :
    ∃ document ∈ (state.1.collection name).documents,
      document.matches filter = .error cause := by
  have failedThere := Stateful.runFrom_bind_pure_eq_error.mp failed
  rw [onPresent_runFrom] at failedThere
  split at failedThere
  next =>
    obtain ⟨changed, left, ranThere, -⟩ := exists_of_onCollection failedThere
    rw [Collection.update_runFrom_without_upsert] at ranThere
    cases matched :
        Collection.updateMatching filter changes many
          (state.1.collection name).documents {} state.2 with
    | mk result further =>
        rw [matched] at ranThere
        cases result with
        | ok tally =>
            cases ranThere
        | error other =>
            cases ranThere
            exact Collection.exists_unjudged_of_updateMatching total matched
  next =>
    cases failedThere

section Renamings

variable
  {query : Query}
  (isUpdate : query.kind = .update)
  {source target : String}
  (values : query.values = some (.single (Update.renameOf source target)))
  (plain : IsPlainKey (fieldKey query.schema source))
  {state after : StoreState}

include isUpdate values plain

/--
An update by a renaming that may not insert fails only where its filter does.
-/
theorem exists_unjudged_of_execute_rename
    (noUpsert : query.upsert = false)
    {cause : QueryError}
    (failed : (execute query).runFrom state = (.error cause, after)) :
    filterDocument ObjectId.codec query = .error cause ∨
      ∃ filter, filterDocument ObjectId.codec query = .ok filter ∧
        ∃ document ∈ (state.1.collection query.schema.storage).documents,
          document.matches filter = .error cause := by
  have isWrite : query.kind ≠ .select := isUpdate ▸ StatementKind.noConfusion
  rw [execute_runFrom isWrite, compile_renameOf ObjectId.codec isUpdate values]
    at failed
  cases filtered : filterDocument ObjectId.codec query with
  | error other =>
      rw [filtered] at failed
      cases failed
      exact .inl rfl
  | ok filter =>
      rw [filtered, Except.map, noUpsert] at failed
      dsimp only at failed
      cases ran :
          (run
            (.update query.schema.storage filter
              (Update.renameOf (fieldKey query.schema source) target)
              (!query.single) false)).runFrom state with
      | mk answer reached =>
          rw [ran] at failed
          cases answer with
          | ok answered =>
              cases failed
          | error other =>
              cases failed
              exact .inr ⟨filter, rfl,
                exists_unjudged_of_run_update (fun document supply =>
                  ⟨_, _, Update.applyTo_renameOf plain false document supply⟩)
                  ran⟩

/--
An update by a renaming that succeeds has moved the value of what
its filter holds of.
-/
theorem moved_of_execute_rename
    {outcome : Outcome}
    (succeeded : (execute query).runFrom state = (.ok outcome, after)) :
    ∃ filter, filterDocument ObjectId.codec query = .ok filter ∧
      ∀ change ∈
          picked (!query.single) (Collection.wasMet filter)
            ((state.1.collection query.schema.storage).documents.zip
              (after.1.collection query.schema.storage).documents),
        change.2 =
          Update.moved (fieldKey query.schema source) target change.1 := by
  have isWrite : query.kind ≠ .select := isUpdate ▸ StatementKind.noConfusion
  obtain ⟨operation, answered, isOperation, ran⟩ :=
    execute_eq_ok isWrite succeeded
  rw [compile_renameOf ObjectId.codec isUpdate values] at isOperation
  cases filtered : filterDocument ObjectId.codec query with
  | error other =>
      rw [filtered] at isOperation
      cases isOperation
  | ok filter =>
      rw [filtered] at isOperation
      cases isOperation
      refine ⟨filter, rfl, fun change member => ?_⟩
      obtain ⟨drawn, further, applied⟩ :=
        (settled_of_run_update ran).1.applyTo_of_picked change member
      rw [Update.applyTo_renameOf plain] at applied
      exact (congrArg (fun ran => ran.2.1) applied).symm

end Renamings

end Store

namespace Builder

/--
A renamed field arrives where the target is stored under its own name.

An update by a renaming, of whatever its filter holds of, fails only where its
filter does. If it succeeds, it has moved the value of every document that it
affects to the name of the target. Where that is the column of the target, rows
show the value for the target and no more the source, and a select by equality
finds it. Where the column is another one, no select looks at the value: it
finds what it found before.
-/
theorem rename_arrives_at_own_name
    {schema : Schema}
    (distinctNames : (schema.fields.map Field.name).Nodup)
    (distinctStorages : (schema.fields.map Field.storage).Nodup)
    {source target : Field}
    (isSource : schema.HasPlainColumn source)
    (isTarget : schema.HasPlainColumn target)
    (different : source ≠ target)
    (noneFills : ∀ field ∈ schema.fields, field.onUpdate = none)
    {builder : Builder}
    (entity : builder.schema = some schema)
    (given :
      builder.values = some (.single (Update.renameOf source.name target.name)))
    {supply drawn : Supply}
    {query : Query}
    (built : builder.update.runFrom supply = (.ok query, drawn))
    {state after : StoreState}
    (single :
      ∀ document ∈ (state.1.collection schema.storage).documents,
        (Json.object document).Collapsed)
    {result : Except QueryError Outcome}
    (executed : (Store.execute query).runFrom state = (result, after)) :
    (builder.upsert = false →
      ∀ cause, result = .error cause →
        filterDocument ObjectId.codec query = .error cause ∨
          ∃ filter, filterDocument ObjectId.codec query = .ok filter ∧
            ∃ document ∈ (state.1.collection schema.storage).documents,
              document.matches filter = .error cause) ∧
      ∀ outcome, result = .ok outcome →
        ∃ filter, filterDocument ObjectId.codec query = .ok filter ∧
          (∀ change ∈
              picked (!query.single) (Collection.wasMet filter)
                ((state.1.collection schema.storage).documents.zip
                  (after.1.collection schema.storage).documents),
            ∀ value, change.1.get? source.storage = some value →
              (target.storage = target.name →
                ArrivesAt schema source target value change.1 change.2) ∧
                (target.storage ≠ target.name →
                  MissesColumn target value change.1 change.2)) ∧
            ∀ value,
              ((selecting schema).constrainBy target.name "eq" value).fetched
                  after =
                (.ok (((after.1.collection schema.storage).documents.filter
                  (holdsEqual target value)).map
                  (fromStore ObjectId.codec schema)), after) := by
  have isQuery :=
    values_of_update_single distinctNames noneFills entity given built
  have isUpdate : query.kind = .update := congrArg Query.kind isQuery
  have values := congrArg Query.values isQuery
  have ofSchema : query.schema = schema := congrArg Query.schema isQuery
  have sameUpsert : query.upsert = builder.upsert :=
    congrArg (fun query => query.upsert) isQuery
  have sourceKey : fieldKey query.schema source.name = source.storage := by
    rw [ofSchema, isSource.fieldKey_eq distinctNames]
  have plain : IsPlainKey (fieldKey query.schema source.name) :=
    sourceKey ▸ isSource.plain
  constructor
  · rintro noUpsert cause rfl
    have fails :=
      Store.exists_unjudged_of_execute_rename isUpdate values plain
        (sameUpsert.trans noUpsert) executed
    rw [ofSchema] at fails
    exact fails
  · rintro outcome rfl
    obtain ⟨filter, filtered, moves⟩ :=
      Store.moved_of_execute_rename isUpdate values plain executed
    rw [sourceKey, ofSchema] at moves
    refine ⟨filter, filtered, fun change member value found => ?_,
      fun value => ?_⟩
    · have singleHere :=
        single change.1 (List.of_mem_zip (of_mem_picked member).1).1
      rw [moves change member]
      exact
        ⟨arrivesAt_moved distinctNames distinctStorages isSource isTarget
          different singleHere
            found,
          missesColumn_moved distinctStorages isSource isTarget different
            singleHere found⟩
    · have unmarked := isTarget.unmarked
      rw [← isTarget.fieldKey_eq distinctNames] at unmarked
      rw [fetched_equal_rows unmarked, isTarget.fieldKey_eq distinctNames,
        storedValue, if_neg isTarget.notIdKey]
      rfl

/-- A field that is stored in a column of another name. -/
def draftField : Field :=
  ⟨"draft", some "d", false, none, none⟩

/--
A field in a column, which is named like the field unless it is said otherwise.
-/
def textField
    (column : Option String) :
    Field :=
  ⟨"text", column, false, none, none⟩

/-- An entity with an identifier, a draft and a text. -/
def noteSchema
    (column : Option String) :
    Schema :=
  {
    name := "note"
    storageName := none
    fields := [⟨"id", none, true, none, none⟩, draftField, textField column]
  }

/-- An update of every note that makes its draft its text. -/
def publishing
    (column : Option String) :
    Builder :=
  {
    schema := some (noteSchema column)
    values := some (.single (Update.renameOf "draft" "text"))
    allowFullTable := true
  }

/-- A store with one note that has a draft. -/
def oneDraft : StoreState :=
  (storing "note" [("_id", .ofInt 1), ("d", .string "hello")], ⟨0, 0, 0, []⟩)

theorem rename_arrives_at_own_name_of_draft :
    ∃ query outcome after,
      (publishing none).update.runFrom oneDraft.2 = (.ok query, oneDraft.2) ∧
        (Store.execute query).runFrom oneDraft = (.ok outcome, after) ∧
          ArrivesAt (noteSchema none) draftField (textField none)
              (.string "hello") [("_id", .ofInt 1), ("d", .string "hello")]
              [("_id", .ofInt 1), ("text", .string "hello")] ∧
            ((selecting (noteSchema none)).constrainBy "text" "eq"
              (.string "hello")).fetched
                after =
              (.ok [[("id", .ofInt 1), ("text", .string "hello")]], after) := by
  obtain ⟨query, built⟩ :
      ∃ query,
        (publishing none).update.runFrom oneDraft.2 = (.ok query, oneDraft.2) :=
    ⟨_, rfl⟩
  obtain ⟨outcome, after, executed, documents⟩ :
      ∃ outcome after,
        (Store.execute query).runFrom oneDraft = (.ok outcome, after) ∧
          (after.1.collection (noteSchema none).storage).documents =
            [[("_id", .ofInt 1), ("text", .string "hello")]] := by
    cases built
    exact ⟨_, _, rfl, rfl⟩
  have isSource : (noteSchema none).HasPlainColumn draftField := by
    constructor
    · constructor <;> decide
    all_goals decide
  have isTarget : (noteSchema none).HasPlainColumn (textField none) := by
    constructor
    · constructor <;> decide
    all_goals decide
  obtain ⟨-, arrives⟩ :=
    rename_arrives_at_own_name (by decide) (by decide) isSource isTarget
      (by decide) (by decide) rfl rfl built (by decide) executed
  obtain ⟨filter, isFilter, moved, fetched⟩ := arrives outcome rfl
  refine ⟨query, outcome, after, built, executed, ?_, ?_⟩
  · have isFilterToo : filter = [] := by
      cases built
      cases isFilter
      rfl
    subst isFilterToo
    refine (moved (_, _) ?_ (.string "hello") rfl).1 rfl
    rw [documents]
    cases built
    exact List.mem_cons_self
  · have found := fetched (.string "hello")
    rw [documents] at found
    exact found

/--
A draft that is moved to a text in another column is shown as the
text, but not found so.
-/
theorem renamed_field_not_found :
    ∃ query outcome after,
      (publishing (some "t")).update.runFrom oneDraft.2 =
          (.ok query, oneDraft.2) ∧
        (Store.execute query).runFrom oneDraft = (.ok outcome, after) ∧
          (selecting (noteSchema (some "t"))).fetched after =
            (.ok [[("id", .ofInt 1), ("text", .string "hello")]], after) ∧
            ((selecting (noteSchema (some "t"))).constrainBy "text" "eq"
                (.string "hello")).fetched after =
              (.ok [], after) :=
  ⟨_, _, _, rfl, rfl, rfl, rfl⟩

end Builder

end PolyQuery
