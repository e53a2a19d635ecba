import PolyQuery.Proofs.Document.BatchUpdates
import PolyQuery.Proofs.Document.ResolvedRows

namespace PolyQuery

open Failing

/-!
# Provided values

A write asks the provider of a field exactly if its row leaves the field out.
Only the names at the top of a row count for that: an update that mentions a
field inside the operand of an operator leaves it out. The update document takes
the provided value with the plain ones and gives way to a `$set` of the row, but
to no other operator.
-/

/-- The schema with nothing that fills a field on update. -/
def Schema.withoutOnUpdate
    (schema : Schema)
    (name : String) :
    Schema :=
  { schema with
    fields :=
      schema.fields.map fun field =>
        if field.name = name then { field with onUpdate := none } else field }

/-- A value that a provider of the fields with a name gives. -/
def Schema.Provides
    (schema : Schema)
    (purpose : WritePurpose)
    (name : String)
    (value : Json) :
    Prop :=
  ∃ field ∈ schema.fields,
    field.name = name ∧
      ∃ provider, field.provider? purpose = some provider ∧
        ∃ supply, ((Supply.evaluate provider).run supply).1 = value

theorem Schema.exists_field?
    {schema : Schema}
    {field : Field}
    (member : field ∈ schema.fields) :
    ∃ first, schema.field? field.name = some first := by
  rw [← Option.isSome_iff_exists, Schema.field?, List.find?_isSome]
  exact ⟨field, member, decide_eq_true rfl⟩

namespace Mutation

section Given

variable
  {m : Type → Type}
  [Monad m]
  (evaluate : Provider → m Json)
  {row : Document}
  {name : String}
  (given : row.contains name = true)

include given

theorem resolveFields_withoutOnUpdate
    (fields : List Field)
    (resolved : Document) :
    resolveFields evaluate .update row
        (fields.map fun field =>
          if field.name = name then { field with onUpdate := none } else field)
          resolved =
      resolveFields evaluate .update row fields resolved := by
  induction fields generalizing resolved with
  | nil =>
      rfl
  | cons field rest inductionHypothesis =>
      rw [List.map_cons, resolveFields, resolveFields]
      by_cases sameName : field.name = name
      · obtain ⟨value, found⟩ := Option.isSome_iff_exists.mp given
        rw [← sameName] at found
        simp only [if_pos sameName, found, inductionHypothesis]
      · simp only [if_neg sameName, inductionHypothesis]

/--
What fills a field that a row gives plays no part in the resolution of the row.
-/
theorem resolveRow_withoutOnUpdate
    (schema : Schema) :
    resolveRow evaluate (schema.withoutOnUpdate name) .update row =
      resolveRow evaluate schema .update row := by
  have sameUnknown :
      ∀ other,
        ((schema.withoutOnUpdate name).field? other).isNone =
          (schema.field? other).isNone := by
    intro other
    have sameNames :
        (fun field : Field => decide (field.name = other)) ∘
            (fun field : Field =>
              if field.name = name then
                { field with onUpdate := none }
              else
                field) =
          fun field => decide (field.name = other) := by
      funext field
      by_cases sameName : field.name = name <;> simp [sameName]
    rw [Schema.field?, Schema.withoutOnUpdate, List.find?_map, sameNames,
      Option.isNone_map]
    rfl
  simp only [resolveRow, sameUnknown]
  rw [Schema.withoutOnUpdate, resolveFields_withoutOnUpdate evaluate given]

end Given

/-- The values that a name of a row can be resolved to. -/
inductive ResolvesTo
    (schema : Schema)
    (purpose : WritePurpose)
    (row : Document)
    (name : String) :
    Json → Prop where
  | given {value : Json}
      (found : row.get? name = some value) :
      ResolvesTo schema purpose row name value
  | provided {value : Json}
      (absent : row.get? name = none)
      (provides : schema.Provides purpose name value) :
      ResolvesTo schema purpose row name value

section Resolution

variable
  {schema : Schema}
  {purpose : WritePurpose}
  {row : Document}
  {name : String}

/--
A name is resolved once, by what the row gives or else by a
provider of its fields.
-/
theorem exists_resolveFields
    {fields : List Field}
    (included : fields ⊆ schema.fields)
    {resolved : Document}
    (reached :
      (∃ value,
        resolved.get? name = some value ∧
          ResolvesTo schema purpose row name value) ∨
        ∃ field ∈ fields,
          field.name = name ∧
            (row.contains name = true ∨
              (field.provider? purpose).isSome = true))
    (supply : Supply) :
    ∃ value,
      Entries.get?
          ((resolveFields Supply.evaluate purpose row fields resolved).run
            supply).1
          name =
        some value ∧
        ResolvesTo schema purpose row name value := by
  induction fields generalizing resolved supply with
  | nil =>
      rcases reached with done | ⟨_, member, -⟩
      · exact done
      · cases member
  | cons field rest inductionHypothesis =>
      obtain ⟨member, restIncluded⟩ := List.cons_subset.mp included
      -- What is stored under the name of the field is what the name resolves
      -- to.
      have stored :
          ∀ value, ResolvesTo schema purpose row field.name value →
            (∃ present,
              (Entries.insert resolved field.name value).get? name =
                  some present ∧
                ResolvesTo schema purpose row name present) ∨
              ∃ later ∈ rest,
                later.name = name ∧
                  (row.contains name = true ∨
                    (later.provider? purpose).isSome = true) := by
        intro value resolves
        rw [Entries.get?_insert]
        by_cases sameName : field.name = name
        · subst sameName
          exact .inl ⟨value, if_pos rfl, resolves⟩
        · rw [if_neg sameName]
          refine reached.imp_right ?_
          rintro ⟨other, inFields, named, source⟩
          rcases List.mem_cons.mp inFields with rfl | inRest
          · exact absurd named sameName
          · exact ⟨other, inRest, named, source⟩
      rw [resolveFields]
      split
      next value found =>
        exact inductionHypothesis restIncluded (stored value (.given found))
          supply
      next absent =>
        split
        next noProvider =>
          apply inductionHypothesis restIncluded
          refine reached.imp_right ?_
          rintro ⟨other, inFields, named, source⟩
          rcases List.mem_cons.mp inFields with rfl | inRest
          · rw [← named, Entries.contains, absent, noProvider] at source
            simp at source
          · exact ⟨other, inRest, named, source⟩
        next provider provides =>
          rw [StateT.run_bind]
          have providedHere :
              schema.Provides purpose field.name
                ((Supply.evaluate provider).run supply).1 :=
            ⟨field, member, rfl, provider, provides, supply, rfl⟩
          exact inductionHypothesis restIncluded
            (stored _ (.provided absent providedHere)) _

/--
A field that a row gives, or that a provider fills, is in the resolved row.
-/
theorem exists_resolveRow
    {field : Field}
    (member : field ∈ schema.fields)
    (source :
      row.contains field.name = true ∨ (field.provider? purpose).isSome = true)
    (supply : Supply) :
    ∃ value,
      Entries.get?
        ((resolveRow Supply.evaluate schema purpose row).run supply).1
        field.name =
          some value ∧
        ResolvesTo schema purpose row field.name value := by
  have reached :
      (∃ value,
        Entries.get? ([] : Document) field.name = some value ∧
          ResolvesTo schema purpose row field.name value) ∨
        ∃ other ∈ schema.fields,
          other.name = field.name ∧
            (row.contains field.name = true ∨
              (other.provider? purpose).isSome = true) :=
    .inr ⟨field, member, rfl, source⟩
  obtain ⟨value, found, resolves⟩ :=
    exists_resolveFields (List.Subset.refl schema.fields) reached supply
  refine ⟨value, ?_, resolves⟩
  obtain ⟨first, isField⟩ := Schema.exists_field? member
  have notUnknown :
      Entries.get?
          (row.filter fun entry => (schema.field? entry.1).isNone).reverse
          field.name =
        none := by
    rw [Entries.get?_eq_none_iff]
    intro inKeys
    obtain ⟨entry, inUnknown, sameName⟩ := List.mem_map.mp inKeys
    have isUnknown := (List.mem_filter.mp (List.mem_reverse.mp inUnknown)).2
    rw [sameName, isField] at isUnknown
    cases isUnknown
  exact (Entries.get?_insertAll _ _ _).trans
    (by rw [notUnknown, Option.none_or]; exact found)

/-- A name that the schema does not know is resolved to what the row gives. -/
theorem get?_resolveRow_of_unknown
    (distinct : row.Distinct)
    (unknown : schema.field? name = none)
    (supply : Supply) :
    Entries.get? ((resolveRow Supply.evaluate schema purpose row).run supply).1
        name =
      row.get? name := by
  have notKnown :
      Entries.get?
          ((resolveFields Supply.evaluate purpose row schema.fields []).run
            supply).1 name =
        none := by
    rw [Entries.get?_eq_none_iff]
    intro inKeys
    obtain ⟨entry, inKnown, sameName⟩ := List.mem_map.mp inKeys
    have noEntry : ∀ entry ∈ ([] : Document), schema.HasField entry.1 := by
      simp
    have allKnown :
        ∀ entry ∈
            ((resolveFields Supply.evaluate purpose row schema.fields []).run
              supply).1,
          schema.HasField entry.1 :=
      forall_resolveFields (fun _ _ hasField => hasField) row
        (List.Subset.refl schema.fields) noEntry supply
    obtain ⟨field, member, named⟩ := allKnown entry inKnown
    obtain ⟨first, isFirst⟩ := Schema.exists_field? member
    rw [named, sameName, unknown] at isFirst
    cases isFirst
  have unknownDistinct :
      Entries.Distinct
        (row.filter fun entry => (schema.field? entry.1).isNone) :=
    distinct.sublist (List.filter_sublist.map Prod.fst)
  have sameUnder :
      Entries.under (row.filter fun entry => (schema.field? entry.1).isNone)
          name =
        row.under name := by
    rw [Entries.under, Entries.under, List.filter_filter]
    refine List.filter_congr fun entry _ => ?_
    by_cases sameName : entry.1 = name
    · simp [sameName, unknown]
    · simp [sameName]
  calc
    _ =
      (Entries.get?
        (row.filter fun entry => (schema.field? entry.1).isNone).reverse
        name).or
          none :=
        (Entries.get?_insertAll _ _ _).trans (congrArg (Option.or _) notKnown)
    _ =
      Entries.get? (row.filter fun entry => (schema.field? entry.1).isNone)
        name := by
        rw [Option.or_none, Entries.get?_reverse unknownDistinct]
    _ = row.get? name := by
        rw [Entries.get?_eq_head?_under, sameUnder, Entries.get?_eq_head?_under]

theorem get?_resolveRow_of_given
    (distinct : row.Distinct)
    {value : Json}
    (found : row.get? name = some value)
    (supply : Supply) :
    Entries.get? ((resolveRow Supply.evaluate schema purpose row).run supply).1
        name =
      some value := by
  cases known : schema.field? name with
  | none =>
      rw [get?_resolveRow_of_unknown distinct known, found]
  | some field =>
      rw [Schema.field?] at known
      have named : field.name = name := by simpa using List.find?_some known
      subst named
      have given : row.contains field.name = true :=
        Option.isSome_iff_exists.mpr ⟨value, found⟩
      obtain ⟨resolved, isResolved, resolves⟩ :
          ∃ value,
            Entries.get?
                ((resolveRow Supply.evaluate schema purpose row).run supply).1
                field.name =
              some value ∧
              ResolvesTo schema purpose row field.name value :=
        exists_resolveRow (List.mem_of_find?_eq_some known) (.inl given) supply
      rw [isResolved]
      cases resolves with
      | given foundToo =>
          exact foundToo.symm.trans found
      | provided absent _ =>
          cases absent.symm.trans found

end Resolution

end Mutation

namespace DocumentCompiler

/-- Whether a row sets what is stored under a key through its `$set`. -/
def SetsUnder
    (schema : Schema)
    (row : Document)
    (key : String) :
    Prop :=
  ∃ operand : Document,
    row.get? "$set" = some (.object operand) ∧
      key ∈ operand.keys.map (fieldKey schema)

/-- Whether no other plain name of a row is stored under the key of a name. -/
def HasOwnKey
    (schema : Schema)
    (row : Document)
    (name : String) :
    Prop :=
  ∀ other ∈ row.keys,
    Operator.isMarked other = false →
      fieldKey schema other = fieldKey schema name →
        other = name

/--
Two drafts with the same operators, and the same plain values but for one key.
-/
structure UpdateDraft.SameBesides
    (key : String)
    (left right : UpdateDraft) :
    Prop where
  operators : left.operators = right.operators
  plain : left.plain.besides key = right.plain.besides key

/-- The update document of a draft. -/
def UpdateDraft.document
    (draft : UpdateDraft) :
    Document :=
  if draft.plain.isEmpty then
    draft.operators
  else
    draft.operators.insert "$set"
      (.object
        (Entries.fill (Path.membersOf (draft.operators.get? "$set"))
          draft.plain))

section Drafts

variable
  {codec : IdentifierCodec}
  {schema : Schema}
  {draft result : UpdateDraft}

theorem updateDocument_eq_ok
    {row document : Document} :
    updateDocument codec schema row = .ok document ↔
      ∃ draft,
        addEntries codec schema row {} = .ok draft ∧
          draft.document = document := by
  rw [updateDocument, bind_eq_ok]
  refine exists_congr fun draft => and_congr_right fun _ => ?_
  rw [UpdateDraft.document]
  split
  · exact iff_of_eq (Except.ok.injEq _ _)
  · exact iff_of_eq (Except.ok.injEq _ _)

/--
A draft whose operators set something sets it together with its plain values.
-/
theorem UpdateDraft.document_of_explicit
    {explicit : Document}
    (found : draft.operators.get? "$set" = some (.object explicit)) :
    draft.document =
      draft.operators.insert "$set"
        (.object (Entries.fill explicit draft.plain)) := by
  rw [UpdateDraft.document, found]
  split
  next noPlain =>
    rw [List.isEmpty_iff.mp noPlain]
    exact (Entries.insert_of_get? found).symm
  next =>
    rfl

/-- A plain entry of a row goes to the plain values, as it is stored. -/
theorem addEntry_plain_eq_ok
    {name : String}
    {value : Json}
    (unmarked : Operator.isMarked name = false) :
    addEntry codec schema draft name value = .ok result ↔
      ∃ stored,
        storedValue codec (fieldKey schema name) value = .ok stored ∧
          { draft with
            plain := draft.plain.insert (fieldKey schema name) stored } =
            result := by
  unfold addEntry
  rw [unmarked, if_neg Bool.false_ne_true, bind_eq_ok]
  exact exists_congr fun _ => and_congr_right fun _ =>
    iff_of_eq (Except.ok.injEq _ _)

/--
A marked entry of a row goes to the operators, with the fields of
its operand as keys.
-/
theorem addEntry_marked_eq_ok
    {name : String}
    {value : Json}
    (marked : Operator.isMarked name = true) :
    addEntry codec schema draft name value = .ok result ↔
      updateOperators.contains name = true ∧
        ∃ operand mapped,
          value = .object operand ∧
            mapOperand codec schema name operand = .ok mapped ∧
              { draft with
                operators := draft.operators.insert name (.object mapped) } =
                result := by
  unfold addEntry
  rw [marked, if_pos rfl]
  cases updateOperators.contains name with
  | false =>
      exact iff_of_false (fun same => nomatch same) fun offered =>
        Bool.false_ne_true offered.1
  | true =>
      rw [and_iff_right rfl]
      cases value with
      | object operand =>
          simp only [Bool.not_true, Bool.false_eq_true, if_false]
          refine bind_eq_ok.trans ⟨?_, ?_⟩
          · rintro ⟨mapped, isMapped, same⟩
            exact ⟨operand, mapped, rfl, isMapped, Except.ok.inj same⟩
          · rintro ⟨_, mapped, same, isMapped, rfl⟩
            cases same
            exact ⟨mapped, isMapped, rfl⟩
      | _ =>
          exact iff_of_false (fun same => nomatch same)
            fun ⟨_, _, same, _⟩ => nomatch same

theorem contains_mapOperand
    {operator : String}
    {operand mapped : Document}
    (isMapped : mapOperand codec schema operator operand = .ok mapped)
    (key : String) :
    mapped.contains key = true ↔ key ∈ operand.keys.map (fieldKey schema) := by
  obtain ⟨pairs, traversed, same⟩ := bind_eq_ok.mp isMapped
  cases same
  have sameKeys : Entries.keys pairs = operand.keys.map (fieldKey schema) := by
    have related := mapM_eq_ok.mp traversed
    clear isMapped traversed
    induction related with
    | nil =>
        rfl
    | cons computed _ inductionHypothesis =>
        rw [Entries.keys_cons, inductionHypothesis]
        dsimp only at computed
        split at computed
        next =>
          obtain ⟨value, -, isPair⟩ := bind_eq_ok.mp computed
          rw [← Except.ok.inj isPair]
          rfl
        next =>
          rw [← Except.ok.inj computed]
          rfl
  have isStored :
      Entries.get? (Entries.ofList pairs) key =
        Entries.get? pairs.reverse key :=
    (Entries.get?_insertAll [] pairs key).trans Option.or_none
  have sameContains :
      Entries.contains (Entries.ofList pairs) key =
        Entries.contains pairs.reverse key :=
    congrArg Option.isSome isStored
  rw [sameContains, Entries.contains_iff_mem_keys, ← sameKeys, Entries.keys,
    List.map_reverse, List.mem_reverse]
  rfl

/-- An operator that a row does not have stays what it was. -/
theorem get?_operators_of_absent
    {operator : String}
    {row : Document}
    (absent : row.get? operator = none)
    (added : addEntries codec schema row draft = .ok result) :
    result.operators.get? operator = draft.operators.get? operator := by
  induction row generalizing draft with
  | nil =>
      cases added
      rfl
  | cons entry rest inductionHypothesis =>
      obtain ⟨name, value⟩ := entry
      obtain ⟨extended, isExtended, restAdded⟩ := bind_eq_ok.mp added
      rw [Entries.get?_eq_none_iff, Entries.keys_cons, List.mem_cons, not_or,
        ← Entries.get?_eq_none_iff] at absent
      obtain ⟨otherName, restAbsent⟩ := absent
      rw [inductionHypothesis restAbsent restAdded]
      cases marked : Operator.isMarked name with
      | true =>
          obtain ⟨-, operand, mapped, -, -, rfl⟩ :=
            (addEntry_marked_eq_ok marked).mp isExtended
          rw [Entries.get?_insert, if_neg (Ne.symm otherName)]
      | false =>
          obtain ⟨stored, -, rfl⟩ := (addEntry_plain_eq_ok marked).mp isExtended
          rfl

/-- An operator of a row has the fields of its operand as keys. -/
theorem get?_operators_of_given
    {operator : String}
    (marked : Operator.isMarked operator = true)
    {row : Document}
    (distinct : row.Distinct)
    {value : Json}
    (given : row.get? operator = some value)
    (added : addEntries codec schema row draft = .ok result) :
    ∃ operand mapped,
      value = .object operand ∧
        mapOperand codec schema operator operand = .ok mapped ∧
          result.operators.get? operator = some (.object mapped) := by
  induction row generalizing draft with
  | nil =>
      cases given
  | cons entry rest inductionHypothesis =>
      obtain ⟨name, first⟩ := entry
      obtain ⟨notAgain, restDistinct⟩ := List.nodup_cons.mp distinct
      obtain ⟨extended, isExtended, restAdded⟩ := bind_eq_ok.mp added
      by_cases sameName : name = operator
      · subst sameName
        rw [Entries.get?_cons, if_pos rfl] at given
        cases given
        obtain ⟨-, operand, mapped, isObject, isMapped, rfl⟩ :=
          (addEntry_marked_eq_ok marked).mp isExtended
        refine ⟨operand, mapped, isObject, isMapped, ?_⟩
        rw [get?_operators_of_absent
          (Entries.get?_eq_none_iff.mpr notAgain) restAdded,
          Entries.get?_insert, if_pos rfl]
      · rw [Entries.get?_cons, if_neg sameName] at given
        exact inductionHypothesis restDistinct given restAdded

/--
What a row has no plain field for stays what it was among the plain values.
-/
theorem get?_plain_of_absent
    {key : String}
    {row : Document}
    (absent :
      ∀ name ∈ row.keys,
        Operator.isMarked name = false → fieldKey schema name ≠ key)
    (added : addEntries codec schema row draft = .ok result) :
    result.plain.get? key = draft.plain.get? key := by
  induction row generalizing draft with
  | nil =>
      cases added
      rfl
  | cons entry rest inductionHypothesis =>
      obtain ⟨name, value⟩ := entry
      obtain ⟨extended, isExtended, restAdded⟩ := bind_eq_ok.mp added
      obtain ⟨headAbsent, restAbsent⟩ := List.forall_mem_cons.mp absent
      rw [inductionHypothesis restAbsent restAdded]
      cases marked : Operator.isMarked name with
      | true =>
          obtain ⟨-, operand, mapped, -, -, rfl⟩ :=
            (addEntry_marked_eq_ok marked).mp isExtended
          rfl
      | false =>
          obtain ⟨stored, -, rfl⟩ := (addEntry_plain_eq_ok marked).mp isExtended
          rw [Entries.get?_insert, if_neg (headAbsent marked)]

/--
A plain field with a key of its own is stored under it among the plain values.
-/
theorem get?_plain_of_given
    {name : String}
    (unmarked : Operator.isMarked name = false)
    {row : Document}
    (distinct : row.Distinct)
    (ownKey : HasOwnKey schema row name)
    {value : Json}
    (given : row.get? name = some value)
    (added : addEntries codec schema row draft = .ok result) :
    ∃ stored,
      storedValue codec (fieldKey schema name) value = .ok stored ∧
        result.plain.get? (fieldKey schema name) = some stored := by
  induction row generalizing draft with
  | nil =>
      cases given
  | cons entry rest inductionHypothesis =>
      obtain ⟨first, firstValue⟩ := entry
      obtain ⟨notAgain, restDistinct⟩ := List.nodup_cons.mp distinct
      obtain ⟨extended, isExtended, restAdded⟩ := bind_eq_ok.mp added
      obtain ⟨-, restOwnKey⟩ := List.forall_mem_cons.mp ownKey
      by_cases sameName : first = name
      · subst sameName
        rw [Entries.get?_cons, if_pos rfl] at given
        cases given
        obtain ⟨stored, isStored, rfl⟩ :=
          (addEntry_plain_eq_ok unmarked).mp isExtended
        refine ⟨stored, isStored, ?_⟩
        have noneElse :
            ∀ other ∈ Entries.keys rest,
              Operator.isMarked other = false →
                fieldKey schema other ≠ fieldKey schema first := by
          intro other member otherUnmarked sameKey
          exact notAgain
            (restOwnKey other member otherUnmarked sameKey ▸ member)
        rw [get?_plain_of_absent noneElse restAdded, Entries.get?_insert,
          if_pos rfl]
      · rw [Entries.get?_cons, if_neg sameName] at given
        exact inductionHypothesis restDistinct restOwnKey given restAdded

/-- A plain field changes a draft under its key only. -/
theorem addEntries_besides
    {name : String}
    (unmarked : Operator.isMarked name = false)
    {row : Document}
    {draftToo : UpdateDraft}
    (same : draft.SameBesides (fieldKey schema name) draftToo)
    (added : addEntries codec schema row draft = .ok result) :
    ∃ resultToo,
      addEntries codec schema (row.besides name) draftToo = .ok resultToo ∧
        result.SameBesides (fieldKey schema name) resultToo := by
  induction row generalizing draft draftToo with
  | nil =>
      cases added
      exact ⟨draftToo, rfl, same⟩
  | cons entry rest inductionHypothesis =>
      obtain ⟨extended, isExtended, restAdded⟩ := bind_eq_ok.mp added
      by_cases sameName : entry.1 = name
      · subst sameName
        rw [Entries.besides_cons_self rfl]
        obtain ⟨stored, -, isStored⟩ :=
          (addEntry_plain_eq_ok unmarked).mp isExtended
        have stillSame :
            extended.SameBesides (fieldKey schema entry.1) draftToo := by
          rw [← isStored]
          exact ⟨same.operators,
            (Entries.besides_insert_self _ _ _).trans same.plain⟩
        exact inductionHypothesis stillSame restAdded
      · rw [Entries.besides_cons_of_ne sameName]
        -- The entry extends both drafts, and in the same way.
        have extendsBoth :
            ∃ extendedToo,
              addEntry codec schema draftToo entry.1 entry.2 = .ok extendedToo ∧
                extended.SameBesides (fieldKey schema name) extendedToo := by
          cases marked : Operator.isMarked entry.1 with
          | true =>
              obtain ⟨offered, operand, mapped, isObject, isMapped, rfl⟩ :=
                (addEntry_marked_eq_ok marked).mp isExtended
              refine ⟨_, (addEntry_marked_eq_ok marked).mpr
                ⟨offered, operand, mapped, isObject, isMapped, rfl⟩, ?_,
                same.plain⟩
              rw [same.operators]
          | false =>
              obtain ⟨stored, isStored, rfl⟩ :=
                (addEntry_plain_eq_ok marked).mp isExtended
              refine ⟨_,
                (addEntry_plain_eq_ok marked).mpr ⟨stored, isStored, rfl⟩,
                same.operators, ?_⟩
              by_cases sameKey : fieldKey schema entry.1 = fieldKey schema name
              · rw [sameKey, Entries.besides_insert_self,
                  Entries.besides_insert_self]
                exact same.plain
              · rw [Entries.besides_insert_of_ne sameKey,
                  Entries.besides_insert_of_ne sameKey, same.plain]
        obtain ⟨extendedToo, isExtendedToo, sameExtended⟩ := extendsBoth
        obtain ⟨resultToo, restAddedToo, sameResult⟩ :=
          inductionHypothesis sameExtended restAdded
        exact ⟨resultToo,
          bind_eq_ok.mpr ⟨extendedToo, isExtendedToo, restAddedToo⟩, sameResult⟩

/--
A row that sets something under a key is compiled as without any
plain field of the key.
-/
theorem updateDocument_besides
    {name : String}
    (unmarked : Operator.isMarked name = false)
    {row document : Document}
    (distinct : row.Distinct)
    (sets : SetsUnder schema row (fieldKey schema name))
    (compiled : updateDocument codec schema row = .ok document) :
    updateDocument codec schema (row.besides name) = .ok document := by
  obtain ⟨draft, added, rfl⟩ := updateDocument_eq_ok.mp compiled
  obtain ⟨operand, given, isSet⟩ := sets
  have markedSet : Operator.isMarked "$set" = true := by decide
  obtain ⟨_, explicit, isObject, isMapped, found⟩ :=
    get?_operators_of_given markedSet distinct given added
  cases isObject
  have present := (contains_mapOperand isMapped _).mpr isSet
  obtain ⟨draftToo, addedToo, same⟩ :=
    addEntries_besides unmarked ⟨rfl, rfl⟩ added
  refine updateDocument_eq_ok.mpr ⟨draftToo, addedToo, ?_⟩
  have foundToo := same.operators ▸ found
  rw [UpdateDraft.document_of_explicit found,
    UpdateDraft.document_of_explicit foundToo, same.operators,
    ← Entries.fill_besides present, ← Entries.fill_besides present draft.plain,
    same.plain]

/-- A plain field whose key a row does not set is set to its value. -/
theorem get?_updateDocument
    {name : String}
    (unmarked : Operator.isMarked name = false)
    {row document : Document}
    (distinct : row.Distinct)
    (ownKey : HasOwnKey schema row name)
    {value : Json}
    (given : row.get? name = some value)
    (notSet : ¬SetsUnder schema row (fieldKey schema name))
    (compiled : updateDocument codec schema row = .ok document) :
    ∃ stored,
      storedValue codec (fieldKey schema name) value = .ok stored ∧
        Entries.get? (Path.membersOf (document.get? "$set"))
            (fieldKey schema name) =
          some stored := by
  obtain ⟨draft, added, rfl⟩ := updateDocument_eq_ok.mp compiled
  obtain ⟨stored, isStored, isPlain⟩ :=
    get?_plain_of_given unmarked distinct ownKey given added
  have notExplicit :
      Entries.get? (Path.membersOf (draft.operators.get? "$set"))
          (fieldKey schema name) =
        none := by
    cases given : row.get? "$set" with
    | none =>
        rw [get?_operators_of_absent given added]
        rfl
    | some operand =>
        have markedSet : Operator.isMarked "$set" = true := by decide
        obtain ⟨fields, explicit, rfl, isMapped, found⟩ :=
          get?_operators_of_given markedSet distinct given added
        rw [found, ← Option.not_isSome_iff_eq_none]
        intro present
        exact notSet
          ⟨fields, given, (contains_mapOperand isMapped _).mp present⟩
  have somePlain : draft.plain.isEmpty = false := by
    cases isEmpty : draft.plain with
    | nil =>
        rw [isEmpty] at isPlain
        cases isPlain
    | cons entry rest =>
        rfl
  refine ⟨stored, isStored, ?_⟩
  rw [UpdateDraft.document, somePlain, if_neg Bool.false_ne_true,
    Entries.get?_insert, if_pos rfl]
  exact (Entries.get?_fill _ _ _).trans
    (by rw [notExplicit, Option.none_or, isPlain])

end Drafts

end DocumentCompiler

namespace Builder

open DocumentCompiler

section Updates

variable
  {builder : Builder}
  {schema : Schema}
  {values : Document}
  (entity : builder.schema = some schema)
  (given : builder.values = some (.single values))

include entity given

/-- An update by one row is built exactly if it has a filter or needs none. -/
theorem update_eq_ok
    {supply after : Supply}
    {query : Query} :
    builder.update.runFrom supply = (.ok query, after) ↔
      builder.guardFullTable "update" schema = .ok () ∧
        ∃ resolved,
          (Mutation.resolveRow Supply.evaluate schema .update values).run
            supply =
              (resolved, after) ∧
            builder.freeze .update schema (some (.single resolved)) =
              query := by
  have required : builder.requireSchema = .ok schema := by
    rw [requireSchema, entity]
  have oneRow : builder.givenValues = .single values := by
    rw [givenValues, given, Option.getD_some]
  rw [update, Stateful.runFrom_bind, Stateful.runFrom_ofExcept, required,
    oneRow]
  simp only [Mutation.isBatch, Bool.not_false, if_true]
  rw [Stateful.runFrom_bind, Stateful.runFrom_ofExcept]
  cases builder.guardFullTable "update" schema with
  | error cause =>
      refine iff_of_false (fun same => ?_) fun guarded => ?_
      · cases congrArg Prod.fst same
      · cases guarded.1
  | ok _ =>
      constructor
      · intro same
        have frozen := Except.ok.inj (congrArg Prod.fst same)
        have isAfter := congrArg Prod.snd same
        exact ⟨rfl, _, Prod.ext rfl isAfter, frozen⟩
      · rintro ⟨-, resolved, resolution, rfl⟩
        have isResolved := congrArg Prod.fst resolution
        have isAfter := congrArg Prod.snd resolution
        dsimp only at isResolved isAfter
        rw [← isResolved, ← isAfter]
        rfl

/--
The values of an update come before what fills its fields, unless an operator
other than `$set` has them.

A field at the top of the row keeps the value of the row, and the update is
built as if nothing filled the field. The update document of a row that sets the
field through `$set` is the one of the row without the provided value. In every
other case the update document sets the field to what a provider of it gave.
-/
theorem on_update_yields_to_values
    (distinct : values.Distinct)
    {supply after : Supply}
    {query : Query}
    (built : builder.update.runFrom supply = (.ok query, after))
    {field : Field}
    (member : field ∈ schema.fields)
    (filled : field.onUpdate.isSome = true)
    (codec : IdentifierCodec) :
    ∃ resolved : Document,
      query.values = some (.single resolved) ∧
        (values.contains field.name = true →
          resolved.get? field.name = values.get? field.name ∧
            ∃ unfilled,
              (builder.model (schema.withoutOnUpdate field.name)).update.runFrom
                supply =
                  (.ok unfilled, after) ∧
                unfilled.values = query.values) ∧
        (values.contains field.name = false →
          Operator.isMarked field.name = false →
            ∀ document,
              updateDocument codec schema resolved = .ok document →
                (SetsUnder schema values (fieldKey schema field.name) →
                  updateDocument codec schema (resolved.besides field.name) =
                    .ok document) ∧
                  (¬SetsUnder schema values (fieldKey schema field.name) →
                    schema.field? "$set" = none →
                      HasOwnKey schema resolved field.name →
                        ∃ value stored,
                          schema.Provides .update field.name value ∧
                            storedValue codec (fieldKey schema field.name)
                              value = .ok stored ∧
                            Entries.get? (Path.membersOf (document.get? "$set"))
                                (fieldKey schema field.name) =
                              some stored)) := by
  obtain ⟨guarded, resolved, resolution, rfl⟩ :=
    (update_eq_ok entity given).mp built
  have isResolved :
      ((Mutation.resolveRow Supply.evaluate schema .update values).run
        supply).1 = resolved :=
    congrArg Prod.fst resolution
  have resolvedDistinct : resolved.Distinct := by
    rw [← isResolved]
    exact Mutation.distinct_resolveRow schema values supply
  refine ⟨resolved, rfl, ?_, ?_⟩
  · intro contained
    constructor
    · obtain ⟨value, isGiven⟩ := Option.isSome_iff_exists.mp contained
      rw [isGiven, ← isResolved]
      exact Mutation.get?_resolveRow_of_given distinct isGiven supply
    · have sameResolution :=
        Mutation.resolveRow_withoutOnUpdate Supply.evaluate contained schema
      have sameGuard :
          (builder.model (schema.withoutOnUpdate field.name)).guardFullTable
              "update" (schema.withoutOnUpdate field.name) =
            builder.guardFullTable "update" schema :=
        rfl
      have givenToo :
          (builder.model (schema.withoutOnUpdate field.name)).values =
            some (.single values) :=
        given
      exact ⟨_,
        (update_eq_ok rfl givenToo).mpr
          ⟨sameGuard.trans guarded, resolved, sameResolution ▸ resolution, rfl⟩,
        rfl⟩
  · intro leftOut unmarked document compiled
    constructor
    · rintro ⟨operand, isGiven, isSet⟩
      have inResolved : resolved.get? "$set" = some (.object operand) := by
        rw [← isResolved]
        exact Mutation.get?_resolveRow_of_given distinct isGiven supply
      exact
        updateDocument_besides unmarked resolvedDistinct
        ⟨operand, inResolved, isSet⟩ compiled
    · intro notSet noSuchField ownKey
      have sameSet : resolved.get? "$set" = values.get? "$set" := by
        rw [← isResolved]
        exact Mutation.get?_resolveRow_of_unknown distinct noSuchField supply
      have notSetToo :
          ¬SetsUnder schema resolved (fieldKey schema field.name) := by
        rw [SetsUnder, sameSet]
        exact notSet
      have source :
          values.contains field.name = true ∨
            (field.provider? .update).isSome = true :=
        .inr filled
      obtain ⟨value, found, resolves⟩ :=
        Mutation.exists_resolveRow member source supply
      rw [isResolved] at found
      obtain ⟨stored, isStored, isSet⟩ :=
        get?_updateDocument unmarked resolvedDistinct ownKey found notSetToo
          compiled
      cases resolves with
      | given isGiven =>
          rw [Entries.contains, isGiven] at leftOut
          cases leftOut
      | provided absent provides =>
          exact ⟨value, stored, provides, isStored, isSet⟩

end Updates

/-- A field that every update fills with seven. -/
def refilledField
    (name : String) :
    Field :=
  { Store.plainField name name with onUpdate := some (.literal (.ofInt 7)) }

/-- An entity with a field that every update fills. -/
def refilledSchema : Schema :=
  {
    name := "t"
    storageName := none
    fields := [Store.identifierField, refilledField "v"]
  }

/-- An update of every row. -/
def refillingUpdate
    (values : Document) :
    Builder :=
  {
    schema := some refilledSchema
    values := some (.single values)
    allowFullTable := true
  }

/-- An entity with three fields that every update fills. -/
def refilledThrice : Schema :=
  {
    name := "t"
    storageName := none
    fields :=
      [Store.identifierField, refilledField "u", refilledField "v",
        refilledField "w"]
  }

/--
A row with one of the fields at its top, another one to set
and one to increment.
-/
def mixedRow : Document :=
  [("u", .ofInt 1), ("$set", .object [("v", .ofInt 1)]),
    ("$inc", .object [("w", .ofInt 1)])]

/-- An update of every row by that row. -/
def mixedUpdate : Builder :=
  (refillingUpdate mixedRow).model refilledThrice

/-- That row with what fills the fields that are not at its top. -/
def mixedResolved : Document :=
  [("u", .ofInt 1), ("v", .ofInt 7), ("w", .ofInt 7),
    ("$set", .object [("v", .ofInt 1)]), ("$inc", .object [("w", .ofInt 1)])]

/-- The update document of that row. -/
def mixedDocument : Document :=
  [("$set", .object [("v", .ofInt 1), ("u", .ofInt 1), ("w", .ofInt 7)]),
    ("$inc", .object [("w", .ofInt 1)])]

/--
The first two fields get what the row says of them, the incremented
one is set to seven.
-/
theorem on_update_yields_to_values_of_mixed :
    mixedUpdate.schema = some refilledThrice ∧
    mixedUpdate.values = some (.single mixedRow) ∧
    mixedRow.Distinct ∧
    (∀ name ∈ ["u", "v", "w"],
      refilledField name ∈ refilledThrice.fields ∧
        (refilledField name).onUpdate.isSome = true) ∧
    (∃ query,
      mixedUpdate.update.runFrom Store.firstSupply =
        (.ok query, Store.firstSupply) ∧
      query.values = some (.single mixedResolved) ∧
      updateDocument ObjectId.codec refilledThrice mixedResolved =
        .ok mixedDocument ∧
      mixedRow.contains "u" = true ∧
      mixedResolved.get? "u" = some (.ofInt 1) ∧
      ∃ unfilled,
        (mixedUpdate.model (refilledThrice.withoutOnUpdate "u")).update.runFrom
            Store.firstSupply =
          (.ok unfilled, Store.firstSupply) ∧
        unfilled.values = query.values) ∧
    (mixedRow.contains "v" = false ∧
      SetsUnder refilledThrice mixedRow (fieldKey refilledThrice "v") ∧
      updateDocument ObjectId.codec refilledThrice (mixedResolved.besides "v") =
        .ok mixedDocument) ∧
    mixedRow.contains "w" = false ∧
    ¬SetsUnder refilledThrice mixedRow (fieldKey refilledThrice "w") ∧
    refilledThrice.field? "$set" = none ∧
    HasOwnKey refilledThrice mixedResolved "w" ∧
    ∃ value stored,
      refilledThrice.Provides .update "w" value ∧
      storedValue ObjectId.codec (fieldKey refilledThrice "w") value =
        .ok stored ∧
      Entries.get? (Path.membersOf (mixedDocument.get? "$set"))
          (fieldKey refilledThrice "w") =
        some stored ∧
      stored = .ofInt 7 := by
  have distinct : mixedRow.Distinct := by
    unfold Entries.Distinct
    decide
  have members :
      ∀ name ∈ ["u", "v", "w"],
        refilledField name ∈ refilledThrice.fields ∧
          (refilledField name).onUpdate.isSome = true := by
    simp [refilledThrice, refilledField]
  obtain ⟨query, built⟩ :
      ∃ query,
        mixedUpdate.update.runFrom Store.firstSupply =
          (.ok query, Store.firstSupply) :=
    ⟨_, rfl⟩
  have isResolved : query.values = some (.single mixedResolved) := by
    cases built
    rfl
  have compiled :
      updateDocument ObjectId.codec refilledThrice mixedResolved =
        .ok mixedDocument :=
    rfl
  have setsField :
      SetsUnder refilledThrice mixedRow (fieldKey refilledThrice "v") :=
    ⟨_, rfl, List.mem_cons_self⟩
  have notSet :
      ¬SetsUnder refilledThrice mixedRow (fieldKey refilledThrice "w") := by
    rintro ⟨operand, isOperand, isSet⟩
    cases isOperand
    revert isSet
    decide
  have ownKey : HasOwnKey refilledThrice mixedResolved "w" := by
    unfold HasOwnKey
    decide
  obtain ⟨resolved, isTop, topYields, -⟩ :=
    on_update_yields_to_values rfl rfl distinct built
      (members "u" (by decide)).1 rfl ObjectId.codec
  cases isResolved.symm.trans isTop
  obtain ⟨_, isSet, -, setYields⟩ :=
    on_update_yields_to_values rfl rfl distinct built
      (members "v" (by decide)).1 rfl ObjectId.codec
  cases isResolved.symm.trans isSet
  obtain ⟨_, isIncremented, -, overridden⟩ :=
    on_update_yields_to_values rfl rfl distinct built
      (members "w" (by decide)).1 rfl ObjectId.codec
  cases isResolved.symm.trans isIncremented
  obtain ⟨value, stored, provides, isStored, isFilled⟩ :=
    (overridden rfl rfl mixedDocument compiled).2 notSet rfl ownKey
  obtain ⟨sameValue, unfilled⟩ := topYields rfl
  refine ⟨rfl, rfl, distinct, members,
    ⟨query, built, isResolved, compiled, rfl, sameValue, unfilled⟩,
    ⟨rfl, setsField, (setYields rfl rfl mixedDocument compiled).1 setsField⟩,
    rfl, notSet, rfl, ownKey, value, stored, provides, isStored, isFilled, ?_⟩
  exact (Option.some.inj isFilled).symm

/--
What fills a field on update is set also where the row increments the field.
-/
theorem on_update_overrides_increment :
    ((refillingUpdate [("$inc", .object [("v", .ofInt 1)])]).update.runFrom
        Store.firstSupply).1.toOption.bind Query.values =
        some (.single [("v", .ofInt 7), ("$inc", .object [("v", .ofInt 1)])]) ∧
      updateDocument ObjectId.codec refilledSchema
          [("v", .ofInt 7), ("$inc", .object [("v", .ofInt 1)])] =
        .ok
          [("$inc", .object [("v", .ofInt 1)]),
            ("$set", .object [("v", .ofInt 7)])] ∧
        (Collection.applyTo false
            [("$inc", .object [("v", .ofInt 1)]),
              ("$set", .object [("v", .ofInt 7)])]
            [("v", .ofInt 5)] Store.firstSupply).2.1 =
          [("v", .ofInt 7)] ∧
          (Collection.applyTo false [("$inc", .object [("v", .ofInt 1)])]
              [("v", .ofInt 5)] Store.firstSupply).2.1 =
            [("v", .ofInt 6)] := by
  refine ⟨rfl, rfl, ?_, ?_⟩
  · decide +kernel
  · decide +kernel

end Builder

end PolyQuery
