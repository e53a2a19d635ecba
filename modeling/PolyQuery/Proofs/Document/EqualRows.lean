import Mathlib.Data.List.Induction
import PolyQuery.Proofs.Document.InsertedRows
import PolyQuery.Proofs.Document.InterruptedWrites
import PolyQuery.Proofs.Document.PlainKeys
import PolyQuery.Proofs.Sql.DocumentAgreement

namespace PolyQuery

open Failing

/-!
# Rows with equal fields

A filter of equalities counts exactly the inserted rows whose fields have the
values asked for, be it by themselves or in a list, where null also stands for
a field that a row leaves out. A field is written under its storage name as one
key but looked up along it as a path, so this needs the storage names of the
fields asked for to be without dots.
-/

/-- A value that is neither a list nor an object. -/
def Json.isScalar : Json → Bool
  | .array _ => false
  | .object _ => false
  | _ => true

/--
A field equals a value, is a list with it, or is absent and the value null.
-/
def Document.fieldEquals
    (row : Document)
    (field : String)
    (value : Json) :
    Bool :=
  match row.get? field with
  | none => value.isNull
  | some (.array items) => items.any fun item => item.same value
  | some stored => stored.same value

theorem Document.fieldEquals_of_scalar
    {value : Json}
    (scalar : value.isScalar = true)
    (row : Document)
    (field : String) :
    row.fieldEquals field value = Matching.equals (row.get? field) value := by
  unfold fieldEquals Matching.equals
  cases row.get? field with
  | none =>
      rfl
  | some stored =>
      cases stored with
      | array items =>
          have notSame : (Json.array items).same value = false := by
            cases value <;> first | rfl | cases scalar
          dsimp only
          rw [notSame, Bool.false_or]
      | _ =>
          exact (Bool.or_false _).symm

namespace Schema

/--
A field that the schema knows, other than the identifier and
what is taken for it.
-/
structure IsOrdinaryField
    (schema : Schema)
    (field : Field) :
    Prop where
  member : field ∈ schema.fields
  notPrimary : field.primary = false
  notReserved : field.name ≠ idKey

theorem IsOrdinaryField.fieldKey_eq
    {schema : Schema}
    (distinctNames : (schema.fields.map Field.name).Nodup)
    {field : Field}
    (ordinary : schema.IsOrdinaryField field) :
    DocumentCompiler.fieldKey schema field.name = field.storage := by
  simp [DocumentCompiler.fieldKey, ordinary.notReserved,
    field?_of_distinct distinctNames ordinary.member, ordinary.notPrimary]

variable
  {schema : Schema}
  {key field other : Field}
  (unambiguous : schema.Unambiguous key)

include unambiguous

theorem IsOrdinaryField.storage_ne_idKey
    (ordinary : schema.IsOrdinaryField field) :
    field.storage ≠ idKey :=
  unambiguous.ordinary field ordinary.member ordinary.notPrimary

/-- No other name is stored under the key of an ordinary field. -/
theorem IsOrdinaryField.name_eq_of_fieldKey_eq
    (ordinary : schema.IsOrdinaryField field)
    (otherMember : other ∈ schema.fields)
    (sameKey : DocumentCompiler.fieldKey schema other.name = field.storage) :
    other.name = field.name := by
  have notIdKey := ordinary.storage_ne_idKey unambiguous
  unfold DocumentCompiler.fieldKey at sameKey
  split at sameKey
  · exact absurd sameKey.symm notIdKey
  · rw [unambiguous.field?_eq otherMember] at sameKey
    dsimp only at sameKey
    split at sameKey
    · exact absurd sameKey.symm notIdKey
    · have found := unambiguous.fieldForStorage?_eq otherMember
      rw [sameKey, unambiguous.fieldForStorage?_eq ordinary.member] at found
      rw [Option.some.inj found]

end Schema

namespace DocumentCompiler

variable
  {schema : Schema}
  {key field : Field}
  (unambiguous : schema.Unambiguous key)
  (ordinary : schema.IsOrdinaryField field)

include unambiguous ordinary

theorem get?_of_stored
    {codec : IdentifierCodec}
    {row pairs : Document}
    (known : schema.Knows row)
    (stored : List.Forall₂ (StoredAs codec schema) row pairs) :
    pairs.get? field.storage = row.get? field.name := by
  induction stored with
  | nil =>
      rfl
  | @cons entry pair rest others headStored _ inductionHypothesis =>
      obtain ⟨name, value⟩ := entry
      obtain ⟨pairKey, pairValue⟩ := pair
      obtain ⟨isKey, valueStored⟩ := headStored
      obtain ⟨other, otherMember, isName⟩ := known name List.mem_cons_self
      have restKnown : schema.Knows rest := fun later member =>
        known later (List.mem_cons_of_mem _ member)
      have notIdKey := ordinary.storage_ne_idKey unambiguous
      dsimp only at isKey valueStored isName
      by_cases isField : name = field.name
      · rw [isField, ordinary.fieldKey_eq unambiguous.names]
          at isKey valueStored
        have sameValue : value = pairValue := by
          simpa [storedValue, notIdKey] using valueStored
        simp [isKey, isField, sameValue]
      · have otherKey : pairKey ≠ field.storage := by
          intro sameKey
          apply isField
          rw [← isName]
          apply ordinary.name_eq_of_fieldKey_eq unambiguous otherMember
          rw [isName, ← isKey, sameKey]
        simp [isField, otherKey, inductionHypothesis restKnown]

/--
A row has under the storage name of a field what it had under the field's name.
-/
theorem get?_toStore
    {codec : IdentifierCodec}
    {row stored : Document}
    (distinct : row.Distinct)
    (known : schema.Knows row)
    (succeeded : toStore codec schema row = .ok stored) :
    stored.get? field.storage = row.get? field.name := by
  obtain ⟨pairs, rfl, related⟩ := toStore_eq_ok succeeded
  have reversedKnown : schema.Knows row.reverse := by
    intro name member
    rw [Entries.keys, List.map_reverse, List.mem_reverse] at member
    exact known name member
  rw [Entries.ofList, Entries.get?_insertAll, Entries.get?_nil, Option.or_none,
    get?_of_stored unambiguous ordinary reversedKnown
      (List.rel_reverse related),
    Entries.get?_reverse distinct]

end DocumentCompiler

namespace Filter

/-- A filter asks a condition of a field, by itself or among others. -/
def Asks
    (filter : Filter)
    (field : String)
    (condition : Condition) :
    Prop :=
  ∃ asked, (field, asked) ∈ filter ∧ condition ∈ asked.toConditions

theorem asks_cons_iff
    {name field : String}
    {present : FieldFilter}
    {rest : Filter}
    {condition : Condition} :
    Asks ((name, present) :: rest) field condition ↔
      (field = name ∧ condition ∈ present.toConditions) ∨
        rest.Asks field condition := by
  constructor
  · rintro ⟨asked, member, isAsked⟩
    rcases List.mem_cons.mp member with isHead | inRest
    · cases isHead
      exact .inl ⟨rfl, isAsked⟩
    · exact .inr ⟨asked, inRest, isAsked⟩
  · rintro (⟨rfl, isAsked⟩ | ⟨asked, inRest, isAsked⟩)
    · exact ⟨present, List.mem_cons_self, isAsked⟩
    · exact ⟨asked, List.mem_cons_of_mem _ inRest, isAsked⟩

/-- Constraining a field adds what is asked of it to what was asked before. -/
theorem asks_constrain_iff
    {filter : Filter}
    {field other : String}
    {asked : FieldFilter}
    {condition : Condition} :
    (filter.constrain field asked).Asks other condition ↔
      filter.Asks other condition ∨
        (other = field ∧ condition ∈ asked.toConditions) := by
  induction filter with
  | nil =>
      have alone : constrain [] field asked = [(field, asked)] := rfl
      rw [alone, asks_cons_iff, or_comm]
  | cons entry rest inductionHypothesis =>
      obtain ⟨name, present⟩ := entry
      by_cases sameName : name = field
      · subst sameName
        have merged :
            constrain ((name, present) :: rest) name asked =
              (name, present.merge asked) :: rest := by
          simp [constrain, Entries.alter]
        have both :
            condition ∈ (present.merge asked).toConditions ↔
              condition ∈ present.toConditions ∨
                condition ∈ asked.toConditions :=
          List.mem_append
        rw [merged, asks_cons_iff, asks_cons_iff, both]
        tauto
      · have headStays :
            constrain ((name, present) :: rest) field asked =
              (name, present) :: constrain rest field asked := by
          simp [constrain, Entries.alter, sameName]
        rw [headStays, asks_cons_iff, asks_cons_iff, inductionHypothesis,
          or_assoc]

/-- A filter that asks fields to equal some values. -/
def ofEqualities
    (equalities : List (String × Json)) :
    Filter :=
  equalities.foldl
    (fun filter asked => filter.constrain asked.1 (.equals asked.2)) []

theorem asks_ofEqualities_iff
    {equalities : List (String × Json)}
    {field : String}
    {condition : Condition} :
    (ofEqualities equalities).Asks field condition ↔
      ∃ asked ∈ equalities, field = asked.1 ∧ condition = ⟨"eq", asked.2⟩ := by
  induction equalities using List.reverseRecOn with
  | nil =>
      simp [ofEqualities, Asks]
  | append_singleton earlier asked inductionHypothesis =>
      have added :
          ofEqualities (earlier ++ [asked]) =
            (ofEqualities earlier).constrain asked.1 (.equals asked.2) := by
        rw [ofEqualities, List.foldl_append]
        rfl
      have alone :
          condition ∈ (FieldFilter.equals asked.2).toConditions ↔
            condition = ⟨"eq", asked.2⟩ :=
        List.mem_singleton
      rw [added, asks_constrain_iff, inductionHypothesis, alone]
      simp [or_and_right, exists_or]

theorem exists_of_mem_ofEqualities
    {equalities : List (String × Json)}
    {entry : String × FieldFilter}
    (member : entry ∈ ofEqualities equalities) :
    ∃ asked ∈ equalities, asked.1 = entry.1 := by
  induction equalities using List.reverseRecOn with
  | nil =>
      cases member
  | append_singleton earlier asked inductionHypothesis =>
      have inChanged :
          entry ∈
            (ofEqualities earlier).constrain asked.1 (.equals asked.2) := by
        rw [ofEqualities, List.foldl_append] at member
        exact member
      rcases Entries.mem_alter inChanged with wasThere | rfl | ⟨present, -, rfl⟩
      · obtain ⟨found, inEarlier, sameField⟩ := inductionHypothesis wasThere
        exact ⟨found, List.mem_append_left _ inEarlier, sameField⟩
      · exact ⟨asked, List.mem_append_right _ List.mem_cons_self, rfl⟩
      · exact ⟨asked, List.mem_append_right _ List.mem_cons_self, rfl⟩

end Filter

namespace Builder

/-- The builder of a query for the rows whose fields equal some values. -/
def askingEqual
    (schema : Schema)
    (equalities : List (String × Json)) :
    Builder :=
  equalities.foldl (fun builder asked => builder.constrainEqual asked.1 asked.2)
    (({} : Builder).model schema)

theorem askingEqual_eq
    (schema : Schema)
    (equalities : List (String × Json)) :
    askingEqual schema equalities =
      { ({} : Builder).model schema with
        filter := Filter.ofEqualities equalities } := by
  induction equalities using List.reverseRecOn with
  | nil =>
      rfl
  | append_singleton earlier asked inductionHypothesis =>
      rw [askingEqual, List.foldl_append, Filter.ofEqualities,
        List.foldl_append]
      change (askingEqual schema earlier).constrainEqual asked.1 asked.2 = _
      rw [inductionHypothesis]
      rfl

end Builder

namespace Schema

/--
A field may be asked to equal a scalar if it is ordinary and
stored under a plain key.
-/
def AsksPlainly
    (schema : Schema)
    (asked : String × Json) :
    Prop :=
  (∃ field,
    schema.IsOrdinaryField field ∧ field.name = asked.1 ∧
    IsPlainKey field.storage) ∧ asked.2.isScalar = true

end Schema

/--
Lists whose items answer two questions alike, one by one,
answer them equally often.
-/
theorem countP_eq_of_forall₂
    {α β : Type}
    {asked : α → Bool}
    {askedToo : β → Bool}
    {items : List α}
    {others : List β}
    (sameAnswers :
      List.Forall₂ (fun item other => asked item = askedToo other) items
        others) :
    items.countP asked = others.countP askedToo := by
  induction sameAnswers with
  | nil =>
      rfl
  | cons headSame _ inductionHypothesis =>
      rw [List.countP_cons, List.countP_cons, headSame, inductionHypothesis]

namespace Collection

theorem get?_withIdFirst_of_ne
    {key : String}
    (different : key ≠ idKey)
    (identifier : Json)
    (document : Document) :
    (withIdFirst identifier document).get? key = document.get? key := by
  rw [withIdFirst, Entries.get?_cons, if_neg (Ne.symm different)]
  induction document with
  | nil =>
      rfl
  | cons entry rest inductionHypothesis =>
      obtain ⟨name, value⟩ := entry
      by_cases isIdKey : name = idKey
      · have otherName : name ≠ key := fun same => different (same ▸ isIdKey)
        rw [List.filter_cons_of_neg (by simpa using isIdKey),
          inductionHypothesis, Entries.get?_cons, if_neg otherName]
      · rw [List.filter_cons_of_pos (by simpa using isIdKey), Entries.get?_cons,
          Entries.get?_cons, inductionHypothesis]

/--
A filter document that can be evaluated for every document leads
to those it holds of.
-/
theorem matching_eq_filter
    {filter : Document}
    {documents : List Document}
    {holds : Document → Bool}
    (evaluated :
      ∀ document ∈ documents, document.matches filter = .ok (holds document)) :
    matching filter documents = .ok (documents.filter holds) := by
  induction documents with
  | nil =>
      rfl
  | cons document rest inductionHypothesis =>
      obtain ⟨headEvaluated, restEvaluated⟩ := List.forall_mem_cons.mp evaluated
      rw [matching, headEvaluated, inductionHypothesis restEvaluated,
        List.filter_cons]
      rfl

end Collection

namespace Store

/--
The documents that a successful insert query adds are the
stored forms of its rows.
-/
theorem documents_of_execute_insert
    {query : Query}
    (isInsert : query.kind = .insert)
    {state after : StoreState}
    {outcome : Outcome}
    (executed : (execute query).runFrom state = (.ok outcome, after)) :
    ∃ documents added,
      query.rows.mapM (DocumentCompiler.toStore ObjectId.codec query.schema) =
          .ok documents ∧
        (after.1.collection query.schema.storage).documents =
            (state.1.collection query.schema.storage).documents ++ added ∧
          List.Forall₂ Collection.StoredUnder documents added := by
  have isWrite : query.kind ≠ .select := by
    rw [isInsert]
    exact StatementKind.noConfusion
  rw [execute_runFrom isWrite] at executed
  simp only [DocumentCompiler.compile, isInsert] at executed
  cases traversed :
      query.rows.mapM
        (DocumentCompiler.toStore ObjectId.codec query.schema) with
  | error cause =>
      rw [traversed] at executed
      cases executed
  | ok documents =>
      rw [traversed] at executed
      change
        (((run (.insert query.schema.storage documents)).runFrom state).1.map
          Prod.snd,
          ((run (.insert query.schema.storage documents)).runFrom state).2) = _
        at executed
      rw [(writesBy_insertStep query.schema.storage documents).whole,
        Stateful.runFrom_bind_pure] at executed
      cases inserted :
          (onCollection query.schema.storage
            (documents.foldlM insertStep [])).runFrom state with
      | mk result left =>
          rw [DocumentOperation.collection, inserted] at executed
          cases result with
          | error cause =>
              cases executed
          | ok told =>
              cases executed
              obtain ⟨changed, rest, ran, rfl⟩ :=
                exists_of_onCollection inserted
              rw [← insertDocuments_eq_foldlM] at ran
              obtain ⟨added, isChanged, stored⟩ :=
                exists_added_of_insertDocuments ran
              refine ⟨documents, added, rfl, ?_, stored⟩
              dsimp only
              rw [collection_insert]
              exact isChanged

/-- The query for the rows whose fields equal some values. -/
def equalityQuery
    (schema : Schema)
    (equalities : List (String × Json)) :
    Query :=
  (Builder.askingEqual schema equalities).freeze .select schema none

theorem equalityQuery_eq
    (schema : Schema)
    (equalities : List (String × Json)) :
    equalityQuery schema equalities =
      {
        filter := Filter.ofEqualities equalities
        kind := .select
        schema := schema
        values := none
      } := by
  rw [equalityQuery, Builder.askingEqual_eq]
  rfl

section Equalities

variable
  {schema : Schema}
  {key : Field}
  (unambiguous : schema.Unambiguous key)
  (unmarked :
    ∀ field ∈ schema.fields,
      field.primary = false → Operator.isMarked field.storage = false)
  {equalities : List (String × Json)}
  (plain : ∀ asked ∈ equalities, schema.AsksPlainly asked)

include unambiguous plain

theorem fieldKey_ne_idKey_of_asked
    {field : String}
    {asked : FieldFilter}
    (member : (field, asked) ∈ Filter.ofEqualities equalities) :
    DocumentCompiler.fieldKey schema field ≠ idKey := by
  obtain ⟨given, isGiven, rfl⟩ := Filter.exists_of_mem_ofEqualities member
  obtain ⟨⟨ordinaryField, ordinary, isName, -⟩, -⟩ := plain given isGiven
  rw [← isName, ordinary.fieldKey_eq unambiguous.names]
  exact ordinary.storage_ne_idKey unambiguous

/-- A filter of equalities can be compiled. -/
theorem exists_filterDocument_of_equalities :
    ∃ filter,
      DocumentCompiler.filterDocument ObjectId.codec
          (equalityQuery schema equalities) =
        .ok filter := by
  have judgedWell :
      verdict
          (DocumentCompiler.placeFields ObjectId.codec schema
            (Filter.ofEqualities equalities) {}) = .ok () := by
    rw [Sql.verdict_placeFields]
    apply forM_eq_ok
    rintro ⟨field, asked⟩ member
    apply forM_eq_ok
    intro condition isAsked
    obtain ⟨given, -, -, rfl⟩ :=
      Filter.asks_ofEqualities_iff.mp ⟨asked, member, isAsked⟩
    have ordinary := fieldKey_ne_idKey_of_asked unambiguous plain member
    have named : Condition.operator ⟨"eq", given.2⟩ = .ok .equal :=
      Operator.ofTag_tag .equal
    simp only [Sql.conditionVerdict, named]
    change verdict
      (DocumentCompiler.storedValue ObjectId.codec _ given.2 >>= _) = _
    rw [Sql.storedValue_ordinary ordinary]
    rfl
  cases placed :
      DocumentCompiler.placeFields ObjectId.codec schema
        (Filter.ofEqualities equalities) {} with
  | error cause =>
      rw [placed] at judgedWell
      cases judgedWell
  | ok draft =>
      rw [equalityQuery_eq, DocumentCompiler.filterDocument]
      dsimp only
      rw [placed]
      exact ⟨_, rfl⟩

/--
A query of equalities admits the documents whose values under the
fields' keys are equal.
-/
theorem admits_equalityQuery_iff
    (document : Document) :
    (equalityQuery schema equalities).Admits ObjectId.codec document ↔
      ∀ asked ∈ equalities,
        Matching.equals
          (document.lookup? (DocumentCompiler.fieldKey schema asked.1))
          asked.2 = true := by
  have holdsIff :
      ∀ asked ∈ equalities,
        (Condition.HoldsAt ObjectId.codec document
            (DocumentCompiler.fieldKey schema asked.1) ⟨"eq", asked.2⟩ ↔
          Matching.equals
            (document.lookup? (DocumentCompiler.fieldKey schema asked.1))
            asked.2 = true) := by
    intro asked member
    obtain ⟨filtered, inFilter, -⟩ :=
      Filter.asks_ofEqualities_iff.mpr ⟨asked, member, rfl, rfl⟩
    have ordinary := fieldKey_ne_idKey_of_asked unambiguous plain inFilter
    have named : Condition.operator ⟨"eq", asked.2⟩ = .ok .equal :=
      Operator.ofTag_tag .equal
    rw [Condition.holdsAt_iff named,
      Operator.holdsAt_iff (Sql.storedOperand_ordinary ordinary .equal asked.2)]
    rfl
  rw [equalityQuery_eq]
  constructor
  · rintro ⟨filterHolds, -⟩ asked member
    obtain ⟨filtered, inFilter, isAsked⟩ :=
      Filter.asks_ofEqualities_iff.mpr ⟨asked, member, rfl, rfl⟩
    exact (holdsIff asked member).mp (filterHolds _ inFilter _ isAsked)
  · intro allEqual
    refine ⟨?_, by simp [Query.AlternativesHold]⟩
    rintro ⟨field, filtered⟩ member condition isAsked
    obtain ⟨asked, isGiven, rfl, rfl⟩ :=
      Filter.asks_ofEqualities_iff.mp ⟨filtered, member, isAsked⟩
    exact (holdsIff asked isGiven).mpr (allEqual asked isGiven)

/--
A stored row has equal values under the keys exactly if the row has
them under the names.
-/
theorem equalities_hold_iff_of_stored
    {row document stored : Document}
    (distinct : row.Distinct)
    (known : schema.Knows row)
    (rowStored :
      DocumentCompiler.toStore ObjectId.codec schema row = .ok document)
    (documentStored : Collection.StoredUnder document stored) :
    (equalities.all fun asked =>
        Matching.equals
          (stored.lookup? (DocumentCompiler.fieldKey schema asked.1)) asked.2) =
      equalities.all fun asked => row.fieldEquals asked.1 asked.2 := by
  rw [Bool.eq_iff_iff, List.all_eq_true, List.all_eq_true]
  apply forall₂_congr
  intro asked member
  obtain ⟨⟨field, ordinary, isName, plainKey⟩, scalar⟩ := plain asked member
  obtain ⟨identifier, rfl⟩ := documentStored
  rw [Document.fieldEquals_of_scalar scalar, ← isName,
    ordinary.fieldKey_eq unambiguous.names, Document.lookup?_of_plain plainKey,
    Collection.get?_withIdFirst_of_ne (ordinary.storage_ne_idKey unambiguous),
    DocumentCompiler.get?_toStore unambiguous ordinary distinct known rowStored]

include unmarked

/--
The filter document of equalities decides whether the values
under the keys are equal.
-/
theorem equalities_decide
    {filter : Document}
    (compiled :
      DocumentCompiler.filterDocument ObjectId.codec
          (equalityQuery schema equalities) =
        .ok filter)
    (document : Document) :
    document.matches filter =
      .ok (equalities.all fun asked =>
        Matching.equals
          (document.lookup? (DocumentCompiler.fieldKey schema asked.1))
          asked.2) := by
  have decides :
      Matching.Decides (document.matches filter)
        ((equalityQuery schema equalities).Admits ObjectId.codec document) := by
    refine DocumentCompiler.filterDocument_decides ?_ ?_ compiled document
    · intro field member
      rw [equalityQuery_eq] at member ⊢
      have inFilter :
          field ∈ Entries.keys (Filter.ofEqualities equalities) := by
        simpa [Query.constrainedFields, Entries.keys] using member
      obtain ⟨entry, entryMember, rfl⟩ := List.mem_map.mp inFilter
      obtain ⟨asked, isGiven, isField⟩ :=
        Filter.exists_of_mem_ofEqualities entryMember
      obtain ⟨⟨field, ordinary, isName, -⟩, -⟩ := plain asked isGiven
      rw [← isField, ← isName]
      dsimp only
      rw [ordinary.fieldKey_eq unambiguous.names]
      exact unmarked field ordinary.member ordinary.notPrimary
    · rintro ⟨field, filtered⟩ member value stored isEquals valueStored
      rw [equalityQuery_eq] at member valueStored
      dsimp only at isEquals valueStored
      subst isEquals
      have ordinary := fieldKey_ne_idKey_of_asked unambiguous plain member
      rw [Sql.storedValue_ordinary ordinary] at valueStored
      cases valueStored
      obtain ⟨asked, isGiven, -, isAsked⟩ :=
        Filter.asks_ofEqualities_iff.mp ⟨_, member, List.mem_cons_self⟩
      cases isAsked
      have scalar := (plain asked isGiven).2
      cases isValue : asked.2 <;>
        first | rfl | (rw [isValue] at scalar; cases scalar)
  obtain ⟨value, answered, means⟩ := decides
  rw [answered]
  congr 1
  rw [Bool.eq_iff_iff, means, admits_equalityQuery_iff unambiguous plain,
    List.all_eq_true]

/--
A query of equalities counts the documents whose values
under the keys are equal.
-/
theorem count_equalityQuery
    (state : StoreState) :
    (count (equalityQuery schema equalities)).runFrom state =
      (.ok ((state.1.collection schema.storage).documents.countP fun document =>
        equalities.all fun asked =>
          Matching.equals
            (document.lookup? (DocumentCompiler.fieldKey schema asked.1))
            asked.2), state) := by
  obtain ⟨filter, compiled⟩ :=
    exists_filterDocument_of_equalities unambiguous plain
  have found :
      filtered state.1 (equalityQuery schema equalities) =
        Collection.matching filter
          (state.1.collection schema.storage).documents := by
    rw [equalityQuery_eq] at compiled ⊢
    rw [filtered]
    dsimp only
    rw [compiled]
    rfl
  rw [count_eq, found,
    Collection.matching_eq_filter fun document _ =>
      equalities_decide unambiguous unmarked plain compiled document,
    List.countP_eq_length_filter]
  rfl

/--
A query of equalities counts exactly the inserted rows with equal fields.

For an insert that succeeds on any store, and any equalities of ordinary fields
with scalars: the count grows by the number of rows in which every field asked
for equals its value, is a list with it, or is absent where the value is null.
-/
theorem count_grows_by_equal_rows
    {builder : Builder}
    {before drawn : Supply}
    {query : Query}
    (completed : builder.insert.runFrom before = (.ok query, drawn))
    (isSchema : query.schema = schema)
    (known : ∀ row ∈ query.rows, schema.Knows row)
    {state after : StoreState}
    {outcome : Outcome}
    (executed : (execute query).runFrom state = (.ok outcome, after)) :
    ∃ counting earlier,
      (Builder.askingEqual schema equalities).select = .ok counting ∧
        (count counting).runFrom state = (.ok earlier, state) ∧
        (count counting).runFrom after =
          (.ok (earlier + query.rows.countP fun row =>
            equalities.all fun asked => row.fieldEquals asked.1 asked.2),
            after) ∧
        ((state.1.collection schema.storage).documents = [] → earlier = 0) := by
  obtain ⟨isInsert, distinct⟩ := Builder.insert_eq_ok completed
  obtain ⟨documents, added, traversed, isAfter, stored⟩ :=
    documents_of_execute_insert isInsert executed
  rw [isSchema] at traversed isAfter
  have sameAnswers :
      List.Forall₂
        (fun row last =>
          (equalities.all fun asked => row.fieldEquals asked.1 asked.2) =
            equalities.all fun asked =>
              Matching.equals
                (last.lookup? (DocumentCompiler.fieldKey schema asked.1))
                asked.2)
        query.rows added := by
    refine forall₂_of_steps (mapM_eq_ok.mp traversed) stored ?_
    intro row member document last rowStored documentStored
    symm
    exact
      equalities_hold_iff_of_stored unambiguous plain (distinct row member)
        (known row member) rowStored documentStored
  have earlierCount := count_equalityQuery unambiguous unmarked plain state
  refine ⟨equalityQuery schema equalities, _, ?_, earlierCount, ?_, ?_⟩
  · rw [equalityQuery, Builder.askingEqual_eq]
    rfl
  · rw [count_equalityQuery unambiguous unmarked plain after, isAfter,
      List.countP_append, countP_eq_of_forall₂ sameAnswers]
  · intro noDocuments
    rw [noDocuments, List.countP_nil]

end Equalities

theorem count_grows_by_equal_rows_of_swapped :
    ∃ query outcome after counting earlier,
      swappedSchema.Unambiguous identifierField ∧
      (∀ field ∈ swappedSchema.fields,
        field.primary = false → Operator.isMarked field.storage = false) ∧
      (∀ asked ∈ [("a", Json.null), ("b", Json.ofInt 3)],
        swappedSchema.AsksPlainly asked) ∧
      swappedInsert.insert.runFrom firstSupply = (.ok query, firstSupply) ∧
      query.schema = swappedSchema ∧
      (∀ row ∈ query.rows, swappedSchema.Knows row) ∧
      (execute query).runFrom ([], firstSupply) = (.ok outcome, after) ∧
      (Builder.askingEqual swappedSchema
        [("a", .null), ("b", .ofInt 3)]).select = .ok counting ∧
      (count counting).runFrom ([], firstSupply) =
        (.ok earlier, ([], firstSupply)) ∧
      (count counting).runFrom after =
        (.ok (earlier + query.rows.countP fun row =>
          [("a", Json.null), ("b", Json.ofInt 3)].all fun asked =>
            row.fieldEquals asked.1 asked.2), after) ∧
      earlier = 0 := by
  have unambiguous : swappedSchema.Unambiguous identifierField := {
    identifiers := rfl
    names := by decide
    storages := by decide
    ordinary := by decide
  }
  have unmarked :
      ∀ field ∈ swappedSchema.fields,
        field.primary = false → Operator.isMarked field.storage = false := by
    decide
  have plain :
      ∀ asked ∈ [("a", Json.null), ("b", Json.ofInt 3)],
        swappedSchema.AsksPlainly asked := by
    refine List.forall_mem_cons.mpr ⟨?_, List.forall_mem_singleton.mpr ?_⟩
    · refine ⟨⟨plainField "a" "b", ⟨?_, rfl, ?_⟩, rfl, ?_⟩, rfl⟩ <;> decide
    · refine ⟨⟨plainField "b" "a", ⟨?_, rfl, ?_⟩, rfl, ?_⟩, rfl⟩ <;> decide
  have completed :
      ∃ query,
        swappedInsert.insert.runFrom firstSupply = (.ok query, firstSupply) ∧
          query.schema = swappedSchema ∧
          (∀ row ∈ query.rows, swappedSchema.Knows row) ∧
          ((execute query).runFrom ([], firstSupply)).1.isOk = true := by
    refine ⟨_, rfl, rfl, ?_, by decide +kernel⟩
    unfold Schema.Knows
    decide
  obtain ⟨query, inserts, isSchema, known, succeeds⟩ := completed
  obtain ⟨outcome, after, executed⟩ := exists_executed succeeds
  obtain ⟨counting, earlier, selected, earlierCount, laterCount, noneEarlier⟩ :=
    count_grows_by_equal_rows unambiguous unmarked plain inserts isSchema known
      executed
  exact
    ⟨query, outcome, after, counting, earlier, unambiguous, unmarked, plain,
      inserts, isSchema, known, executed, selected, earlierCount, laterCount,
      noneEarlier rfl⟩

/-- An entity with a field that is stored under a key with a dot. -/
def dottedSchema : Schema :=
  {
    name := "dotted"
    storageName := none
    fields := [identifierField, plainField "a" "x.y"]
  }

/-- An insert of one row with a value for that field. -/
def dottedInsert : Builder :=
  (({} : Builder).model dottedSchema).write
    (.single [("id", .string "5e53bb135b64856045ccb8dc"), ("a", .ofInt 1)])

/-- A row is not counted by a field that is stored under a key with a dot. -/
theorem dotted_field_not_counted :
    ∃ query outcome after counting,
      dottedSchema.Unambiguous identifierField ∧
      (∀ field ∈ dottedSchema.fields,
        field.primary = false → Operator.isMarked field.storage = false) ∧
      dottedSchema.IsOrdinaryField (plainField "a" "x.y") ∧
      dottedInsert.insert.runFrom firstSupply = (.ok query, firstSupply) ∧
      query.schema = dottedSchema ∧
      (∀ row ∈ query.rows, dottedSchema.Knows row) ∧
      (execute query).runFrom ([], firstSupply) = (.ok outcome, after) ∧
      (Builder.askingEqual dottedSchema [("a", .ofInt 1)]).select =
        .ok counting ∧
      (query.rows.countP fun row => row.fieldEquals "a" (.ofInt 1)) = 1 ∧
      (count counting).runFrom after = (.ok 0, after) := by
  have unambiguous : dottedSchema.Unambiguous identifierField := {
    identifiers := rfl
    names := by decide
    storages := by decide
    ordinary := by decide
  }
  have unmarked :
      ∀ field ∈ dottedSchema.fields,
        field.primary = false → Operator.isMarked field.storage = false := by
    decide
  have ordinary : dottedSchema.IsOrdinaryField (plainField "a" "x.y") := by
    constructor <;> decide
  have completed :
      ∃ query,
        dottedInsert.insert.runFrom firstSupply = (.ok query, firstSupply) ∧
          query.schema = dottedSchema ∧
          (∀ row ∈ query.rows, dottedSchema.Knows row) ∧
          (query.rows.countP fun row => row.fieldEquals "a" (.ofInt 1)) = 1 ∧
          ((execute query).runFrom ([], firstSupply)).1.isOk = true ∧
          ((count (equalityQuery dottedSchema [("a", .ofInt 1)])).runFrom
              ((execute query).runFrom ([], firstSupply)).2).1.toOption =
            some 0 := by
    refine ⟨_, rfl, rfl, ?_, rfl, by decide +kernel, by decide +kernel⟩
    unfold Schema.Knows
    decide
  obtain ⟨query, inserts, isSchema, known, oneEqual, succeeds, noneCounted⟩ :=
    completed
  obtain ⟨outcome, after, executed⟩ := exists_executed succeeds
  have counted :
      (count (equalityQuery dottedSchema [("a", .ofInt 1)])).runFrom after =
        (.ok 0, after) := by
    rw [executed, count_eq] at noneCounted
    rw [count_eq]
    cases found :
        filtered after.1 (equalityQuery dottedSchema [("a", .ofInt 1)]) with
    | error cause =>
        rw [found] at noneCounted
        cases noneCounted
    | ok documents =>
        rw [found] at noneCounted
        have isEmpty : documents.length = 0 := Option.some.inj noneCounted
        rw [← isEmpty]
        rfl
  exact
    ⟨query, outcome, after, _, unambiguous, unmarked, ordinary, inserts,
      isSchema, known, executed, rfl, oneEqual, counted⟩

end Store

end PolyQuery
