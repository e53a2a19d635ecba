import PolyQuery.Proofs.Json.WrittenRecords
import PolyQuery.Schema.Json

namespace PolyQuery

open Json Record

/-!
# Written schemas

A schema has a written form unless a sequence provides one of its values. The
form reads back as the schema: what was left out of it is absent again, and a
literal that is given by its value, be it null, is that literal again.
-/

/--
A provider has a written form; in no object that it provides a name repeats.
-/
def Provider.Lasting : Provider → Prop
  | .literal value => value.Collapsed
  | .sequence _ => False
  | .now | .objectId | .uuid => True

/-- The providers of a field have written forms. -/
def Field.Lasting
    (field : Field) :
    Prop :=
  (∀ provider, field.onInsert = some provider → provider.Lasting) ∧
    ∀ provider, field.onUpdate = some provider → provider.Lasting

/-- The providers of all fields have written forms. -/
def Schema.Lasting
    (schema : Schema) :
    Prop :=
  ∀ field ∈ schema.fields, field.Lasting

theorem string_readsAs
    (text : String) :
    ReadsAs Json.string? (.string text) text :=
  ⟨rfl, rfl⟩

namespace Provider

theorem exists_toJson?_eq_some
    {provider : Provider}
    (lasting : provider.Lasting) :
    ∃ written,
      provider.toJson? = some written ∧ ReadsAs ofJson? written provider := by
  cases provider with
  | literal value =>
      have collapsed : value.collapse = value := lasting
      refine ⟨_, rfl, rfl, ?_⟩
      simp only [ofJson?, choice?, collapsed]
  | now | objectId | uuid =>
      exact ⟨_, rfl, rfl, rfl⟩
  | sequence name =>
      cases lasting

end Provider

namespace Field

/-- A provider that may be absent is a part of its field. -/
theorem exists_providerMember?_eq_some
    {provider : Option Provider}
    (lasting : ∀ given, provider = some given → given.Lasting)
    (name : String) :
    ∃ written,
      providerMember? name provider = some (member name written) ∧
        Option.Rel (ReadsAs Provider.ofJson?) written provider := by
  cases provider with
  | none =>
      exact ⟨none, rfl, .none⟩
  | some given =>
      obtain ⟨written, isWritten, readsAs⟩ :=
        Provider.exists_toJson?_eq_some (lasting given rfl)
      refine ⟨some written, ?_, .some readsAs⟩
      simp only [providerMember?, isWritten]
      rfl

/-- The parts of a field, with the written forms of its providers. -/
def parts
    (field : Field)
    (onInsert onUpdate : Option Json) :
    List (String × Option Json) :=
  [("name", some (.string field.name)), ("column", field.column.map .string),
    ("primary", some (.bool field.primary)), ("default", onInsert),
    ("on_update", onUpdate)]

/-- A field is read back from its parts. -/
theorem ofJson?_parts
    {field : Field}
    {onInsert onUpdate : Option Json}
    (insertRead : Option.Rel (ReadsAs Provider.ofJson?) onInsert field.onInsert)
    (updateRead :
      Option.Rel (ReadsAs Provider.ofJson?) onUpdate field.onUpdate) :
    ofJson? (.object (present (field.parts onInsert onUpdate))) =
      some field := by
  have distinct : ((field.parts onInsert onUpdate).map Prod.fst).Nodup :=
    (by decide : ["name", "column", "primary", "default", "on_update"].Nodup)
  generalize isRecord : field.parts onInsert onUpdate = written at distinct
  have name :
      required? (present written) "name" Json.string? = some field.name :=
    text?_present distinct (by simp [← isRecord, parts])
  have column :
      optional? (present written) "column" Json.string? = some field.column :=
    optional?_present_map distinct (by simp [← isRecord, parts]) fun text _ =>
      string_readsAs text
  have primary :
      withDefault? (present written) "primary" false Json.bool? =
        some field.primary :=
    withDefault?_present distinct false (.bool field.primary)
      (by simp [← isRecord, parts]) rfl
  have atInsert :
      optional? (present written) "default" Provider.ofJson? =
        some field.onInsert :=
    optional?_present distinct (by simp [← isRecord, parts]) insertRead
  have atUpdate :
      optional? (present written) "on_update" Provider.ofJson? =
        some field.onUpdate :=
    optional?_present distinct (by simp [← isRecord, parts]) updateRead
  simp only [ofJson?, record?_object (distinct_present distinct), name, column,
    primary, atInsert, atUpdate, Option.bind_eq_bind, Option.bind_some,
    Option.pure_def]

theorem exists_toJson?_eq_some
    {field : Field}
    (lasting : field.Lasting) :
    ∃ written, field.toJson? = some written ∧ ofJson? written = some field := by
  obtain ⟨onInsert, insertWritten, insertRead⟩ :=
    exists_providerMember?_eq_some lasting.1 "default"
  obtain ⟨onUpdate, updateWritten, updateRead⟩ :=
    exists_providerMember?_eq_some lasting.2 "on_update"
  refine ⟨_, ?_, ofJson?_parts insertRead updateRead⟩
  have joined :
      present (field.parts onInsert onUpdate) =
        [("name", .string field.name)] ++
          member "column" (field.column.map .string) ++
          [("primary", .bool field.primary)] ++ member "default" onInsert ++
            member "on_update" onUpdate := by
    simp only [parts, present_cons, present_nil, List.append_nil,
      List.append_assoc]
    rfl
  simp only [toJson?, insertWritten, updateWritten, joined,
    Option.bind_eq_bind, Option.bind_some, Option.pure_def]

end Field

namespace Schema

/-- The parts of a schema, with the written forms of its fields. -/
def parts
    (schema : Schema)
    (fields : List Json) :
    List (String × Option Json) :=
  [("name", some (.string schema.name)),
    ("storage_name", schema.storageName.map .string),
    ("fields", some (.array fields))]

/-- A schema is read back from its parts. -/
theorem ofJson?_parts
    {schema : Schema}
    {fields : List Json}
    (fieldsRead :
      List.Forall₂ (fun item field => Field.ofJson? item = some field) fields
        schema.fields) :
    ofJson? (.object (present (schema.parts fields))) = some schema := by
  have distinct : ((schema.parts fields).map Prod.fst).Nodup :=
    (by decide : ["name", "storage_name", "fields"].Nodup)
  generalize isRecord : schema.parts fields = written at distinct
  have name :
      required? (present written) "name" Json.string? = some schema.name :=
    text?_present distinct (by simp [← isRecord, parts])
  have storageName :
      optional? (present written) "storage_name" Json.string? =
        some schema.storageName :=
    optional?_present_map distinct (by simp [← isRecord, parts]) fun text _ =>
      string_readsAs text
  have described :
      withDefault? (present written) "fields" [] (list? Field.ofJson?) =
        some schema.fields :=
    withDefault?_present distinct [] (.array fields)
      (by simp [← isRecord, parts]) (list?_array fieldsRead)
  simp only [ofJson?, record?_object (distinct_present distinct), name,
    storageName, described, Option.bind_eq_bind, Option.bind_some,
    Option.pure_def]

theorem exists_mapM_toJson?_eq_some
    {fields : List Field}
    (lasting : ∀ field ∈ fields, field.Lasting) :
    ∃ written,
      fields.mapM Field.toJson? = some written ∧
        List.Forall₂ (fun item field => Field.ofJson? item = some field) written
          fields := by
  induction fields with
  | nil =>
      exact ⟨[], rfl, .nil⟩
  | cons field rest inductionHypothesis =>
      obtain ⟨fieldLasting, restLasting⟩ := List.forall_mem_cons.mp lasting
      obtain ⟨first, firstWritten, firstRead⟩ :=
        Field.exists_toJson?_eq_some fieldLasting
      obtain ⟨others, othersWritten, othersRead⟩ :=
        inductionHypothesis restLasting
      refine ⟨first :: others, ?_, .cons firstRead othersRead⟩
      simp only [List.mapM_cons, firstWritten, othersWritten,
        Option.bind_eq_bind, Option.bind_some, Option.pure_def]

/--
A schema without sequences has a written form, which reads back as the schema.
-/
theorem exists_toJson?_eq_some
    {schema : Schema}
    (lasting : schema.Lasting) :
    ∃ written,
      schema.toJson? = some written ∧ ofJson? written = some schema := by
  obtain ⟨fields, fieldsWritten, fieldsRead⟩ :=
    exists_mapM_toJson?_eq_some lasting
  refine ⟨_, ?_, ofJson?_parts fieldsRead⟩
  have joined :
      present (schema.parts fields) =
        [("name", .string schema.name)] ++
          member "storage_name" (schema.storageName.map .string) ++
            [("fields", .array fields)] := by
    simp only [parts, present_cons, present_nil, List.append_nil,
      List.append_assoc]
    rfl
  simp only [toJson?, fieldsWritten, joined, Option.bind_eq_bind,
    Option.bind_some, Option.pure_def]

end Schema

end PolyQuery
