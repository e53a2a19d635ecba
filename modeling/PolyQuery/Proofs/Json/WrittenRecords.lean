import PolyQuery.Json.Record
import PolyQuery.Proofs.Document.ObjectRoutes

namespace PolyQuery

/-!
# Written records

A record is written as an object whose members are those of its parts that are
present. The parts go by distinct names. So no name repeats in the object, which
is therefore read as a record, and every name leads back to its own part, or to
nothing if that part is absent.
-/

namespace Json

/-- A written form is read as a value, where null would be read as well. -/
structure ReadsAs
    {α : Type}
    (read : Json → Option α)
    (written : Json)
    (value : α) :
    Prop where
  notNull : written.isNull = false
  reads : read written = some value

theorem ReadsAs.nullable?_eq
    {α : Type}
    {read : Json → Option α}
    {written : Json}
    {value : α}
    (readsAs : ReadsAs read written value) :
    nullable? read written = some (some value) := by
  rcases readsAs with ⟨notNull, reads⟩
  cases written with
  | null =>
      cases notNull
  | _ =>
      simp only [nullable?, reads, Option.map_some]

/-- Documents in which no name repeats are read as they are. -/
theorem mapping?_object
    {document : Document}
    (single : (Json.object document).Collapsed) :
    mapping? (.object document) = some document := by
  have collapsed : (Json.object document).collapse = .object document := single
  simp only [mapping?, collapsed, object?]

/-- A list is read item by item. -/
theorem list?_array
    {α : Type}
    {read : Json → Option α}
    {items : List Json}
    {values : List α}
    (readBack :
      List.Forall₂ (fun item value => read item = some value) items values) :
    list? read (.array items) = some values := by
  simp only [list?, array?, Option.bind_some]
  induction readBack with
  | nil =>
      rfl
  | cons head _ inductionHypothesis =>
      simp only [List.mapM_cons, head, inductionHypothesis, Option.bind_eq_bind,
        Option.bind_some, Option.pure_def]

/-- Values that are written one by one are read back as a list. -/
theorem list?_map
    {α : Type}
    {write : α → Json}
    {read : Json → Option α}
    {values : List α}
    (readBack : ∀ value ∈ values, read (write value) = some value) :
    list? read (.array (values.map write)) = some values := by
  apply list?_array
  rw [List.forall₂_map_left_iff]
  exact List.forall₂_same.mpr readBack

theorem isRepeated_eq_false
    {members : Entries Json}
    (distinct : members.Distinct)
    (name : String) :
    isRepeated members name = false := by
  have atMostOnce : (members.countP fun member => member.1 = name) ≤ 1 :=
    calc (members.countP fun member => member.1 = name)
        = members.keys.count name := by
          simp only [List.count, Entries.keys, List.countP_map]
          rfl
      _ ≤ 1 := List.nodup_iff_count_le_one.mp distinct name
  exact decide_eq_false (Nat.not_lt.mpr atMostOnce)

/--
An object in which no name repeats is read as a record, whatever its fields are.
-/
theorem record?_object
    {members : Entries Json}
    (distinct : members.Distinct)
    (names : List String) :
    record? names (.object members) = some members := by
  have noneRepeated : names.any (isRepeated members) = false := by
    simp only [List.any_eq_false, isRepeated_eq_false distinct,
      Bool.false_eq_true, not_false_eq_true, implies_true]
  simp only [record?, noneRepeated, Bool.false_eq_true, if_false]

end Json

namespace Record

/-- The members of those parts of a record that are present. -/
def present
    (parts : List (String × Option Json)) :
    Entries Json :=
  parts.flatMap fun part => member part.1 part.2

theorem present_nil : present [] = [] :=
  rfl

theorem present_cons
    (name : String)
    (value : Option Json)
    (rest : List (String × Option Json)) :
    present ((name, value) :: rest) = member name value ++ present rest :=
  List.flatMap_cons

theorem mem_present
    {parts : List (String × Option Json)}
    {name : String}
    {value : Json} :
    (name, value) ∈ present parts ↔ (name, some value) ∈ parts := by
  simp only [present, List.mem_flatMap, member, Option.mem_toList,
    Option.map_eq_some_iff]
  constructor
  · rintro ⟨⟨other, present⟩, isPart, found, rfl, ⟨⟩⟩
    exact isPart
  · intro isPart
    exact ⟨_, isPart, value, rfl, rfl⟩

theorem keys_present_sublist
    (parts : List (String × Option Json)) :
    (present parts).keys.Sublist (parts.map Prod.fst) := by
  induction parts with
  | nil =>
      exact .slnil
  | cons part rest inductionHypothesis =>
      rcases part with ⟨name, _ | value⟩
      · exact inductionHypothesis.cons name
      · exact inductionHypothesis.cons_cons name

section Reading

variable
  {α : Type}
  {read : Json → Option α}
  {parts : List (String × Option Json)}
  (distinct : (parts.map Prod.fst).Nodup)
  {name : String}

include distinct

theorem distinct_present :
    (present parts).Distinct :=
  (keys_present_sublist parts).nodup distinct

/-- The name of a part leads to its value, or to nothing. -/
theorem get?_present
    {value : Option Json}
    (isPart : (name, value) ∈ parts) :
    (present parts).get? name = value := by
  cases value with
  | some value =>
      exact Entries.get?_of_mem (distinct_present distinct)
        (mem_present.mpr isPart)
  | none =>
      apply Entries.get?_eq_none_iff.mpr
      intro inKeys
      -- A member under the name would come from another part with it.
      obtain ⟨⟨other, value⟩, written, isName⟩ := List.mem_map.mp inKeys
      have samePart :=
        List.inj_on_of_nodup_map distinct (mem_present.mp written) isPart isName
      cases samePart

theorem required?_present
    {result : α}
    (value : Json)
    (isPart : (name, some value) ∈ parts)
    (reads : read value = some result) :
    required? (present parts) name read = some result := by
  simp only [required?, get?_present distinct isPart, Option.bind_some, reads]

theorem text?_present
    {text : String}
    (isPart : (name, some (.string text)) ∈ parts) :
    required? (present parts) name Json.string? = some text :=
  required?_present distinct _ isPart rfl

theorem flag?_present
    {flag : Bool}
    (isPart : (name, some (.bool flag)) ∈ parts) :
    required? (present parts) name Json.bool? = some flag :=
  required?_present distinct _ isPart rfl

theorem mapping?_present
    {document : Document}
    (single : (Json.object document).Collapsed)
    (isPart : (name, some (.object document)) ∈ parts) :
    required? (present parts) name Json.mapping? = some document :=
  required?_present distinct _ isPart (Json.mapping?_object single)

theorem withDefault?_present
    {result : α}
    (absent : α)
    (value : Json)
    (isPart : (name, some value) ∈ parts)
    (reads : read value = some result) :
    withDefault? (present parts) name absent read = some result := by
  simp only [withDefault?, get?_present distinct isPart, reads]

/-- A part that may be absent is read back as it is. -/
theorem optional?_present
    {written : Option Json}
    {value : Option α}
    (isPart : (name, written) ∈ parts)
    (readBack : Option.Rel (Json.ReadsAs read) written value) :
    optional? (present parts) name read = some value := by
  simp only [optional?, withDefault?, get?_present distinct isPart]
  cases readBack with
  | none => rfl
  | some readsAs => exact readsAs.nullable?_eq

/--
A part that is written as a value of one kind, if it is present, is read back.
-/
theorem optional?_present_map
    {write : α → Json}
    {value : Option α}
    (isPart : (name, value.map write) ∈ parts)
    (readBack :
      ∀ given, value = some given → Json.ReadsAs read (write given) given) :
    optional? (present parts) name read = some value := by
  apply optional?_present distinct isPart
  cases value with
  | none => exact .none
  | some given => exact .some (readBack given rfl)

end Reading

end Record

end PolyQuery
