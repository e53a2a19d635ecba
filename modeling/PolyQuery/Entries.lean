namespace PolyQuery

/-!
# Ordered entries

An ordered mapping from names to values, kept as the list of its entries in
insertion order. The first mention of a name fixes its place: a later value
replaces the earlier one there. Erasing a name moves the last entry into the
freed place, so an erasure costs no shifting and the order of the other
entries may change.
-/

/-- Named values in insertion order. -/
abbrev Entries
    (α : Type) :=
  List (String × α)

namespace Entries

variable {α : Type}

/-- The names in order. -/
def keys
    (entries : Entries α) :
    List String :=
  entries.map Prod.fst

/-- The values in order. -/
def values
    (entries : Entries α) :
    List α :=
  entries.map Prod.snd

/-- The value stored under a name, if there is one. -/
def get? :
    Entries α →
    String →
    Option α
  | [], _ => none
  | (name, value) :: rest, key =>
      if name = key then
        some value
      else
        get? rest key

/-- Whether a name occurs. -/
def contains
    (entries : Entries α)
    (key : String) :
    Bool :=
  (get? entries key).isSome

/--
Store what `update` makes of the value under `key`.

The entry keeps its place; a name that is not there yet joins at the end.
-/
def alter :
    Entries α →
    String →
    (Option α → α) →
    Entries α
  | [], key, update => [(key, update none)]
  | (name, value) :: rest, key, update =>
      if name = key then
        (name, update (some value)) :: rest
      else
        (name, value) :: alter rest key update

/-- Store a value, replacing the value that the name has already. -/
def insert
    (entries : Entries α)
    (key : String)
    (value : α) :
    Entries α :=
  alter entries key fun _ => value

/-- Store a value unless the name has one already. -/
def insertIfAbsent
    (entries : Entries α)
    (key : String)
    (value : α) :
    Entries α :=
  alter entries key fun existing => existing.getD value

/-- Store every pair of a list, one after the other. -/
def insertAll
    (entries : Entries α)
    (pairs : List (String × α)) :
    Entries α :=
  pairs.foldl (fun stored pair => insert stored pair.1 pair.2) entries

/--
Entries from pairs: the first mention of a name places it, the
last one sets its value.
-/
def ofList
    (pairs : List (String × α)) :
    Entries α :=
  insertAll [] pairs

/-- Remove a name; the last entry moves into its place. -/
def erase :
    Entries α →
    String →
    Entries α
  | [], _ => []
  | (name, value) :: rest, key =>
      if name = key then
        match rest.getLast? with
        | none => []
        | some last => last :: rest.dropLast
      else
        (name, value) :: erase rest key

/-- No name occurs twice. -/
def Distinct
    (entries : Entries α) :
    Prop :=
  entries.keys.Nodup

@[simp] theorem get?_nil
    (key : String) :
    get? ([] : Entries α) key = none :=
  rfl

@[simp] theorem get?_cons
    (name key : String)
    (value : α)
    (rest : Entries α) :
    get? ((name, value) :: rest) key =
      if name = key then some value else get? rest key :=
  rfl

theorem get?_alter
    (entries : Entries α)
    (key other : String)
    (update : Option α → α) :
    get? (alter entries key update) other =
      if key = other then
        some (update (get? entries key))
      else
        get? entries other := by
  induction entries with
  | nil =>
      simp [alter]
  | cons entry rest inductionHypothesis =>
      obtain ⟨name, value⟩ := entry
      by_cases sameName : name = key
      · subst sameName
        by_cases sameOther : name = other <;> simp [alter, sameOther]
      · simp only [alter, sameName, if_false, get?_cons, inductionHypothesis]
        by_cases sameOther : name = other
        · have different : key ≠ other := fun equal =>
            sameName (sameOther.trans equal.symm)
          simp [sameOther, different]
        · simp [sameOther]

/--
Reading after a store answers the stored value and leaves other names alone.
-/
theorem get?_insert
    (entries : Entries α)
    (key other : String)
    (value : α) :
    get? (insert entries key value) other =
      if key = other then some value else get? entries other :=
  get?_alter entries key other fun _ => value

end Entries

end PolyQuery
