import PolyQuery.Proofs.Sql.Names

namespace PolyQuery.Sql

/-!
# Placeholders resolved

A placeholder stands for the value that a payload has for it, under its name or
at its position. No two placeholders of a statement are written alike, so each
of them stands for the value of its own slot.
-/

theorem placeholder_ne
    (dialect : Dialect)
    {name otherName : String}
    {position otherPosition : Nat}
    (nameDiffers : name ≠ otherName)
    (positionDiffers : position ≠ otherPosition) :
    dialect.placeholder name position ≠
      dialect.placeholder otherName otherPosition := by
  intro same
  cases dialect with
  | sqlite => exact nameDiffers ((String.append_right_inj _).mp same)
  | postgres =>
      exact positionDiffers
        (Nat.repr_injective ((String.append_right_inj _).mp same))
  | mysql =>
      have sameName := (String.append_left_inj _).mp same
      exact nameDiffers ((String.append_right_inj _).mp sameName)

section Resolution

variable (dialect : Dialect)

/-- The values of a payload, each under the placeholder that it is for. -/
def boundValues
    (payload : Document) :
    Entries Json :=
  payload.mapIdx fun index entry =>
    (dialect.placeholder entry.1 (index + 1), entry.2)

/-- The value that a placeholder stands for. -/
def valueAt
    (payload : Document)
    (text : String) :
    Json :=
  ((boundValues dialect payload).get? text).getD .null

/-- The placeholders of pieces, each with the slot that it is for. -/
def placed
    (binder : Binder)
    (pieces : List Piece) :
    List (String × Slot) :=
  (bindPieces dialect binder pieces).slots.mapIdx fun index parameter =>
    (dialect.placeholder parameter.1 (binder.used.length + index + 1),
      parameter.2)

@[simp] theorem placed_word_cons
    (binder : Binder)
    (sqlWord : Word)
    (rest : List Piece) :
    placed dialect binder (.word sqlWord :: rest) =
      placed dialect binder rest := by
  rw [placed, bindPieces_cons]
  rfl

theorem placed_append
    (binder : Binder)
    (first second : List Piece) :
    placed dialect binder (first ++ second) =
      placed dialect binder first ++
        placed dialect (binder.pastAll first) second := by
  have used := congrArg List.length (used_pastAll dialect binder first)
  rw [List.length_append, List.length_map] at used
  unfold placed
  rw [bindPieces_append, List.mapIdx_append, used]
  simp only [Nat.add_assoc, Nat.add_comm, Nat.add_left_comm]

theorem boundValues_distinct
    {payload : Document}
    (distinct : payload.Distinct) :
    (boundValues dialect payload).Distinct := by
  unfold Entries.Distinct Entries.keys at distinct ⊢
  rw [List.Nodup, List.pairwise_map, List.pairwise_iff_getElem] at distinct ⊢
  intro left right leftWithin rightWithin before
  simp only [boundValues, List.length_mapIdx, List.getElem_mapIdx]
    at leftWithin rightWithin ⊢
  exact
    placeholder_ne dialect (distinct left right leftWithin rightWithin before)
    (by omega)

end Resolution

section Resolving

variable
  (dialect : Dialect)
  (row : List Json)
  (key : Option Json)

variable (resolve : String → Json) in
/-- Every placeholder of pieces is resolved to the value of its slot. -/
def Resolves
    (binder : Binder)
    (pieces : List Piece) :
    Prop :=
  ∀ parameter ∈ placed dialect binder pieces,
    resolve parameter.1 = parameter.2.value row key

variable
  {dialect row key}
  {resolve : String → Json}

theorem resolves_append
    {binder : Binder}
    {first second : List Piece} :
    Resolves dialect row key resolve binder (first ++ second) ↔
      Resolves dialect row key resolve binder first ∧
        Resolves dialect row key resolve (binder.pastAll first) second := by
  rw [Resolves, placed_append, List.forall_mem_append]
  rfl

theorem resolves_word_cons
    {binder : Binder}
    {sqlWord : Word}
    {rest : List Piece} :
    Resolves dialect row key resolve binder (.word sqlWord :: rest) ↔
      Resolves dialect row key resolve binder rest := by
  rw [Resolves, placed_word_cons]
  rfl

theorem resolves_around
    {binder : Binder}
    {sqlWord : Word}
    {first rest : List Piece} :
    Resolves dialect row key resolve binder (first ++ [.word sqlWord] ++ rest) ↔
      Resolves dialect row key resolve binder first ∧
        Resolves dialect row key resolve (binder.pastAll first) rest := by
  rw [List.append_assoc, resolves_append, List.singleton_append,
    resolves_word_cons]

theorem resolves_enclosed
    {binder : Binder}
    {pieces : List Piece}
    (resolved : Resolves dialect row key resolve binder (enclosed pieces)) :
    Resolves dialect row key resolve binder pieces :=
  resolves_word_cons.mp (resolves_append.mp resolved).1

variable (row key) in
/--
The payload of some pieces holds the value of each slot under its placeholder.
-/
theorem get?_boundValues
    {pieces : List Piece}
    {parameter : String × Slot}
    (member : parameter ∈ placed dialect .empty pieces) :
    (boundValues dialect
      (payload (bindPieces dialect .empty pieces).slots row key)).get?
        parameter.1 =
      some (parameter.2.value row key) := by
  have distinct :
      (payload (bindPieces dialect .empty pieces).slots row key :
        Entries Json).Distinct := by
    have names := nodup_names dialect .empty List.nodup_nil pieces
    simpa [Entries.Distinct, Entries.keys, payload, Binder.empty,
      Function.comp_def] using names
  refine Entries.get?_of_mem (boundValues_distinct dialect distinct) ?_
  obtain ⟨index, within, isPlaced⟩ := List.mem_mapIdx.mp member
  refine List.mem_mapIdx.mpr ⟨index, by simpa [payload] using within, ?_⟩
  rw [← isPlaced]
  simp [payload, Binder.empty]

variable (dialect row key) in
/--
By the payload of some pieces, every placeholder of theirs stands for
the value of its slot.
-/
theorem resolves_valueAt
    (pieces : List Piece) :
    Resolves dialect row key
      (valueAt dialect
        (payload (bindPieces dialect .empty pieces).slots row key)) .empty
      pieces := by
  intro parameter member
  rw [valueAt, get?_boundValues row key member, Option.getD_some]

end Resolving

end PolyQuery.Sql
