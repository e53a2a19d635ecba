import PolyQuery.Document.Matching

namespace PolyQuery.ObjectId

/-!
# Identifiers in their stored form

The stored form of an identifier reads back as that identifier, and the codec
of identifiers answers null or a stored form, never a document of operators.
-/

/-- The digits of an identifier read back as the identifier. -/
theorem ofText?_hex
    (identifier : ObjectId) :
    ofText? identifier.hex = some identifier := by
  have digitsRead :
      identifier.hex.toList.mapM HexDigit.ofChar? = some identifier.digits := by
    simp only [hex, HexDigit.render, String.toList_ofList, List.mapM_map]
    generalize identifier.digits = digits
    induction digits with
    | nil =>
        rfl
    | cons digit rest inductionHypothesis =>
        simp [HexDigit.ofChar?_toChar, inductionHypothesis]
  simp [ofText?, digitsRead, identifier.length_eq]

/-- The stored form of an identifier reads back as the identifier. -/
theorem ofJson?_toJson
    (identifier : ObjectId) :
    ofJson? identifier.toJson = some identifier :=
  ofText?_hex identifier

/-- The codec answers null or the stored form of an identifier. -/
theorem null_or_stored_of_encode
    {value stored : Json}
    (encoded : encode value = .ok stored) :
    stored = .null ∨ ∃ identifier : ObjectId, stored = identifier.toJson := by
  unfold encode at encoded
  split at encoded
  · cases encoded
    exact .inl rfl
  · split at encoded
    next identifier _ =>
      cases encoded
      exact .inr ⟨identifier, rfl⟩
    next =>
      cases encoded
  · split at encoded
    next identifier _ =>
      cases encoded
      exact .inr ⟨identifier, rfl⟩
    next =>
      cases encoded

/-- What the codec answers is compared for equality. -/
theorem isOperatorDocument_encode
    {value stored : Json}
    (encoded : encode value = .ok stored) :
    Matching.isOperatorDocument stored = false := by
  rcases null_or_stored_of_encode encoded with isNull | ⟨identifier, isStored⟩
  · subst stored
    rfl
  · subst stored
    have readBack := ofJson?_toJson identifier
    simp only [toJson] at readBack
    simp [Matching.isOperatorDocument, toJson, readBack]

theorem same_toJson_iff
    {left right : ObjectId} :
    left.toJson.same right.toJson = true ↔ left = right := by
  constructor
  · intro same
    have sameHex : left.hex = right.hex := by
      simpa [toJson, Json.same, Json.sameMembers] using same
    have readBack := ofText?_hex left
    rw [sameHex, ofText?_hex] at readBack
    exact (Option.some.inj readBack).symm
  · rintro rfl
    simp [toJson, Json.same, Json.sameMembers]

theorem decode_toJson
    (identifier : ObjectId) :
    decode identifier.toJson = .string identifier.hex := by
  simp [decode, ofJson?_toJson]

theorem encode_hex
    (identifier : ObjectId) :
    encode (.string identifier.hex) = .ok identifier.toJson := by
  simp [encode, ofText?_hex]

end PolyQuery.ObjectId
