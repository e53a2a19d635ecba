import PolyQuery.Proofs.Document.Identifiers
import PolyQuery.Proofs.Document.IdentifierSpellings

namespace PolyQuery

/-!
# Identifiers there and back

The codec stores every identifier in one form, whose digits are in lower case.
Storing that form again, or what a caller sees of it, leads to the same form,
and a caller who gave digits sees them again in lower case. So two texts are
stored alike exactly if they differ in the case of their letters only. Whatever
is neither null nor twenty-four digits, by themselves or alone under `$oid`, is
refused.
-/

namespace HexDigit

/-- A digit that is read is written as the character in lower case. -/
theorem toChar_of_ofChar?
    {character : Char}
    {digit : HexDigit}
    (read : ofChar? character = some digit) :
    digit.toChar = character.toLower := by
  rw [← ofChar?_toLower] at read
  have notUpper :
      ¬(65 ≤ character.toLower.toNat ∧ character.toLower.toNat ≤ 90) := by
    have lowered := toNat_toLower character
    split at lowered <;> omega
  -- Only that the lower case character is no capital counts, not what it was
  -- before.
  generalize character.toLower = small at read notUpper ⊢
  have sameCode :
      small.toNat =
        if digit.val < 10 then 48 + digit.val else 87 + digit.val := by
    simp only [ofChar?] at read
    grind
  rw [← Char.ofNat_toNat small, sameCode, toChar]
  split <;> rfl

/-- Digits that are read are written as their characters in lower case. -/
theorem map_toChar_of_mapM
    {characters : List Char}
    {digits : List HexDigit}
    (read : characters.mapM ofChar? = some digits) :
    digits.map toChar = characters.map Char.toLower := by
  induction characters generalizing digits with
  | nil =>
      cases read
      rfl
  | cons character rest inductionHypothesis =>
      rw [List.mapM_cons] at read
      obtain ⟨digit, readHere, readLater⟩ := Option.bind_eq_some_iff.mp read
      obtain ⟨others, readRest, isWhole⟩ := Option.bind_eq_some_iff.mp readLater
      cases isWhole
      rw [List.map_cons, List.map_cons, toChar_of_ofChar? readHere,
        inductionHypothesis readRest]

end HexDigit

namespace ObjectId

/--
The digits of an identifier are those of any text that spells it, in lower case.
-/
theorem hex_of_ofText?
    {text : String}
    {identifier : ObjectId}
    (read : ofText? text = some identifier) :
    identifier.hex = lowered text := by
  unfold ofText? at read
  split at read
  next digits digitsRead =>
    split at read
    next =>
      cases read
      rw [hex, HexDigit.render, lowered, HexDigit.map_toChar_of_mapM digitsRead]
    next =>
      cases read
  next =>
    cases read

/--
Texts spell one identifier exactly if they differ in the case of letters only.
-/
theorem ofText?_eq_iff
    {left right : String}
    {leftIdentifier rightIdentifier : ObjectId}
    (leftRead : ofText? left = some leftIdentifier)
    (rightRead : ofText? right = some rightIdentifier) :
    leftIdentifier = rightIdentifier ↔ lowered left = lowered right := by
  constructor
  · rintro rfl
    rw [← hex_of_ofText? leftRead, ← hex_of_ofText? rightRead]
  · intro sameLowered
    have sameRead : some leftIdentifier = some rightIdentifier := by
      rw [← leftRead, ← rightRead, ← ofText?_lowered left,
        ← ofText?_lowered right, sameLowered]
    exact Option.some.inj sameRead

end ObjectId

theorem Json.identifierText?_eq_some_iff
    {value : Json}
    {text : String} :
    value.identifierText? = some text ↔
      value = .string text ∨ value = .object [("$oid", .string text)] := by
  unfold identifierText?
  split
  next => simp
  next => simp
  next notString notWrapped =>
    have neither :
        ¬(value = .string text ∨ value = .object [("$oid", .string text)]) := by
      rintro (isString | isWrapped)
      · exact notString text isString
      · exact notWrapped text isWrapped
    simp [neither]

namespace ObjectId

/--
A value is stored as null if it is null, else as the identifier
that its text spells.
-/
theorem encode_eq_ok_iff
    {value stored : Json} :
    encode value = .ok stored ↔
      value = .null ∧ stored = .null ∨
        ∃ text identifier,
          value.identifierText? = some text ∧
            ofText? text = some identifier ∧ stored = identifier.toJson := by
  by_cases isNull : value = .null
  · subst isNull
    simp [encode, Json.identifierText?, eq_comm]
  · rw [encode_eq isNull]
    cases spelled : value.identifierText? with
    | none =>
        simp [isNull]
    | some text =>
        cases read : ofText? text <;> simp [isNull, read, eq_comm]

theorem encode_toJson
    (identifier : ObjectId) :
    encode identifier.toJson = .ok identifier.toJson :=
  encode_eq_ok_iff.mpr
    (.inr ⟨identifier.hex, identifier, rfl, ofText?_hex identifier, rfl⟩)

theorem encode_string_eq_ok_iff
    {text : String}
    {stored : Json} :
    encode (.string text) = .ok stored ↔
      ∃ identifier,
        ofText? text = some identifier ∧ stored = identifier.toJson := by
  simp [encode_eq_ok_iff, Json.identifierText?]

/--
What is stored stays what it is, stored again as it is or as the caller sees it.
-/
theorem encode_stored
    {value stored : Json}
    (encoded : encode value = .ok stored) :
    encode stored = .ok stored ∧ encode (decode stored) = .ok stored := by
  rcases encode_eq_ok_iff.mp encoded with
      ⟨-, rfl⟩ | ⟨text, identifier, -, -, rfl⟩
  · exact ⟨rfl, rfl⟩
  · rw [decode_toJson]
    exact ⟨encode_toJson identifier, encode_hex identifier⟩

/--
Null is accepted, and twenty-four digits by themselves or alone under `$oid`.
-/
theorem exists_encode_iff
    {value : Json} :
    (∃ stored, encode value = .ok stored) ↔
      value = .null ∨
        ∃ text,
          isText text = true ∧
            (value = .string text ∨
              value = .object [("$oid", .string text)]) := by
  constructor
  · rintro ⟨stored, encoded⟩
    rcases encode_eq_ok_iff.mp encoded with
        ⟨isNull, -⟩ | ⟨text, identifier, spelled, read, -⟩
    · exact .inl isNull
    · have isText : isText text = true := by
        rw [← isSome_ofText?, read]
        rfl
      exact .inr ⟨text, isText, Json.identifierText?_eq_some_iff.mp spelled⟩
  · rintro (rfl | ⟨text, isText, written⟩)
    · exact ⟨.null, rfl⟩
    · rw [← isSome_ofText?] at isText
      obtain ⟨identifier, read⟩ := Option.isSome_iff_exists.mp isText
      exact ⟨identifier.toJson,
        encode_eq_ok_iff.mpr
          (.inr
            ⟨text, identifier, Json.identifierText?_eq_some_iff.mpr written,
              read, rfl⟩)⟩

/--
Identifiers survive the codec in one form.

What the codec stores it stores again as it is, both itself and what a caller
sees of it, and who gave a text sees it in lower case. Two texts that it accepts
are stored alike, in the sense of identity as in that of equality of values,
exactly if they are the same in lower case. It accepts null and twenty-four
hexadecimal digits, by themselves or as the only member of an object under
`$oid`, and refuses everything else as no identifier.
-/
theorem identifiers_survive_codec :
    (∀ value stored, encode value = .ok stored →
        encode stored = .ok stored ∧
          encode (decode stored) = .ok stored ∧
            ∀ text,
              value = .string text → decode stored = .string (lowered text)) ∧
      (∀ left right leftStored rightStored,
        encode (.string left) = .ok leftStored →
          encode (.string right) = .ok rightStored →
            (leftStored = rightStored ↔ lowered left = lowered right) ∧
              (leftStored.same rightStored = true ↔
                lowered left = lowered right)) ∧
        ∀ value,
          ((∃ stored, encode value = .ok stored) ↔
              value = .null ∨
                ∃ text,
                  isText text = true ∧
                    (value = .string text ∨
                      value = .object [("$oid", .string text)])) ∧
            ((∀ stored, encode value ≠ .ok stored) →
              encode value =
                .error (.invalidIdentifier value.reportedText)) := by
  refine ⟨?_, ?_, fun value => ⟨exists_encode_iff, ?_⟩⟩
  · intro value stored encoded
    obtain ⟨again, seen⟩ := encode_stored encoded
    refine ⟨again, seen, ?_⟩
    rintro text rfl
    obtain ⟨identifier, read, rfl⟩ := encode_string_eq_ok_iff.mp encoded
    rw [decode_toJson, hex_of_ofText? read]
  · intro left right leftStored rightStored leftEncoded rightEncoded
    obtain ⟨leftIdentifier, leftRead, rfl⟩ :=
      encode_string_eq_ok_iff.mp leftEncoded
    obtain ⟨rightIdentifier, rightRead, rfl⟩ :=
      encode_string_eq_ok_iff.mp rightEncoded
    have sameLowered := ofText?_eq_iff leftRead rightRead
    refine ⟨?_, same_toJson_iff.trans sameLowered⟩
    rw [← sameLowered, ← same_toJson_iff]
    constructor
    · intro identical
      rw [identical]
      exact same_toJson_iff.mpr rfl
    · intro same
      rw [same_toJson_iff.mp same]
  · intro refused
    cases failed : encode value with
    | ok stored =>
        exact absurd failed (refused stored)
    | error cause =>
        rw [(encode_eq_error_iff.mp failed).2]

open DocumentCompiler in
/--
Digits of either case are stored alike and seen in lower case; a
digit too few is refused.
-/
theorem identifiers_survive_codec_of_capitals :
    ∃ stored,
      encode capitals = .ok stored ∧
        encode stored = .ok stored ∧
          encode (decode stored) = .ok stored ∧
            decode stored = .string "5e53bb135b64856045ccb8dc" ∧
              encode (.string "5e53Bb135b64856045CCB8dc") = .ok stored ∧
                encode misspelled =
                  .error (.invalidIdentifier "5e53bb135b64856045ccb8d") := by
  obtain ⟨survives, alike, decided⟩ := identifiers_survive_codec
  obtain ⟨stored, encoded⟩ : ∃ stored, encode capitals = .ok stored := ⟨_, rfl⟩
  obtain ⟨storedToo, encodedToo⟩ :
      ∃ stored, encode (.string "5e53Bb135b64856045CCB8dc") = .ok stored :=
    ⟨_, rfl⟩
  have same : stored = storedToo :=
    (alike _ _ _ _ encoded encodedToo).1.mpr (by decide)
  subst same
  obtain ⟨again, seen, lowered⟩ := survives capitals stored encoded
  have notAccepted : ∀ stored, encode misspelled ≠ .ok stored := by
    intro stored accepted
    cases accepted
  exact ⟨stored, encoded, again, seen, lowered _ rfl, encodedToo,
    (decided misspelled).2 notAccepted⟩

end ObjectId

end PolyQuery
