import PolyQuery.Proofs.Document.CompilationChecks
import PolyQuery.Proofs.Document.RespelledIdentifiers
import PolyQuery.Proofs.Query.StoredPages

namespace PolyQuery

open DocumentCompiler

/-!
# Spellings of identifiers

An identifier is spelled by twenty-four hexadecimal digits of either case, by
themselves or under `$oid`. All its spellings are encoded alike, and what
neither is null nor spells an identifier cannot be encoded. So two queries that
spell the same identifiers are compiled to the same operation, and none is
compiled to one in which an operand that it uses was not encoded.
-/

namespace HexDigit

/-- Lower case moves the capitals by thirty-two places and leaves all else. -/
theorem toNat_toLower
    (character : Char) :
    character.toLower.toNat =
      if 65 ≤ character.toNat ∧ character.toNat ≤ 90 then
        character.toNat + 32
      else
        character.toNat := by
  unfold Char.toLower
  split
  next capital =>
    have bounds : 65 ≤ character.toNat ∧ character.toNat ≤ 90 := by
      simpa [UInt32.le_iff_toNat_le] using capital
    rw [if_pos bounds]
    change (character.val + 32).toNat = _
    rw [UInt32.toNat_add]
    exact Nat.mod_eq_of_lt (by simp; omega)
  next other =>
    have bounds : ¬(65 ≤ character.toNat ∧ character.toNat ≤ 90) := by
      simpa [UInt32.le_iff_toNat_le] using other
    rw [if_neg bounds]

/-- A digit stands for the same number in lower case. -/
theorem ofChar?_toLower
    (character : Char) :
    ofChar? character.toLower = ofChar? character := by
  have lowered := toNat_toLower character
  -- Only the number of the lower case character counts, not how it was built.
  generalize character.toLower = small at lowered ⊢
  unfold ofChar?
  grind

theorem isSome_ofChar?
    (character : Char) :
    (ofChar? character).isSome = character.isHexDigit := by
  have isHexDigit_iff :
      character.isHexDigit = true ↔
        (48 ≤ character.toNat ∧ character.toNat ≤ 57) ∨
          (97 ≤ character.toNat ∧ character.toNat ≤ 102) ∨
            (65 ≤ character.toNat ∧ character.toNat ≤ 70) := by
    simp only [Char.isHexDigit, Char.isDigit, ge_iff_le, UInt32.le_iff_toNat_le,
      Bool.or_eq_true, Bool.and_eq_true, decide_eq_true_eq, or_assoc]
    rfl
  rw [Bool.eq_iff_iff, isHexDigit_iff]
  unfold ofChar?
  grind

/-- Characters are read as so many digits, or one of them is no digit. -/
theorem mapM_ofChar?
    (characters : List Char) :
    (∃ digits,
        characters.mapM ofChar? = some digits ∧
          digits.length = characters.length ∧
          characters.all Char.isHexDigit = true) ∨
      characters.mapM ofChar? = none ∧
        characters.all Char.isHexDigit = false := by
  induction characters with
  | nil =>
      exact .inl ⟨[], rfl, rfl, rfl⟩
  | cons character rest inductionHypothesis =>
      rw [List.mapM_cons, List.all_cons, ← isSome_ofChar?]
      cases ofChar? character with
      | none =>
          exact .inr ⟨rfl, rfl⟩
      | some digit =>
          rcases inductionHypothesis with
            ⟨digits, read, sameLength, areDigits⟩ | ⟨unread, notDigits⟩
          · refine .inl
              ⟨digit :: digits, ?_, congrArg (· + 1) sameLength, areDigits⟩
            rw [read]
            rfl
          · refine .inr ⟨?_, notDigits⟩
            rw [unread]
            rfl

end HexDigit

namespace ObjectId

/--
Whether a text spells an identifier: twenty-four hexadecimal
digits of either case.
-/
def isText
    (text : String) :
    Bool :=
  text.length = 24 && text.toList.all Char.isHexDigit

/-- A text in lower case. -/
def lowered
    (text : String) :
    String :=
  String.ofList (text.toList.map Char.toLower)

theorem ofText?_lowered
    (text : String) :
    ofText? (lowered text) = ofText? text := by
  simp only [ofText?, lowered, String.toList_ofList, List.mapM_map,
    Function.comp_def, HexDigit.ofChar?_toLower]

theorem isSome_ofText?
    (text : String) :
    (ofText? text).isSome = isText text := by
  unfold ofText? isText
  rcases HexDigit.mapM_ofChar? text.toList with
    ⟨digits, read, sameLength, areDigits⟩ | ⟨unread, notDigits⟩
  · rw [read, areDigits, ← String.length_toList, ← sameLength]
    by_cases isLength : digits.length = 24 <;> simp [isLength]
  · rw [unread, notDigits]
    simp

end ObjectId

namespace Json

/--
The text of a string, or of the string under `$oid` in an
object of nothing else.
-/
def identifierText? : Json → Option String
  | .string text => some text
  | .object [("$oid", .string text)] => some text
  | _ => none

/-- Whether a value spells an identifier. -/
def spellsIdentifier
    (value : Json) :
    Bool :=
  value.identifierText?.any ObjectId.isText

/-- The lower-case digits of an identifier, any other value as it is. -/
def plainSpelling
    (value : Json) :
    Json :=
  match value.identifierText? with
  | some text =>
      if ObjectId.isText text then .string (ObjectId.lowered text) else value
  | none => value

/-- Neither null nor a spelling of an identifier. -/
def IsStray
    (value : Json) :
    Prop :=
  value ≠ .null ∧ value.spellsIdentifier = false

instance
    (value : Json) :
    Decidable value.IsStray :=
  inferInstanceAs (Decidable (_ ∧ _))

/-- The text by which an operand is reported that cannot be encoded. -/
def reportedText : Json → String
  | .string text => text
  | other => other.text

theorem isArray_plainSpelling
    (value : Json) :
    value.plainSpelling.isArray = value.isArray := by
  unfold plainSpelling
  split
  next text spelled =>
    have notList : value.isArray = false := by
      cases value <;> first | rfl | cases spelled
    split
    · rw [notList]
      rfl
    · rfl
  next =>
    rfl

theorem spellsIdentifier_eq
    (value : Json) :
    value.spellsIdentifier =
      (value.identifierText?.bind ObjectId.ofText?).isSome := by
  unfold spellsIdentifier
  cases value.identifierText? with
  | none =>
      rfl
  | some text =>
      exact (ObjectId.isSome_ofText? text).symm

end Json

namespace ObjectId

theorem ofJson?_object
    (members : Entries Json) :
    ofJson? (.object members) =
      (Json.object members).identifierText?.bind ofText? := by
  unfold ofJson? Json.identifierText?
  split
  next digits isWrapped =>
    cases isWrapped
    rfl
  next notWrapped =>
    split
    next text isString =>
      cases isString
    next text isWrapped =>
      exact absurd isWrapped (notWrapped text)
    next =>
      rfl

/-- Anything but null is encoded by the text that spells it, or reported. -/
theorem encode_eq
    {value : Json}
    (notNull : value ≠ .null) :
    encode value =
      match value.identifierText?.bind ofText? with
      | some identifier => .ok identifier.toJson
      | none => .error (.invalidIdentifier value.reportedText) := by
  cases value with
  | null =>
      exact absurd rfl notNull
  | object members =>
      rw [encode, ofJson?_object]
      · rfl
      · nofun
      · nofun
  | _ =>
      rfl

/-- Identifiers are encoded alike however they are spelled. -/
theorem encode_plainSpelling
    (value : Json) :
    encode value.plainSpelling = encode value := by
  unfold Json.plainSpelling
  split
  next text spelled =>
    split
    next isText =>
      have notNull : value ≠ .null := by
        rintro rfl
        cases spelled
      obtain ⟨identifier, read⟩ :=
        Option.isSome_iff_exists.mp ((isSome_ofText? text).trans isText)
      have readLowered : ofText? (lowered text) = some identifier := by
        rw [ofText?_lowered, read]
      rw [encode_eq notNull, spelled, Option.bind_some, read, encode,
        readLowered]
    next =>
      rfl
  next =>
    rfl

/--
What cannot be encoded neither is null nor spells an
identifier, and is reported.
-/
theorem encode_eq_error_iff
    {value : Json}
    {cause : QueryError} :
    encode value = .error cause ↔
      value.IsStray ∧ cause = .invalidIdentifier value.reportedText := by
  by_cases isNull : value = .null
  · subst isNull
    simp [encode, Json.IsStray]
  · rw [encode_eq isNull, Json.IsStray, Json.spellsIdentifier_eq]
    cases value.identifierText?.bind ofText? <;> simp [isNull, eq_comm]

end ObjectId

/-- The codec that stores every operand as it is given. -/
def IdentifierCodec.accepting : IdentifierCodec :=
  {
    encode := .ok
    decode := id
  }

/-- The operand that a check encodes, unless it is a refusal. -/
def Check.operand? : Check → Option Json
  | .identifier operand => some operand
  | .refusal _ => none

/-- The operands that some checks encode. -/
def Check.operands
    (checks : List Check) :
    List Json :=
  checks.filterMap Check.operand?

theorem Check.mem_operands_iff
    {checks : List Check}
    {operand : Json} :
    operand ∈ operands checks ↔ .identifier operand ∈ checks := by
  unfold operands
  rw [List.mem_filterMap]
  constructor
  · rintro ⟨check, member, isOperand⟩
    cases check with
    | identifier encoded =>
        cases isOperand
        exact member
    | refusal cause =>
        cases isOperand
  · intro member
    exact ⟨_, member, rfl⟩

namespace Query

/--
Two queries are one once all identifiers in them are spelled by
their lower-case digits.
-/
def SpelledLike
    (query other : Query) :
    Prop :=
  query.respell Json.plainSpelling = other.respell Json.plainSpelling

/--
The operands of a query that stand for identifiers and that its
kind of statement uses.
-/
def identifierOperands
    (query : Query) :
    List Json :=
  Check.operands (checks query)

/--
The operands that stand for identifiers where the rows of a query are counted.
-/
def countedIdentifierOperands
    (query : Query) :
    List Json :=
  Check.operands (clauseChecks query ++ filterChecks query)

end Query

/--
A compilation fails where one of some operands neither is null nor spells an
identifier.

If all else is well, it fails for the cause of such an operand.
-/
def RefusesStrays
    (operands : List Json)
    (compiled : IdentifierCodec → Except QueryError DocumentOperation) :
    Prop :=
  ∀ operand ∈ operands, operand.IsStray →
    ∃ cause,
      compiled ObjectId.codec = .error cause ∧
        ∀ operation, compiled .accepting = .ok operation →
          ∃ stray ∈ operands,
            stray.IsStray ∧ cause = .invalidIdentifier stray.reportedText

namespace DocumentCompiler

theorem refusesStrays_of_checkedBy
    {checks : List Check}
    {compiled : IdentifierCodec → Except QueryError DocumentOperation}
    (checked : ∀ codec, CheckedBy codec checks (compiled codec)) :
    RefusesStrays (Check.operands checks) compiled := by
  intro operand member isStray
  have notAccepted : ∀ stored, ObjectId.codec.encode operand ≠ .ok stored := by
    intro stored encoded
    have refused := ObjectId.encode_eq_error_iff.mpr ⟨isStray, rfl⟩
    cases encoded.symm.trans refused
  obtain ⟨cause, failed⟩ :=
    (checked ObjectId.codec).fails (Check.mem_operands_iff.mp member)
      notAccepted
  refine ⟨cause, failed, fun operation succeeds => ?_⟩
  obtain ⟨stray, strayMember, notEncoded⟩ :=
    (checked ObjectId.codec).exists_operand_of_error (checked .accepting)
      succeeds failed
  obtain ⟨strayIsStray, isCause⟩ := ObjectId.encode_eq_error_iff.mp notEncoded
  exact ⟨stray, Check.mem_operands_iff.mpr strayMember, strayIsStray, isCause⟩

/-- How identifiers are spelled does not matter to the codec. -/
theorem codec_after_plainSpelling :
    ObjectId.codec.after Json.plainSpelling = ObjectId.codec := by
  unfold IdentifierCodec.after ObjectId.codec
  simp only [ObjectId.encode_plainSpelling]

/--
Operations depend on identifiers only through the codec.

Two queries that spell the same identifiers, wherever in them these stand, are
compiled to one operation or fail for one cause, and so are their counts. If an
operand that stands for an identifier and is used neither is null nor spells
one, then the query is not compiled; if nothing else is wrong with it, such an
operand is reported.
-/
theorem identifiers_reach_operations_encoded
    {query other : Query}
    (alike : query.SpelledLike other) :
    compile ObjectId.codec query = compile ObjectId.codec other ∧
      compileCount ObjectId.codec query = compileCount ObjectId.codec other ∧
      RefusesStrays query.identifierOperands
        (fun codec => compile codec query) ∧
      RefusesStrays query.countedIdentifierOperands
        (fun codec => compileCount codec query) := by
  have keepsLists := Json.isArray_plainSpelling
  have compiled := compile_respell ObjectId.codec keepsLists
  have counted := compileCount_respell ObjectId.codec keepsLists
  rw [codec_after_plainSpelling] at compiled counted
  refine ⟨?_, ?_,
    refusesStrays_of_checkedBy fun codec => compile_checkedBy codec query,
    refusesStrays_of_checkedBy fun codec => compileCount_checkedBy codec query⟩
  · rw [← compiled query, alike, compiled other]
  · rw [← counted query, alike, counted other]

/--
An update of two rows by their identifiers, of those only that a filter allows.
-/
def crossing
    (first second : Json) :
    Query where
  kind := .update
  schema := Paginator.personSchema
  filter :=
    [("_id", .conditions [⟨"between", .array [first, second]⟩, ⟨"ne", second⟩]),
      ("name", .equals (.string "Ada"))]
  alternatives :=
    [("id",
      [⟨"$eq", .array [first, second]⟩,
        ⟨"in", .array [.array [first], .array [second]]⟩])]
  values :=
    some (.batch
      [[("id", first), ("name", .string "Eve")],
        [("$set", .object [("_id", first)]), ("id", second)]])

/-- The digits of an identifier with letters among them. -/
def capitals : Json :=
  .string "5E53BB135B64856045CCB8DC"

/-- The same identifier under `$oid`, in lower case. -/
def wrapped : Json :=
  .object [("$oid", .string "5e53bb135b64856045ccb8dc")]

/-- A value that spells no identifier. -/
def misspelled : Json :=
  .string "5e53bb135b64856045ccb8d"

/--
The update is compiled alike in both spellings, and not at all in a wrong one.
-/
theorem identifiers_reach_operations_encoded_of_crossing :
    (crossing capitals wrapped).SpelledLike (crossing wrapped capitals) ∧
      (∃ operation,
        compile ObjectId.codec (crossing capitals wrapped) = .ok operation ∧
          compile ObjectId.codec (crossing wrapped capitals) = .ok operation) ∧
      (crossing capitals misspelled).SpelledLike
        (crossing capitals misspelled) ∧
      misspelled ∈ (crossing capitals misspelled).identifierOperands ∧
      misspelled.IsStray ∧
      (∃ operation,
        compile .accepting (crossing capitals misspelled) = .ok operation) ∧
      ∃ stray,
        compile ObjectId.codec (crossing capitals misspelled) =
          .error (.invalidIdentifier stray) := by
  have alike :
      (crossing capitals wrapped).SpelledLike (crossing wrapped capitals) := by
    unfold Query.SpelledLike
    decide +kernel
  have succeeds :
      ∃ operation,
        compile ObjectId.codec (crossing capitals wrapped) = .ok operation :=
    ⟨_, by rfl⟩
  have operands :
      (crossing capitals misspelled).identifierOperands =
        [capitals, misspelled, misspelled, capitals, misspelled, capitals,
          misspelled, capitals, misspelled, capitals] := by
    rfl
  have member :
      misspelled ∈ (crossing capitals misspelled).identifierOperands := by
    simp [operands]
  have isStray : misspelled.IsStray := by decide
  have wellOtherwise :
      ∃ operation,
        compile .accepting (crossing capitals misspelled) = .ok operation :=
    ⟨_, by rfl⟩
  obtain ⟨operation, compiled⟩ := succeeds
  obtain ⟨accepted, isAccepted⟩ := wellOtherwise
  obtain ⟨sameCompiled, -⟩ := identifiers_reach_operations_encoded alike
  obtain ⟨-, -, refused, -⟩ :=
    identifiers_reach_operations_encoded
      (Eq.refl ((crossing capitals misspelled).respell _))
  obtain ⟨cause, failed, reported⟩ := refused misspelled member isStray
  obtain ⟨stray, -, -, isCause⟩ := reported accepted isAccepted
  refine ⟨alike, ⟨operation, compiled, sameCompiled ▸ compiled⟩, rfl, member,
    isStray, ⟨accepted, isAccepted⟩, stray.reportedText, ?_⟩
  exact failed.trans (congrArg Except.error isCause)

/-- An insert that carries a filter. -/
def filteredInsert : Query where
  kind := .insert
  schema := Paginator.personSchema
  filter := [("id", .equals misspelled)]
  values := some (.single [("name", .string "Ada")])

/-- An insert has no use for a filter, so what stands in it is not encoded. -/
theorem unused_filter_not_encoded :
    ("id", .equals misspelled) ∈ filteredInsert.filter ∧
      fieldKey filteredInsert.schema "id" = idKey ∧
      misspelled.IsStray ∧
      compile ObjectId.codec filteredInsert =
        .ok (.insert "person" [[("name", .string "Ada")]]) := by
  refine ⟨List.mem_singleton_self _, by decide, by decide, ?_⟩
  rfl

end DocumentCompiler

end PolyQuery
