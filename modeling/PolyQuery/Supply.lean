import PolyQuery.Document.ObjectId
import PolyQuery.Schema.Basic

namespace PolyQuery

/-!
# Generated values

Values that a write generates: identifiers, times and the numbers of named
sequences. A supply says what will be generated next; drawing from it answers a
value and the supply that is left. No identifier and no time is drawn twice.
-/

/-- What will be generated next. -/
structure Supply where
  /-- The number of the next document identifier. -/
  objectIds : Nat
  /-- The number of the next random identifier. -/
  uuids : Nat
  /-- Microseconds since the beginning of 1970. -/
  microseconds : Nat
  /-- The next number of every named sequence. -/
  sequences : Entries Int

/--
Days since the beginning of 1970 as year, month and day of
the Gregorian calendar.
-/
def civilDate
    (days : Nat) :
    Nat × Nat × Nat :=
  -- Count from the first of March of the year zero, in eras of 400 years.
  let shifted := days + 719468
  let era := shifted / 146097
  let dayOfEra := shifted % 146097
  let yearOfEra :=
    (dayOfEra - dayOfEra / 1460 + dayOfEra / 36524 - dayOfEra / 146096) / 365
  let dayOfYear :=
    dayOfEra - (365 * yearOfEra + yearOfEra / 4 - yearOfEra / 100)
  let monthFromMarch := (5 * dayOfYear + 2) / 153
  let day := dayOfYear - (153 * monthFromMarch + 2) / 5 + 1
  let month :=
    if monthFromMarch < 10 then monthFromMarch + 3 else monthFromMarch - 9
  let year := yearOfEra + 400 * era + (if month ≤ 2 then 1 else 0)
  (year, month, day)

/-- A number with at least `width` digits. -/
def padded
    (width : Nat)
    (value : Nat) :
    String :=
  let digits := (toString value).toList
  String.ofList (List.replicate (width - digits.length) '0' ++ digits)

/-- A time as `YYYY-MM-DD HH:MM:SS.ffffff`. -/
def timeText
    (microseconds : Nat) :
    String :=
  let seconds := microseconds / 1000000
  let (year, month, day) := civilDate (seconds / 86400)
  padded 4 year ++ "-" ++ padded 2 month ++ "-" ++ padded 2 day ++ " " ++
    padded 2 (seconds / 3600 % 24) ++ ":" ++ padded 2 (seconds / 60 % 60) ++
    ":" ++ padded 2 (seconds % 60) ++ "." ++ padded 6 (microseconds % 1000000)

/-- The version 4 identifier that a number stands for. -/
def uuidText
    (value : Nat) :
    String :=
  let digits := HexDigit.ofNat 30 value
  let part := fun (first : Nat) (count : Nat) =>
    HexDigit.render ((digits.drop first).take count)
  part 0 8 ++ "-" ++ part 8 4 ++ "-4" ++ part 12 3 ++ "-8" ++ part 15 3 ++
    "-" ++ part 18 12

namespace Supply

/-- Draw a document identifier. -/
def objectId : StateM Supply ObjectId := do
  let supply ← get
  set { supply with objectIds := supply.objectIds + 1 }
  return ObjectId.ofNat supply.objectIds

/-- Draw a random identifier. -/
def uuid : StateM Supply String := do
  let supply ← get
  set { supply with uuids := supply.uuids + 1 }
  return uuidText supply.uuids

/-- Draw the present time. -/
def now : StateM Supply String := do
  let supply ← get
  set { supply with microseconds := supply.microseconds + 1 }
  return timeText supply.microseconds

/--
Draw the next number of a sequence, which starts at zero if
nothing else is said.
-/
def number
    (name : String) :
    StateM Supply Int := do
  let supply ← get
  let next := (supply.sequences.get? name).getD 0
  set { supply with sequences := supply.sequences.insert name (next + 1) }
  return next

/-- The value of a provider. -/
def evaluate : Provider → StateM Supply Json
  | .literal value => return value
  | .now => return .string (← now)
  | .objectId => return .string (← objectId).hex
  | .uuid => return .string (← uuid)
  | .sequence name => return .ofInt (← number name)

end Supply

end PolyQuery
