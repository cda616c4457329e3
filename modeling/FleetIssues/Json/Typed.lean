import FleetIssues.Json.Parse
import FleetIssues.Schema.Shape
/-! Reading typed data from JSON text, by shape. -/

namespace FleetIssues.Json

open Schema

/-- What a number read from text is, when it is not what was expected. -/
def ReadNumber.unexpected : ReadNumber → Unexpected
  | .natural n => .unsigned n
  | .negative i => .signed i
  | .double f => .double (Decimal.Binary64.ofFloat f)

/-- Fails because the value at the cursor has the wrong kind: scalars are read first, so that
the error names them and stands after them. -/
def failWrongKind {α : Type} (expected : String) : Reader α := do
  match ← peekChar with
  | some 'n' => do bump; expectWord ['u', 'l', 'l']; failData (.invalidType .unit expected)
  | some 't' => do bump; expectWord ['r', 'u', 'e']; failData (.invalidType (.bool true) expected)
  | some 'f' => do
    bump; expectWord ['a', 'l', 's', 'e']; failData (.invalidType (.bool false) expected)
  | some '-' => do
    bump
    let n ← readNumber false
    failData (.invalidType n.unexpected expected)
  | some '"' => do
    let s ← readString
    failData (.invalidType (.str s) expected)
  | some '[' => failData (.invalidType .seq expected)
  | some '{' => failData (.invalidType .map expected)
  | some c =>
    if isDigitChar c then do
      let n ← readNumber true
      failData (.invalidType n.unexpected expected)
    else failAhead .expectedSomeValue
  | none => failAhead .expectedSomeValue

/-- The datum of an integer read for a shape that wants a signed or an unsigned 64-bit
integer. -/
def integerDatum (shape : Shape) (n : ReadNumber) : Except DataError Datum :=
  match shape, n with
  | .size, .natural k => .ok (.int k)
  | .size, .negative i => .error (.invalidValue (.signed i) shape.expecting)
  | _, .natural k =>
    if k ≤ 9223372036854775807 then .ok (.int k)
    else .error (.invalidValue (.unsigned k) shape.expecting)
  | _, .negative i => .ok (.int i)
  | _, .double f => .error (.invalidType (.double (Decimal.Binary64.ofFloat f)) shape.expecting)

/-- The words of an array-form record's length: `struct X with N elements`. -/
def recordLengthText (name : String) (count : Nat) : String :=
  "struct " ++ name ++ " with " ++ toString count ++ (if count == 1 then " element" else " elements")

/-- The fields of a record once all members were seen: each read value, or its fallback, or a
missing-field error for the first field that has neither. -/
def completeFields : List (String × Shape × Option Datum) → List (Option Datum) →
    Except DataError (List Datum)
  | [], _ => .ok []
  | (key, _, fallback) :: rest, slot :: slots => do
    let d ← match slot, fallback with
      | some d, _ => pure d
      | none, some f => pure f
      | none, none => throw (.missingField key)
    return d :: (← completeFields rest slots)
  | (key, _, fallback) :: rest, [] => do
    let d ← match fallback with
      | some f => pure f
      | none => throw (.missingField key)
    return d :: (← completeFields rest [])

/-- The position of a key among the fields of a record. -/
def fieldIndex (fields : List (String × Shape × Option Datum)) (key : String) : Option Nat :=
  fields.findIdx? (·.1 == key)

mutual

/-- Reads a value of a shape from text; `budget` bounds the depth of shapes and `depth` the
nesting of arrays and objects left. -/
def readShaped : Nat → Shape → Nat → Reader Datum
  | 0, _, _ => failAhead .recursionLimitExceeded
  | budget + 1, shape, depth => do
    match shape with
    | .int64 | .size =>
      match ← skipBlanks with
      | none => failAhead .eofWhileParsingValue
      | some c =>
        if c == '-' || isDigitChar c then do
          if c == '-' then bump
          let n ← readNumber (c != '-')
          match integerDatum shape n with
          | .ok d => return d
          | .error e => failData e
        else failWrongKind shape.expecting
    | .text =>
      match ← skipBlanks with
      | none => failAhead .eofWhileParsingValue
      | some '"' => Datum.text <$> readString
      | some _ => failWrongKind shape.expecting
    | .any => Datum.json <$> readValue depth
    | .optional inner =>
      match ← skipBlanks with
      | some 'n' => do bump; expectWord ['u', 'l', 'l']; return .absent
      | _ => Datum.present <$> readShaped budget inner depth
    | .list item =>
      match ← skipBlanks with
      | none => failAhead .eofWhileParsingValue
      | some '[' => do
        let inner ← enter depth
        let items ← readItems budget item inner (← fuelLeft) true []
        match ← closeArray with
        | .ok () => return .list items
        | .error e => throw e
      | some _ => failWrongKind shape.expecting
    | .unitEnum _ variants =>
      match ← skipBlanks with
      | some '"' => do
        let name ← readString
        match variants.findIdx? (· == name) with
        | some i => return .variant i
        | none => failData (.unknownVariant name variants)
      | some _ => failAhead .expectedSomeValue
      | none => failAhead .eofWhileParsingValue
    | .record name fields =>
      match ← skipBlanks with
      | none => failAhead .eofWhileParsingValue
      | some '[' => do
        let inner ← enter depth
        let outcome ← readFieldsInOrder budget name fields.length fields inner true []
        let closed ← closeArray
        match outcome, closed with
        | .error e, _ => failData e
        | .ok _, .error e => throw e
        | .ok ds, .ok () => return .record ds
      | some '{' => do
        let inner ← enter depth
        let outcome ← readMembersOf budget fields inner (← fuelLeft) true (fields.map (fun _ => none))
        let closed ← closeObject
        match outcome, closed with
        | .error e, _ => failData e
        | .ok _, .error e => throw e
        | .ok ds, .ok () => return .record ds
      | some _ => failWrongKind shape.expecting
termination_by budget _ _ => (budget, 0)

/-- Reads the elements of an array of one shape. -/
def readItems : Nat → Shape → Nat → Nat → Bool → List Datum → Reader (List Datum)
  | _, _, _, 0, _, acc => return acc.reverse
  | budget, item, depth, fuel + 1, first, acc => do
    if ← nextElement first then
      let d ← readShaped budget item depth
      readItems budget item depth fuel false (d :: acc)
    else return acc.reverse
termination_by budget _ _ fuel _ _ => (budget, fuel + 1)

/-- Reads the fields of an array-form record in order; a missing element takes the field's
fallback, or ends the record with a length error. -/
def readFieldsInOrder : Nat → String → Nat → List (String × Shape × Option Datum) → Nat → Bool →
    List Datum → Reader (Except DataError (List Datum))
  | _, _, _, [], _, _, acc => return .ok acc.reverse
  | budget, name, count, (_, shape, fallback) :: rest, depth, first, acc => do
    if ← nextElement first then
      let d ← readShaped budget shape depth
      readFieldsInOrder budget name count rest depth false (d :: acc)
    else
      match fallback with
      | some f => readFieldsInOrder budget name count rest depth first (f :: acc)
      | none => return .error (.invalidLength acc.length (recordLengthText name count))
termination_by budget _ _ fields _ _ _ => (budget, fields.length + 1)

/-- Reads the members of an object-form record: known keys fill their field once, unknown
keys are skipped. -/
def readMembersOf : Nat → List (String × Shape × Option Datum) → Nat → Nat → Bool →
    List (Option Datum) → Reader (Except DataError (List Datum))
  | _, fields, _, 0, _, slots => return completeFields fields slots
  | budget, fields, depth, fuel + 1, first, slots => do
    match ← nextKey first with
    | none => return completeFields fields slots
    | some key =>
      match fieldIndex fields key with
      | some i =>
        if (slots.getD i none).isSome then return .error (.duplicateField key)
        else do
          expectColon
          let shape := (fields.getD i ("", .any, none)).2.1
          let d ← readShaped budget shape depth
          readMembersOf budget fields depth fuel false (slots.set i (some d))
      | none => do
        expectColon
        skipValue
        readMembersOf budget fields depth fuel false slots
termination_by budget _ _ fuel _ _ => (budget, fuel + 1)

end

/-- Reads a whole text as a value of a shape. -/
def readTextAs (shape : Shape) (text : String) : Except ReadError Datum :=
  (do let d ← readShaped 64 shape nestingLimit; expectEnd; return d).run' (Cursor.start text)

end FleetIssues.Json
