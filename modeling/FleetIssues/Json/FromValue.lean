import FleetIssues.Json.Typed
/-! Reading typed data from a JSON value, by shape. -/

namespace FleetIssues.Json

open Schema

/-- What a value is, when it is not what was expected. -/
def Value.unexpected : Value → Unexpected
  | .null => .unit
  | .bool b => .bool b
  | .number (.natural n) => .unsigned n
  | .number (.negative i) => .signed i
  | .number (.double x) => .double x
  | .string s => .str s
  | .array _ => .seq
  | .object _ => .map

/-- The datum of a number for a shape that wants an integer. -/
def numberDatum (shape : Shape) : Number → Except DataError Datum
  | .natural n => integerDatum shape (.natural n)
  | .negative i => integerDatum shape (.negative i)
  | .double x => .error (.invalidType (.double x) shape.expecting)

/-- The index of an enumeration name. -/
def variantIndex (variants : List String) (name : String) : Except DataError Nat :=
  match variants.findIdx? (· == name) with
  | some i => .ok i
  | none => .error (.unknownVariant name variants)

mutual

/-- Reads a value as a value of a shape; `budget` bounds the depth of shapes. -/
def ofValueAs : Nat → Shape → Value → Except DataError Datum
  | 0, _, _ => .error (.invalidLength 0 "a shallower shape")
  | budget + 1, shape, v =>
    match shape, v with
    | .int64, .number n => numberDatum .int64 n
    | .size, .number n => numberDatum .size n
    | .text, .string s => .ok (.text s)
    | .any, v => .ok (.json v)
    | .optional _, .null => .ok .absent
    | .optional inner, v => Datum.present <$> ofValueAs budget inner v
    | .list item, .array items => Datum.list <$> itemsAs budget item items
    | .unitEnum _ variants, .string name => Datum.variant <$> variantIndex variants name
    | .unitEnum _ variants, .object [(name, value)] => do
      let i ← variantIndex variants name
      match value with
      | .null => return .variant i
      | other => throw (.invalidType other.unexpected "unit")
    | .unitEnum _ _, .object _ => .error (.invalidValue .map "map with a single key")
    | .unitEnum _ _, other => .error (.invalidType other.unexpected "string or map")
    | .record name fields, .array items => do
      let ds ← fieldsInOrderAs budget name fields.length fields items []
      if ds.2.isEmpty then return .record ds.1
      else throw (.invalidLength items.length "fewer elements in array")
    | .record _ fields, .object members =>
      Datum.record <$> membersAs budget fields members (fields.map (fun _ => none))
    | shape, other => .error (.invalidType other.unexpected shape.expecting)
termination_by budget _ _ => (budget, 0)

/-- Reads the elements of an array as values of one shape. -/
def itemsAs : Nat → Shape → List Value → Except DataError (List Datum)
  | _, _, [] => .ok []
  | budget, item, v :: rest => do
    let d ← ofValueAs budget item v
    return d :: (← itemsAs budget item rest)
termination_by budget _ items => (budget, items.length + 1)

/-- Reads the fields of a record from array elements in order; answers the fields and the
elements left over. -/
def fieldsInOrderAs : Nat → String → Nat → List (String × Shape × Option Datum) → List Value →
    List Datum → Except DataError (List Datum × List Value)
  | _, _, _, [], items, acc => .ok (acc.reverse, items)
  | budget, name, count, (_, shape, fallback) :: rest, items, acc =>
    match items with
    | v :: more => do
      let d ← ofValueAs budget shape v
      fieldsInOrderAs budget name count rest more (d :: acc)
    | [] =>
      match fallback with
      | some f => fieldsInOrderAs budget name count rest [] (f :: acc)
      | none => .error (.invalidLength acc.length (recordLengthText name count))
termination_by budget _ _ fields _ _ => (budget, fields.length + 1)

/-- Reads the fields of a record from object members in key order. -/
def membersAs : Nat → List (String × Shape × Option Datum) → List (String × Value) →
    List (Option Datum) → Except DataError (List Datum)
  | _, fields, [], slots => completeFields fields slots
  | budget, fields, (key, v) :: rest, slots =>
    match fieldIndex fields key with
    | some i =>
      if (slots.getD i none).isSome then .error (.duplicateField key)
      else do
        let shape := (fields.getD i ("", .any, none)).2.1
        let d ← ofValueAs budget shape v
        membersAs budget fields rest (slots.set i (some d))
    | none => membersAs budget fields rest slots
termination_by budget _ members _ => (budget, members.length + 1)

end

/-- Reads a value as a value of a shape. -/
def Value.readAs (shape : Shape) (v : Value) : Except DataError Datum :=
  ofValueAs 64 shape v

end FleetIssues.Json
