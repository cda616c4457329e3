import FleetIssues.Decimal.Shortest
import FleetIssues.Text.Basic
import FleetIssues.Json.Value
/-! Shapes of typed data, the data read by them, and the errors of data of another shape. -/

namespace FleetIssues.Schema

open Decimal Text

/-- What a reader found where it expected something else. -/
inductive Unexpected where
  | bool (b : Bool)
  | unsigned (n : Nat)
  | signed (i : Int)
  | double (x : Binary64)
  | str (s : String)
  | unit
  | seq
  | map
  | other (words : String)
  deriving DecidableEq, Repr

/-- How found values are described. -/
inductive Style where
  | json
  | plain
  deriving DecidableEq, Repr

/-- The words that describe a found value. -/
def Unexpected.describe (style : Style) : Unexpected → String
  | .bool b => "boolean `" ++ (if b then "true" else "false") ++ "`"
  | .unsigned n => "integer `" ++ toString n ++ "`"
  | .signed i => "integer `" ++ toString i ++ "`"
  | .double x =>
    "floating point `" ++ (match style with | .json => dataText x | .plain => plainText x) ++ "`"
  | .str s => "string " ++ quoted s
  | .unit => match style with | .json => "null" | .plain => "unit value"
  | .seq => "sequence"
  | .map => "map"
  | .other words => words

/-- Why a well-formed document does not have the expected shape. -/
inductive DataError where
  | invalidType (found : Unexpected) (expected : String)
  | invalidValue (found : Unexpected) (expected : String)
  | invalidLength (length : Nat) (expected : String)
  | missingField (field : String)
  | duplicateField (field : String)
  | unknownVariant (variant : String) (expected : List String)
  deriving DecidableEq, Repr

/-- The names of the variants an enumeration accepts, each in backticks. -/
def oneOf : List String → String
  | [] => "there are no variants"
  | [a] => "expected `" ++ a ++ "`"
  | [a, b] => "expected `" ++ a ++ "` or `" ++ b ++ "`"
  | names => "expected one of " ++ ", ".intercalate (names.map (fun n => "`" ++ n ++ "`"))

/-- The sentence of a data error in a describing style. -/
def DataError.message (style : Style) : DataError → String
  | .invalidType found expected =>
    "invalid type: " ++ found.describe style ++ ", expected " ++ expected
  | .invalidValue found expected =>
    "invalid value: " ++ found.describe style ++ ", expected " ++ expected
  | .invalidLength length expected => "invalid length " ++ toString length ++ ", expected " ++ expected
  | .missingField field => "missing field `" ++ field ++ "`"
  | .duplicateField field => "duplicate field `" ++ field ++ "`"
  | .unknownVariant variant expected => "unknown variant `" ++ variant ++ "`, " ++ oneOf expected

end FleetIssues.Schema

namespace FleetIssues.Schema

open Json

/-- Data read by a shape. -/
inductive Datum where
  | int (i : Int)
  | text (s : String)
  | json (v : Value)
  | absent
  | present (d : Datum)
  | list (items : List Datum)
  | variant (index : Nat)
  | record (fields : List Datum)
  deriving Repr, Inhabited

namespace Datum

/-- The field of a record at a position; nothing for anything else. -/
def field (i : Nat) : Datum → Datum
  | .record fields => fields.getD i .absent
  | _ => .absent

/-- The integer of a datum; zero for anything else. -/
def asInt : Datum → Int
  | .int i => i
  | _ => 0

/-- The text of a datum; empty for anything else. -/
def asText : Datum → String
  | .text s => s
  | _ => ""

/-- The JSON value of a datum; `null` for anything else. -/
def asJson : Datum → Value
  | .json v => v
  | _ => .null

/-- The inner datum of a present optional datum. -/
def asOption : Datum → Option Datum
  | .present d => some d
  | _ => none

/-- The items of a list datum; none for anything else. -/
def asList : Datum → List Datum
  | .list items => items
  | _ => []

/-- The position of an enumeration name; zero for anything else. -/
def asVariant : Datum → Nat
  | .variant i => i
  | _ => 0

end Datum

/-- What a reader expects at a place of a document. -/
inductive Shape where
  | int64
  | size
  | text
  | any
  | optional (inner : Shape)
  | list (item : Shape)
  | unitEnum (name : String) (variants : List String)
  | record (name : String) (fields : List (String × Shape × Option Datum))
  deriving Repr, Inhabited

namespace Shape

/-- The words that name what a shape expects, as error messages give them. -/
def expecting : Shape → String
  | .int64 => "i64"
  | .size => "usize"
  | .text => "a string"
  | .any => "any valid JSON value"
  | .optional _ => "option"
  | .list _ => "a sequence"
  | .unitEnum name _ => "enum " ++ name
  | .record name _ => "struct " ++ name

/-- A field that is always present. -/
def required (key : String) (shape : Shape) : String × Shape × Option Datum := (key, shape, none)

/-- A field with a fallback. -/
def withFallback (key : String) (shape : Shape) (fallback : Datum) :
    String × Shape × Option Datum :=
  (key, shape, some fallback)

/-- An optional field, absent when missing. -/
def optionalField (key : String) (inner : Shape) : String × Shape × Option Datum :=
  (key, .optional inner, some .absent)

end Shape

end FleetIssues.Schema
