import FleetIssues.Decimal.Shortest
/-! JSON values and the text written for them. -/

namespace FleetIssues.Json

open Decimal

/-- A JSON number as classified on reading. -/
inductive Number where
  | natural (n : Nat)
  | negative (i : Int)
  | double (x : Binary64)
  deriving DecidableEq, Repr, Inhabited

/-- A JSON value. -/
inductive Value where
  | null
  | bool (b : Bool)
  | number (n : Number)
  | string (s : String)
  | array (items : List Value)
  | object (members : List (String × Value))
  deriving Repr, Inhabited

namespace Value

/-- The number value of an integer: natural when not negative. -/
def ofInt (i : Int) : Value :=
  if 0 ≤ i then .number (.natural i.toNat) else .number (.negative i)

/-- An optional integer, `null` when absent. -/
def ofIntOption : Option Int → Value
  | some i => ofInt i
  | none => .null

/-- Inserts a member into a key-sorted member list, replacing a member of the same key. -/
def insertSorted (key : String) (v : Value) : List (String × Value) → List (String × Value)
  | [] => [(key, v)]
  | (k, w) :: rest =>
    if key == k then (key, v) :: rest
    else if key < k then (key, v) :: (k, w) :: rest
    else (k, w) :: insertSorted key v rest

/-- The sorted object of members given in any order; a later member replaces an earlier one of
the same key. -/
def sortedObject (members : List (String × Value)) : Value :=
  .object (members.foldl (fun acc m => insertSorted m.1 m.2 acc) [])

/-- Whether a value is `null`. -/
def isNull : Value → Bool
  | .null => true
  | _ => false

end Value

end FleetIssues.Json

namespace FleetIssues.Json

open Decimal

/-- The lower-case hex digit of a number below sixteen. -/
def hexDigit (n : Nat) : Char :=
  if n < 10 then Char.ofNat ('0'.toNat + n) else Char.ofNat ('a'.toNat + n - 10)

/-- The escaped form of one character inside a quoted string. -/
def escapeChar (c : Char) : List Char :=
  if c == '"' then ['\\', '"']
  else if c == '\\' then ['\\', '\\']
  else if c.toNat < 0x20 then
    match c.toNat with
    | 0x08 => ['\\', 'b']
    | 0x09 => ['\\', 't']
    | 0x0A => ['\\', 'n']
    | 0x0C => ['\\', 'f']
    | 0x0D => ['\\', 'r']
    | n => ['\\', 'u', '0', '0', hexDigit (n / 16), hexDigit (n % 16)]
  else [c]

/-- A string as quoted JSON text. -/
def quote (s : String) : String :=
  String.ofList ('"' :: (s.toList.flatMap escapeChar ++ ['"']))

/-- The text of a number. -/
def Number.text : Number → String
  | .natural n => toString n
  | .negative i => toString i
  | .double x => if x.isFinite then dataText x else "null"

mutual
/-- Compact JSON text of a value. -/
def Value.compact : Value → String
  | .null => "null"
  | .bool b => if b then "true" else "false"
  | .number n => n.text
  | .string s => quote s
  | .array items => "[" ++ compactItems items ++ "]"
  | .object members => "\x7b" ++ compactMembers members ++ "\x7d"

/-- Compact text of array elements, comma-separated. -/
def compactItems : List Value → String
  | [] => ""
  | [v] => v.compact
  | v :: rest => v.compact ++ "," ++ compactItems rest

/-- Compact text of object members, comma-separated. -/
def compactMembers : List (String × Value) → String
  | [] => ""
  | [(k, v)] => quote k ++ ":" ++ v.compact
  | (k, v) :: rest => quote k ++ ":" ++ v.compact ++ "," ++ compactMembers rest
end

/-- Two spaces per level of nesting. -/
def indentText (level : Nat) : String := String.ofList (List.replicate (2 * level) ' ')

mutual
/-- Pretty JSON text of a value nested at a level. -/
def Value.prettyAt (level : Nat) : Value → String
  | .array [] => "[]"
  | .object [] => "\x7b\x7d"
  | .array items => "[\n" ++ prettyItems (level + 1) items ++ "\n" ++ indentText level ++ "]"
  | .object members =>
    "\x7b\n" ++ prettyMembers (level + 1) members ++ "\n" ++ indentText level ++ "\x7d"
  | v => v.compact

/-- Pretty text of array elements, one per line. -/
def prettyItems (level : Nat) : List Value → String
  | [] => ""
  | [v] => indentText level ++ v.prettyAt level
  | v :: rest => indentText level ++ v.prettyAt level ++ ",\n" ++ prettyItems level rest

/-- Pretty text of object members, one per line. -/
def prettyMembers (level : Nat) : List (String × Value) → String
  | [] => ""
  | [(k, v)] => indentText level ++ quote k ++ ": " ++ v.prettyAt level
  | (k, v) :: rest =>
    indentText level ++ quote k ++ ": " ++ v.prettyAt level ++ ",\n" ++ prettyMembers level rest
end

/-- Pretty JSON text of a value. -/
def Value.pretty (v : Value) : String := v.prettyAt 0

end FleetIssues.Json
