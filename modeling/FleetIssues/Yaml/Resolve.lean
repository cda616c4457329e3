import FleetIssues.Decimal.Parse
import FleetIssues.Schema.Shape
import FleetIssues.Json.Value
import FleetIssues.Yaml.Token
/-! What a YAML scalar stands for. -/

namespace FleetIssues.Yaml

open Decimal Schema

/-- The full name of a core tag. -/
def coreTag (name : String) : String := "tag:yaml.org,2002:" ++ name

/-- Whether a scalar is one of the spellings of null. -/
def isNullWord (v : String) : Bool := v == "~" || v == "null" || v == "Null" || v == "NULL"

/-- The boolean a scalar spells. -/
def boolWord (v : String) : Option Bool :=
  if v == "true" || v == "True" || v == "TRUE" then some true
  else if v == "false" || v == "False" || v == "FALSE" then some false
  else none

/-- The value of a digit in a radix up to 36. -/
def radixDigit (radix : Nat) (c : Char) : Option Nat :=
  let v :=
    if '0' ≤ c && c ≤ '9' then c.toNat - '0'.toNat
    else if 'a' ≤ c && c ≤ 'z' then c.toNat - 'a'.toNat + 10
    else if 'A' ≤ c && c ≤ 'Z' then c.toNat - 'A'.toNat + 10
    else 36
  if v < radix then some v else none

/-- The value of digits in a radix. -/
def radixValue (radix : Nat) : List Char → Option Nat
  | [] => some 0
  | c :: rest => do
    let d ← radixDigit radix c
    let v ← radixValue radix rest
    return d * Nat.pow radix rest.length + v

/-- Reads an integer in a radix for an integer type with bounds `lo` and `hi`: one leading `+`,
or `-` when the type is signed, then at least one digit, the value within the bounds. -/
def parseRadix (text : String) (radix : Nat) (lo hi : Int) : Option Int := do
  let cs := text.toList
  let signed := lo < 0
  let (negative, digits) ← match cs with
    | [] => none
    | ['+'] | ['-'] => none
    | '+' :: r => some (false, r)
    | '-' :: r => if signed then some (true, r) else some (false, cs)
    | _ => some (false, cs)
  let v ← radixValue radix digits
  let value : Int := if negative then -(v : Int) else v
  if lo ≤ value && value ≤ hi then some value else none

/-- Bounds of the integer types a scalar may be read as. -/
def u64Max : Int := 18446744073709551615
def i64Min : Int := -9223372036854775808
def i64Max : Int := 9223372036854775807
def u128Max : Int := 340282366920938463463374607431768211455
def i128Min : Int := -170141183460469231731687303715884105728
def i128Max : Int := 170141183460469231731687303715884105727

/-- Whether a scalar is a number with a leading zero, which YAML keeps as text. -/
def digitsButNotNumber (v : String) : Bool :=
  let cs := match v.toList with
    | '-' :: r | '+' :: r => r
    | cs => cs
  cs.length > 1 && cs.head? == some '0' && cs.tail.all Decimal.isDecimalDigit

/-- Whether a text starts with a sign. -/
def startsWithSign (v : String) : Bool := v.startsWith "+" || v.startsWith "-"

/-- Reads an unsigned integer: one optional `+`, then `0x`, `0o` or `0b` digits, or decimal
digits without a leading zero. -/
def parseUnsignedInt (v : String) (hi : Int) : Option Int :=
  let unpositive := if v.startsWith "+" then v.drop 1 else v.toSlice
  let radixCase (pfx : String) (radix : Nat) : Option (Option Int) :=
    if unpositive.startsWith pfx then
      let rest := (unpositive.drop pfx.length).toString
      if startsWithSign rest then some none
      else (parseRadix rest radix 0 hi).map some
    else none
  match radixCase "0x" 16 with
  | some r => r
  | none => match radixCase "0o" 8 with
    | some r => r
    | none => match radixCase "0b" 2 with
      | some r => r
      | none =>
        if startsWithSign unpositive.toString || digitsButNotNumber v then none
        else parseRadix unpositive.toString 10 0 hi

/-- Reads a signed integer: like an unsigned one, and also `-0x`, `-0o` and `-0b` forms and a
leading `-`. -/
def parseSignedInt (v : String) (lo hi : Int) : Option Int := do
  let unpositive ← if v.startsWith "+" then
      let r := (v.drop 1).toString
      if startsWithSign r then none else some r
    else some v
  let positive (pfx : String) (radix : Nat) : Option (Option Int) :=
    if unpositive.startsWith pfx then
      let rest := (unpositive.drop pfx.length).toString
      if startsWithSign rest then some none
      else (parseRadix rest radix lo hi).map some
    else none
  let negative (pfx : String) (radix : Nat) : Option Int :=
    if v.startsWith ("-" ++ pfx) then parseRadix ("-" ++ (v.drop (pfx.length + 1)).toString) radix lo hi
    else none
  match positive "0x" 16 with
  | some r => r
  | none =>
  match negative "0x" 16 with
  | some r => some r
  | none =>
  match positive "0o" 8 with
  | some r => r
  | none =>
  match negative "0o" 8 with
  | some r => some r
  | none =>
  match positive "0b" 2 with
  | some r => r
  | none =>
  match negative "0b" 2 with
  | some r => some r
  | none => if digitsButNotNumber v then none else parseRadix unpositive 10 lo hi

/-- Reads a negative integer: `-0x`, `-0o` and `-0b` forms, or decimal. -/
def parseNegativeInt (v : String) (lo hi : Int) : Option Int :=
  let negative (pfx : String) (radix : Nat) : Option Int :=
    if v.startsWith ("-" ++ pfx) then parseRadix ("-" ++ (v.drop (pfx.length + 1)).toString) radix lo hi
    else none
  match negative "0x" 16 with
  | some r => some r
  | none => match negative "0o" 8 with
    | some r => some r
    | none => match negative "0b" 2 with
      | some r => some r
      | none => if digitsButNotNumber v then none else parseRadix v 10 lo hi

/-- Reads a finite float, or one of the `.inf` and `.nan` spellings. -/
def parseFloat (v : String) : Option Binary64 := do
  let unpositive ← if v.startsWith "+" then
      let r := (v.drop 1).toString
      if startsWithSign r then none else some r
    else some v
  if unpositive == ".inf" || unpositive == ".Inf" || unpositive == ".INF" then
    return Binary64.infinity false
  if v == "-.inf" || v == "-.Inf" || v == "-.INF" then return Binary64.infinity true
  if v == ".nan" || v == ".NaN" || v == ".NAN" then return Binary64.ofFields false 0x7FF (Nat.pow 2 51)
  let x ← parseDouble unpositive
  if x.isFinite then some x else none

/-- What an integer scalar is found to be: an unsigned or signed 64-bit integer, or a wider one
named as such. -/
def integerFound (v : String) : Option Unexpected :=
  match parseUnsignedInt v u64Max with
  | some n => some (.unsigned n.toNat)
  | none => match parseNegativeInt v i64Min i64Max with
    | some i => some (.signed i)
    | none => match parseUnsignedInt v u128Max with
      | some n => some (.other ("integer `" ++ toString n ++ "` as u128"))
      | none => match parseNegativeInt v i128Min i128Max with
        | some i => some (.other ("integer `" ++ toString i ++ "` as i128"))
        | none => none

/-- What an untagged plain scalar resolves to, described as a found value. -/
def untaggedFound (v : String) : Unexpected :=
  if v.isEmpty || isNullWord v then .unit
  else match boolWord v with
    | some b => .bool b
    | none => match integerFound v with
      | some u => u
      | none =>
        match (if digitsButNotNumber v then none else parseFloat v) with
        | some x => .double x
        | none => .str v

/-- What a scalar is found to be where something else was expected, or the error a forcing tag
gives when its text does not fit. -/
def scalarFound (tag : Option String) (value : String) (style : ScalarStyle) : Except DataError Unexpected :=
  match tag with
  | some t =>
    if t == coreTag "bool" then
      match boolWord value with
      | some b => .ok (.bool b)
      | none => .error (.invalidValue (.str value) "a boolean")
    else if t == coreTag "int" then
      match integerFound value with
      | some u => .ok u
      | none => .error (.invalidValue (.str value) "an integer")
    else if t == coreTag "float" then
      match parseFloat value with
      | some x => .ok (.double x)
      | none => .error (.invalidValue (.str value) "a float")
    else if t == coreTag "null" then
      if isNullWord value then .ok .unit else .error (.invalidValue (.str value) "null")
    else if t.startsWith "!" && style == .plain then .ok (untaggedFound value)
    else .ok (.str value)
  | none => if style == .plain then .ok (untaggedFound value) else .ok (.str value)

end FleetIssues.Yaml
