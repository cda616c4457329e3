import FleetIssues.Decimal.Shortest
/-! Reading decimal text as a double, correctly rounded. -/

namespace FleetIssues.Decimal

/-- Whether a character is a decimal digit. -/
def isDecimalDigit (c : Char) : Bool := '0' ≤ c && c ≤ '9'

/-- The value of decimal digits. -/
def digitsValue (ds : List Char) : Nat := ds.foldl (fun n c => n * 10 + (c.toNat - '0'.toNat)) 0

/-- The digits at the front of a list, and what follows them. -/
def spanDigits (cs : List Char) : List Char × List Char := (cs.takeWhile isDecimalDigit, cs.dropWhile isDecimalDigit)

/-- The significand and the decimal exponent of unsigned decimal text. -/
def decimalParts (cs : List Char) : Option (Nat × Int) := do
  let (whole, afterWhole) := spanDigits cs
  let (fraction, afterFraction) := match afterWhole with
    | '.' :: r => spanDigits r
    | _ => ([], afterWhole)
  if whole.length + fraction.length == 0 then none
  let exponent ← match afterFraction with
    | [] => some (0 : Int)
    | c :: r =>
      if c == 'e' || c == 'E' then
        let (negative, r) := match r with
          | '-' :: r' => (true, r')
          | '+' :: r' => (false, r')
          | _ => (false, r)
        let (ds, tail) := spanDigits r
        if ds.isEmpty || !tail.isEmpty then none
        else some (if negative then -(digitsValue ds : Int) else digitsValue ds)
      else none
  return (digitsValue (whole ++ fraction), exponent - fraction.length)

/-- The double with a sign, a biased exponent field and a fraction field. -/
def Binary64.ofFields (negative : Bool) (exponentField fraction : Nat) : Binary64 :=
  ⟨((if negative then 1 else 0) * Nat.pow 2 63 + exponentField * Nat.pow 2 52 + fraction).toUInt64⟩

/-- The infinity of a sign. -/
def Binary64.infinity (negative : Bool) : Binary64 := Binary64.ofFields negative 0x7FF 0

/-- The quotient of `num · 2^-k` by `den`, rounded down. -/
def scaledQuotient (num den : Nat) (k : Int) : Nat :=
  if k ≥ 0 then num / (den * Nat.pow 2 k.toNat) else num * Nat.pow 2 (-k).toNat / den

/-- The binary exponent `k` that puts `num / den / 2^k` in `[2^52, 2^53)`, from an estimate
that is off by at most two. -/
def settleExponent (num den : Nat) : Nat → Int → Int
  | 0, k => k
  | fuel + 1, k =>
    let q := scaledQuotient num den k
    if q ≥ Nat.pow 2 53 then settleExponent num den fuel (k + 1)
    else if q < Nat.pow 2 52 then settleExponent num den fuel (k - 1)
    else k

/-- The double nearest to `m · 10^e`, with a sign. -/
def Binary64.ofDecimal (negative : Bool) (m : Nat) (e : Int) : Binary64 :=
  let digits := (toString m).length
  if m == 0 then Binary64.ofFields negative 0 0
  else if (digits : Int) + e > 310 then Binary64.infinity negative
  else if (digits : Int) + e < -330 then Binary64.ofFields negative 0 0
  else
    let num := m * Nat.pow 10 (max e 0).toNat
    let den := Nat.pow 10 (max (-e) 0).toNat
    let estimate : Int := (num.log2 : Int) - den.log2 - 52
    let k := max (settleExponent num den 4 estimate) (-1074)
    let bigNum := num * Nat.pow 2 (max (-k) 0).toNat
    let bigDen := den * Nat.pow 2 (max k 0).toNat
    let q := bigNum / bigDen
    let r := bigNum % bigDen
    let q := if 2 * r > bigDen || (2 * r == bigDen && q % 2 == 1) then q + 1 else q
    let (q, k) := if q == Nat.pow 2 53 then (Nat.pow 2 52, k + 1) else (q, k)
    if q ≥ Nat.pow 2 52 then
      let field := k + 1075
      if field ≥ 0x7FF then Binary64.infinity negative
      else Binary64.ofFields negative field.toNat (q - Nat.pow 2 52)
    else Binary64.ofFields negative 0 q

/-- Whether a text is a word, ignoring ASCII case. -/
def sameWordIgnoringCase (cs : List Char) (word : String) : Bool :=
  cs.map Char.toLower == word.toList

/-- Reads decimal text as a double, correctly rounded; none when it is not a number. -/
def parseDouble (text : String) : Option Binary64 :=
  let cs := text.toList
  let (negative, body) := match cs with
    | '-' :: r => (true, r)
    | '+' :: r => (false, r)
    | _ => (false, cs)
  if body.isEmpty then none
  else match decimalParts body with
    | some (m, e) => some (Binary64.ofDecimal negative m e)
    | none =>
      if sameWordIgnoringCase body "inf" || sameWordIgnoringCase body "infinity" then
        some (Binary64.infinity negative)
      else if sameWordIgnoringCase body "nan" then some (Binary64.ofFields negative 0x7FF (Nat.pow 2 51))
      else none

end FleetIssues.Decimal
