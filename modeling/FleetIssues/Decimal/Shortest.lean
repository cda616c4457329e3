/-! Binary64 numbers, their shortest decimal form, and the layouts it is written in. -/

namespace FleetIssues

/-- A decimal `digits · 10^exponent`. -/
structure Decimal where
  digits : Nat
  exponent : Int
  deriving DecidableEq, Repr, Inhabited

end FleetIssues

namespace FleetIssues.Decimal

/-- A double given by its 64 bits. -/
structure Binary64 where
  bits : UInt64
  deriving DecidableEq, Repr, Inhabited

namespace Binary64

/-- The bits of a double. -/
def ofFloat (f : Float) : Binary64 := ⟨f.toBits⟩

/-- The double of some bits. -/
def toFloat (x : Binary64) : Float := Float.ofBits x.bits

/-- Whether the sign bit is set. -/
def negative (x : Binary64) : Bool := x.bits >>> 63 == 1

/-- The biased exponent field. -/
def exponentField (x : Binary64) : Nat := ((x.bits >>> 52) &&& 0x7FF).toNat

/-- The fraction field. -/
def fractionField (x : Binary64) : Nat := (x.bits &&& 0xFFFFFFFFFFFFF).toNat

/-- Whether the double is a finite number. -/
def isFinite (x : Binary64) : Bool := x.exponentField != 0x7FF

/-- Whether the double is not a number. -/
def isNaN (x : Binary64) : Bool := x.exponentField == 0x7FF && x.fractionField != 0

/-- Whether the double is zero of either sign. -/
def isZero (x : Binary64) : Bool := x.exponentField == 0 && x.fractionField == 0

/-- The significand `m` of a finite double `m · 2^e`. -/
def significand (x : Binary64) : Nat :=
  if x.exponentField == 0 then x.fractionField else x.fractionField + Nat.pow 2 52

/-- The binary exponent `e` of a finite double `m · 2^e`. -/
def binaryExponent (x : Binary64) : Int :=
  (if x.exponentField == 0 then (1 : Int) else x.exponentField) - 1075

end Binary64

/-- The rational `num / den` of two naturals with a positive denominator, compared by cross
products. -/
structure Ratio where
  num : Nat
  den : Nat
  deriving DecidableEq, Repr

/-- `a · 2^e` as a ratio of naturals. -/
def Ratio.ofBinary (a : Nat) (e : Int) : Ratio :=
  if 0 ≤ e then ⟨a * Nat.pow 2 e.toNat, 1⟩ else ⟨a, Nat.pow 2 (-e).toNat⟩

/-- `c · 10^g` as a ratio of naturals. -/
def Ratio.ofDecimal (c : Nat) (g : Int) : Ratio :=
  if 0 ≤ g then ⟨c * Nat.pow 10 g.toNat, 1⟩ else ⟨c, Nat.pow 10 (-g).toNat⟩

/-- Strict order of ratios. -/
def Ratio.lt (a b : Ratio) : Bool := a.num * b.den < b.num * a.den

/-- Order of ratios. -/
def Ratio.le (a b : Ratio) : Bool := a.num * b.den ≤ b.num * a.den

/-- The interval of reals that round to a finite nonzero double: its ends and whether they
belong to it. -/
structure RoundingInterval where
  low : Ratio
  high : Ratio
  closed : Bool

/-- The rounding interval of a finite double: half a unit to each side, except that below a
power of two the lower gap is half as wide. -/
def roundingInterval (x : Binary64) : RoundingInterval :=
  let m := x.significand
  let e := x.binaryExponent
  let lowerNum := if x.fractionField == 0 && x.exponentField > 1 then 4 * m - 1 else 4 * m - 2
  { low := Ratio.ofBinary lowerNum (e - 2)
    high := Ratio.ofBinary (4 * m + 2) (e - 2)
    closed := m % 2 == 0 }

/-- Whether a decimal lies in a rounding interval. -/
def RoundingInterval.contains (i : RoundingInterval) (d : Ratio) : Bool :=
  if i.closed then i.low.le d && d.le i.high else i.low.lt d && d.lt i.high

/-- The decimal exponent `k` of a positive ratio: `10^k ≤ v < 10^(k+1)`, searched from an
estimate in a bounded number of steps. -/
def decimalExponent (v : Ratio) (estimate : Int) : Int :=
  let below (k : Int) : Bool := (Ratio.ofDecimal 1 k).le v
  let rec up : Nat → Int → Int
    | 0, k => k
    | fuel + 1, k => if below (k + 1) then up fuel (k + 1) else k
  let rec down : Nat → Int → Int
    | 0, k => k
    | fuel + 1, k => if below k then k else down fuel (k - 1)
  up 4 (down 4 estimate)

/-- Chooses among the two neighbours `c` and `c + 1` of the value on the grid `10^g`, where
`rest / den` is how far the value lies past `c`: the one inside the interval, and of two the
nearer, a tie going to the even one. -/
def pickNeighbour (inside : Nat → Bool) (c rest den : Nat) : Option Nat :=
  let lowIn := inside c
  let highIn := rest != 0 && inside (c + 1)
  if lowIn && highIn then
    if 2 * rest < den then some c
    else if 2 * rest > den then some (c + 1)
    else if c % 2 == 0 then some c else some (c + 1)
  else if lowIn then some c
  else if highIn then some (c + 1)
  else none

/-- Removes trailing zero digits of a decimal. -/
def normalize (d : Decimal) : Decimal :=
  let rec strip : Nat → Nat → Int → Decimal
    | 0, digits, exponent => ⟨digits, exponent⟩
    | fuel + 1, digits, exponent =>
      if digits != 0 && digits % 10 == 0 then strip fuel (digits / 10) (exponent + 1)
      else ⟨digits, exponent⟩
  strip 20 d.digits d.exponent

/-- The shortest decimal of a finite nonzero double's magnitude. -/
def shortestOfPositive (x : Binary64) : Decimal :=
  let m := x.significand
  let e := x.binaryExponent
  let v := Ratio.ofBinary m e
  let interval := roundingInterval x
  let estimate : Int := ((Nat.log2 m : Int) + e) * 30103 / 100000
  let k := decimalExponent v estimate
  let rec search : Nat → Nat → Decimal
    | 0, _ => ⟨m, e⟩
    | fuel + 1, n =>
      let g : Int := k - n + 1
      let grid := Ratio.ofDecimal 1 g
      -- the value divided by the grid step, as a quotient and a remainder
      let num := v.num * grid.den
      let den := v.den * grid.num
      let c := num / den
      let inside (candidate : Nat) : Bool :=
        interval.contains ⟨candidate * grid.num, grid.den⟩
      match pickNeighbour inside c (num % den) den with
      | some digits => Decimal.normalize ⟨digits, g⟩
      | none => search fuel (n + 1)
  search 17 1

/-- The shortest decimal of a finite double's magnitude; zero for zero. -/
def shortest (x : Binary64) : Decimal :=
  if x.isZero then ⟨0, 0⟩ else shortestOfPositive x

end FleetIssues.Decimal

namespace FleetIssues.Decimal

/-- The decimal digits of a natural number. -/
def digitText (n : Nat) : String := toString n

/-- A run of zeros. -/
def zeros (count : Nat) : String := String.ofList (List.replicate count '0')

/-- The sign of a double, as text. -/
def signText (x : Binary64) : String := if x.negative then "-" else ""

/-- The positional text of a decimal `digits · 10^exponent`: point inserted, or zeros added on
either side, with no point for a whole number. -/
def positional (d : Decimal) : String :=
  let ds := digitText d.digits
  let n : Int := ds.length
  let point := d.exponent + n
  if point ≤ 0 then "0." ++ zeros (-point).toNat ++ ds
  else if d.exponent ≥ 0 then ds ++ zeros d.exponent.toNat
  else String.ofList (ds.toList.take point.toNat) ++ "." ++ String.ofList (ds.toList.drop point.toNat)

/-- The data layout of a double: positional with a point when the point stands between five
places left of the first digit and sixteen places right of it, otherwise one digit, a point if
more digits follow, and a signed exponent. Not-a-number and the infinities have names. -/
def dataText (x : Binary64) : String :=
  if x.isNaN then "NaN"
  else if !x.isFinite then signText x ++ "inf"
  else if x.isZero then signText x ++ "0.0"
  else
    let d := shortest x
    let ds := digitText d.digits
    let n : Int := ds.length
    let point := d.exponent + n
    let body :=
      if d.exponent ≥ 0 && point ≤ 16 then ds ++ zeros d.exponent.toNat ++ ".0"
      else if 0 < point && point ≤ 16 then positional d
      else if -5 < point && point ≤ 0 then positional d
      else
        let mantissa := match ds.toList with
          | first :: more@(_ :: _) => String.ofList (first :: '.' :: more)
          | cs => String.ofList cs
        let power := point - 1
        mantissa ++ "e" ++ (if power < 0 then "-" else "+") ++ toString power.natAbs
    signText x ++ body

/-- The plain layout of a double: always positional, with `.0` after a whole number.
Not-a-number and the infinities have names. -/
def plainText (x : Binary64) : String :=
  if x.isNaN then "NaN"
  else if !x.isFinite then signText x ++ "inf"
  else
    let text := if x.isZero then "0" else positional (shortest x)
    signText x ++ (if text.contains '.' then text else text ++ ".0")

end FleetIssues.Decimal
