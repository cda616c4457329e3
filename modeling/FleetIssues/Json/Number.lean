import FleetIssues.Json.Cursor
/-! Reading JSON numbers. -/

namespace FleetIssues.Json

/-- The largest natural number that fits in 64 bits. -/
def natural64Max : Nat := 18446744073709551615

/-- The largest exponent that fits in 32 signed bits. -/
def exponentMax : Int := 2147483647

/-- The smallest exponent that fits in 32 signed bits. -/
def exponentMin : Int := -2147483648

/-- Clamps an exponent to 32 signed bits. -/
def clampExponent (e : Int) : Int := max exponentMin (min exponentMax e)

/-- A number as read: exact when it is an integer that fits, a double otherwise. -/
inductive ReadNumber where
  | natural (n : Nat)
  | negative (i : Int)
  | double (f : Float)

/-- The value of a decimal digit. -/
def digitOf (c : Char) : Nat := c.toNat - '0'.toNat

/-- Whether a character is an ASCII digit. -/
def isDigitChar (c : Char) : Bool := '0' ≤ c && c ≤ '9'

/-- The double nearest to `10^k`. -/
def powerOfTen (k : Nat) : Float := Float.ofScientific 1 false k

/-- The double of a significand below `2^64`, rounded to nearest. -/
def significandDouble (s : Nat) : Float := s.toUInt64.toFloat

/-- Scales a significand by a power of ten in double arithmetic; `none` when the product
overflows. -/
def scaleByPower (significand : Nat) (exponent : Int) : Option Float :=
  let rec go : Nat → Float → Int → Option Float
    | 0, f, _ => some f
    | fuel + 1, f, e =>
      if e.natAbs ≤ 308 then
        if 0 ≤ e then
          let g := f * powerOfTen e.natAbs
          if g.isInf then none else some g
        else some (f / powerOfTen e.natAbs)
      else if f == 0 then some f
      else if 0 ≤ e then none
      else go fuel (f / powerOfTen 308) (e + 308)
  go 4 (significandDouble significand) exponent

/-- Builds the double of a sign, a significand and a power of ten. -/
def doubleOfParts (positive : Bool) (significand : Nat) (exponent : Int) : Reader Float := do
  match scaleByPower significand exponent with
  | some f => return if positive then f else -f
  | none => fail .numberOutOfRange

/-- Skips digits. -/
def skipDigits : Nat → Reader Unit
  | 0 => pure ()
  | fuel + 1 => do
    match ← peekChar with
    | some c => if isDigitChar c then do bump; skipDigits fuel else pure ()
    | none => pure ()

/-- A zero whose exponent overflowed downward, or an error for an overflow upward. -/
def exponentOverflow (positive zeroSignificand positiveExponent : Bool) : Reader Float := do
  if !zeroSignificand && positiveExponent then fail .numberOutOfRange
  else
    skipDigits (← fuelLeft)
    return if positive then 0.0 else -0.0

/-- Reads the digits of an exponent after its first digit. -/
def readExponentDigits (positive : Bool) (significand : Nat) (starting : Int)
    (positiveExponent : Bool) : Nat → Nat → Reader Float
  | 0, _ => fail .invalidNumber
  | fuel + 1, exp => do
    match ← peekChar with
    | some c =>
      if isDigitChar c then do
        bump
        let next := exp * 10 + digitOf c
        if next > exponentMax.toNat then exponentOverflow positive (significand == 0) positiveExponent
        else readExponentDigits positive significand starting positiveExponent fuel next
      else finishExponent exp
    | none => finishExponent exp
where
  finishExponent (exp : Nat) : Reader Float :=
    let final := if positiveExponent then clampExponent (starting + exp) else clampExponent (starting - exp)
    doubleOfParts positive significand final

/-- Reads an exponent whose `e` is next. -/
def readExponent (positive : Bool) (significand : Nat) (starting : Int) : Reader Float := do
  bump
  let positiveExponent ← match ← peekChar with
    | some '+' => do bump; pure true
    | some '-' => do bump; pure false
    | _ => pure true
  match ← peekChar with
  | none => fail .eofWhileParsingValue
  | some c =>
    if isDigitChar c then do
      bump
      readExponentDigits positive significand starting positiveExponent (← fuelLeft) (digitOf c)
    else failAhead .invalidNumber

/-- After digits that no longer fit: skips the remaining digits and reads an exponent. -/
def readAfterOverflow (positive : Bool) (significand : Nat) (exponent : Int) : Reader Float := do
  skipDigits (← fuelLeft)
  match ← peekChar with
  | some 'e' | some 'E' => readExponent positive significand exponent
  | _ => doubleOfParts positive significand exponent

/-- Reads fraction digits while they fit in 64 bits: the significand, the power of ten so far,
and whether a digit did not fit. -/
def fractionDigits : Nat → Nat → Int → Reader (Nat × Int × Bool)
  | 0, s, after => pure (s, after, false)
  | fuel + 1, s, after => do
    match ← peekChar with
    | some c =>
      if isDigitChar c then
        if s * 10 + digitOf c > natural64Max then pure (s, after, true)
        else do bump; fractionDigits fuel (s * 10 + digitOf c) (after - 1)
      else pure (s, after, false)
    | none => pure (s, after, false)

/-- Reads a fraction whose point is next; at least one digit must follow the point. -/
def readFraction (positive : Bool) (significand : Nat) (before : Int) : Reader Float := do
  bump
  let (s, after, overflowed) ← fractionDigits (← fuelLeft) significand 0
  if overflowed then readAfterOverflow positive s (before + after)
  else if after == 0 then
    match ← peekChar with
    | some _ => failAhead .invalidNumber
    | none => failAhead .eofWhileParsingValue
  else
    match ← peekChar with
    | some 'e' | some 'E' => readExponent positive s (before + after)
    | _ => doubleOfParts positive s (before + after)

/-- Reads the digits of an integer that no longer fit: each raises the power of ten, and a
fraction or an exponent may follow. -/
def readLongInteger (positive : Bool) (significand : Nat) : Nat → Int → Reader Float
  | 0, exponent => doubleOfParts positive significand exponent
  | fuel + 1, exponent => do
    match ← peekChar with
    | some c =>
      if isDigitChar c then do bump; readLongInteger positive significand fuel (exponent + 1)
      else if c == '.' then readFraction positive significand exponent
      else if c == 'e' || c == 'E' then readExponent positive significand exponent
      else doubleOfParts positive significand exponent
    | none => doubleOfParts positive significand exponent

/-- Finishes a number after its integer digits: a fraction, an exponent, or an exact integer. -/
def readNumberTail (positive : Bool) (significand : Nat) : Reader ReadNumber := do
  match ← peekChar with
  | some '.' => ReadNumber.double <$> readFraction positive significand 0
  | some 'e' | some 'E' => ReadNumber.double <$> readExponent positive significand 0
  | _ =>
    if positive then return .natural significand
    else if significand == 0 then return .double (-0.0)
    else if significand ≤ 9223372036854775808 then return .negative (-(significand : Int))
    else return .double (-(significandDouble significand))

/-- Reads integer digits after the first while they fit in 64 bits. -/
def readSignificand (positive : Bool) : Nat → Nat → Reader ReadNumber
  | 0, s => readNumberTail positive s
  | fuel + 1, s => do
    match ← peekChar with
    | some c =>
      if isDigitChar c then
        if s * 10 + digitOf c > natural64Max then
          ReadNumber.double <$> readLongInteger positive s (← fuelLeft) 0
        else do bump; readSignificand positive fuel (s * 10 + digitOf c)
      else readNumberTail positive s
    | none => readNumberTail positive s

/-- Reads a number after its sign: a lone `0` or a digit from 1 to 9 must start it. -/
def readNumber (positive : Bool) : Reader ReadNumber := do
  match ← peekChar with
  | none => fail .eofWhileParsingValue
  | some c =>
    if c == '0' then do
      bump
      match ← peekChar with
      | some d => if isDigitChar d then failAhead .invalidNumber else readNumberTail positive 0
      | none => readNumberTail positive 0
    else if isDigitChar c then do
      bump
      readSignificand positive (← fuelLeft) (digitOf c)
    else failAhead .invalidNumber

/-- Skips an exponent whose `e` is next. -/
def skipExponent : Reader Unit := do
  bump
  match ← peekChar with
  | some '+' | some '-' => bump
  | _ => pure ()
  match ← peekChar with
  | none => fail .invalidNumber
  | some c =>
    if isDigitChar c then do bump; skipDigits (← fuelLeft) else failAhead .invalidNumber

/-- Skips a fraction whose point is next. -/
def skipFraction : Reader Unit := do
  bump
  match ← peekChar with
  | some c =>
    if isDigitChar c then do
      skipDigits (← fuelLeft)
      match ← peekChar with
      | some 'e' | some 'E' => skipExponent
      | _ => pure ()
    else failAhead .invalidNumber
  | none => failAhead .invalidNumber

/-- Skips a number after its sign, checking only its form. -/
def skipNumber : Reader Unit := do
  match ← peekChar with
  | none => fail .invalidNumber
  | some c =>
    if c == '0' then do
      bump
      match ← peekChar with
      | some d => if isDigitChar d then failAhead .invalidNumber else pure ()
      | none => pure ()
    else if isDigitChar c then do bump; skipDigits (← fuelLeft)
    else failAhead .invalidNumber
  match ← peekChar with
  | some '.' => skipFraction
  | some 'e' | some 'E' => skipExponent
  | _ => pure ()

end FleetIssues.Json
