/-! Text as the service reads and writes it: blank characters and trimming, quoting, RFC 3339
instants, the names in a path, and signed 64-bit integers. -/

namespace FleetIssues.Text

/-- A character is blank when it has the Unicode `White_Space` property: the ASCII controls from tab
to carriage return, space, and the Unicode spaces and separators. -/
def isBlank (c : Char) : Bool :=
  let n := c.toNat
  (0x09 ≤ n && n ≤ 0x0D) || n == 0x20 || n == 0x85 || n == 0xA0 || n == 0x1680 ||
    (0x2000 ≤ n && n ≤ 0x200A) || n == 0x2028 || n == 0x2029 || n == 0x202F ||
    n == 0x205F || n == 0x3000

/-- The characters of a text with blank characters removed from both ends. -/
def trimBlankList (cs : List Char) : List Char :=
  ((cs.dropWhile isBlank).reverse.dropWhile isBlank).reverse

/-- A text with blank characters removed from both ends. -/
def trimBlank (s : String) : String :=
  String.ofList (trimBlankList s.toList)

/-- A text is blank when nothing is left after trimming. -/
def isBlankText (s : String) : Bool :=
  s.toList.all isBlank

theorem isBlank_of_isWhitespace {c : Char} (h : c.isWhitespace = true) : isBlank c = true := by
  simp only [Char.isWhitespace, Bool.or_eq_true, decide_eq_true_eq] at h
  simp only [isBlank, Bool.or_eq_true, Bool.and_eq_true, decide_eq_true_eq, beq_iff_eq]
  rcases h with ((h | h) | h) | h <;> subst h <;> decide

@[simp]
theorem trimBlank_toList (s : String) : (trimBlank s).toList = trimBlankList s.toList := by
  simp [trimBlank]

theorem isBlankText_iff (s : String) : isBlankText s = true ↔ ∀ c ∈ s.toList, isBlank c = true := by
  simp [isBlankText]

end FleetIssues.Text

namespace FleetIssues.Text

/-- Ranges of code points, inclusive, that are written escaped. -/
def escapedRanges : List (Nat × Nat) :=
  [(0x00, 0x1F), (0x7F, 0x9F), (0xA0, 0xA0), (0xAD, 0xAD), (0x300, 0x36F), (0x483, 0x489),
   (0x591, 0x5BD), (0x5BF, 0x5BF), (0x5C1, 0x5C2), (0x5C4, 0x5C5), (0x5C7, 0x5C7),
   (0x600, 0x605), (0x610, 0x61A), (0x61C, 0x61C), (0x64B, 0x65F), (0x670, 0x670),
   (0x6D6, 0x6DD), (0x6DF, 0x6E4), (0x6E7, 0x6E8), (0x6EA, 0x6ED), (0x70F, 0x70F),
   (0x1680, 0x1680), (0x180E, 0x180E), (0x1AB0, 0x1AFF), (0x1DC0, 0x1DFF), (0x2000, 0x200F),
   (0x2028, 0x202F), (0x205F, 0x2064), (0x2066, 0x206F), (0x20D0, 0x20F0), (0x3000, 0x3000),
   (0xD800, 0xF8FF), (0xFE00, 0xFE0F), (0xFE20, 0xFE2F), (0xFEFF, 0xFEFF), (0xFFF9, 0xFFFB),
   (0xFFFE, 0xFFFF), (0xE0000, 0xE0FFF), (0xF0000, 0x10FFFF)]

/-- Whether a character is written escaped inside quoted text. -/
def needsEscape (c : Char) : Bool :=
  escapedRanges.any (fun r => r.1 ≤ c.toNat && c.toNat ≤ r.2)

/-- The lower-case hex digits of a number, without leading zeros. -/
def hexText (n : Nat) : String :=
  String.ofList (Nat.toDigits 16 n)

/-- One character of quoted text. -/
def quotedChar (c : Char) : String :=
  match c with
  | '"' => "\\\""
  | '\\' => "\\\\"
  | '\t' => "\\t"
  | '\n' => "\\n"
  | '\r' => "\\r"
  | '\x00' => "\\0"
  | c => if needsEscape c then "\\u" ++ "\x7b" ++ hexText c.toNat ++ "\x7d" else String.singleton c

/-- A text between double quotes, with escapes. -/
def quoted (s : String) : String :=
  "\"" ++ String.join (s.toList.map quotedChar) ++ "\""

end FleetIssues.Text

namespace FleetIssues.Text

/-- A number written with at least `width` digits, zeros in front. -/
def padded (width : Nat) (n : Nat) : String :=
  let digits := toString n
  String.ofList (List.replicate (width - digits.length) '0') ++ digits

/-- The year, month and day of a count of days since 1970-01-01. -/
def civilDate (days : Int) : Int × Nat × Nat :=
  let z := days + 719468
  let era := z / 146097
  let dayOfEra := (z - era * 146097).toNat
  let yearOfEra := (dayOfEra - dayOfEra / 1460 + dayOfEra / 36524 - dayOfEra / 146096) / 365
  let dayOfYear := dayOfEra - (365 * yearOfEra + yearOfEra / 4 - yearOfEra / 100)
  let shifted := (5 * dayOfYear + 2) / 153
  let day := dayOfYear - (153 * shifted + 2) / 5 + 1
  let month := if shifted < 10 then shifted + 3 else shifted - 9
  let year := (yearOfEra : Int) + era * 400 + (if month ≤ 2 then 1 else 0)
  (year, month, day)

/-- The fraction of a second after a point, as few digits as show it exactly. -/
def fractionText (nanos : Nat) : String :=
  if nanos == 0 then ""
  else if nanos % 1000000 == 0 then "." ++ padded 3 (nanos / 1000000)
  else if nanos % 1000 == 0 then "." ++ padded 6 (nanos / 1000)
  else "." ++ padded 9 nanos

/-- A year with four digits, and a sign when it is negative. -/
def yearText (year : Int) : String :=
  if year < 0 then "-" ++ padded 4 year.natAbs else padded 4 year.toNat

/-- The RFC 3339 text of an instant given in nanoseconds since the epoch. -/
def rfc3339 (nanos : Int) : String :=
  let seconds := nanos / 1000000000
  let fraction := (nanos % 1000000000).toNat
  let days := seconds / 86400
  let secondOfDay := (seconds % 86400).toNat
  let (year, month, day) := civilDate days
  yearText year ++ "-" ++ padded 2 month ++ "-" ++ padded 2 day ++ "T" ++
    padded 2 (secondOfDay / 3600) ++ ":" ++ padded 2 (secondOfDay % 3600 / 60) ++ ":" ++
    padded 2 (secondOfDay % 60) ++ fractionText fraction ++ "+00:00"

end FleetIssues.Text

namespace FleetIssues.Text

/-- A component of a path. -/
inductive PathPart where
  | root
  | current
  | parent
  | name (text : String)
  deriving DecidableEq, Repr

/-- The components of the parts between slashes, `first` telling whether a part is the first. -/
def pathPartsFrom (first : Bool) : List String → List PathPart
  | [] => []
  | part :: rest =>
    if part.isEmpty then pathPartsFrom first rest
    else if part == "." then
      if first then .current :: pathPartsFrom false rest else pathPartsFrom false rest
    else if part == ".." then .parent :: pathPartsFrom false rest
    else .name part :: pathPartsFrom false rest

/-- The components of a path. -/
def pathParts (path : String) : List PathPart :=
  let parts := path.splitOn "/"
  if path.startsWith "/" then .root :: pathPartsFrom false parts else pathPartsFrom true parts

/-- The file name of a path: its last component, when that is a plain name. -/
def fileName (path : String) : Option String :=
  match (pathParts path).getLast? with
  | some (.name text) => some text
  | _ => none

/-- What follows the last dot of a name, unless that dot is its first character. -/
def nameExtension (name : String) : Option String :=
  match (name.splitOn ".").reverse with
  | [] | [_] => none
  | after :: before =>
    if String.intercalate "." before.reverse == "" then none else some after

/-- The extension of a path's file name. -/
def extension (path : String) : Option String := (fileName path).bind nameExtension

/-- Lower-cases the ASCII letters of a text, leaving every other character. -/
def asciiLower (s : String) : String :=
  String.ofList (s.toList.map fun c => if 'A' ≤ c && c ≤ 'Z' then Char.ofNat (c.toNat + 32) else c)

end FleetIssues.Text

namespace FleetIssues.Text

/-- The smallest signed 64-bit integer. -/
def int64Min : Int := -9223372036854775808

/-- The largest signed 64-bit integer. -/
def int64Max : Int := 9223372036854775807

/-- Whether an integer fits in 64 signed bits. -/
def fitsInt64 (i : Int) : Bool := int64Min ≤ i && i ≤ int64Max

/-- Why a text is not a signed 64-bit integer. -/
inductive IntegerError where
  | empty
  | invalidDigit
  | tooLarge
  | tooSmall
  deriving DecidableEq, Repr

/-- The sentence that describes an integer error. -/
def IntegerError.message : IntegerError → String
  | .empty => "cannot parse integer from empty string"
  | .invalidDigit => "invalid digit found in string"
  | .tooLarge => "number too large to fit in target type"
  | .tooSmall => "number too small to fit in target type"

/-- Accumulates decimal digits onto a value, away from zero in the direction of `sign`. -/
def readDigits (sign : Int) (acc : Int) : List Char → Except IntegerError Int
  | [] => .ok acc
  | c :: rest =>
    if c.isDigit then
      let next := acc * 10 + sign * (c.toNat - '0'.toNat : Nat)
      if next > int64Max then .error .tooLarge
      else if next < int64Min then .error .tooSmall
      else readDigits sign next rest
    else .error .invalidDigit

/-- Reads a signed 64-bit integer written in decimal, with an optional sign. -/
def parseInt64 (s : String) : Except IntegerError Int :=
  match s.toList with
  | [] => .error .empty
  | ['+'] => .error .invalidDigit
  | ['-'] => .error .invalidDigit
  | '+' :: digits => readDigits 1 0 digits
  | '-' :: digits => readDigits (-1) 0 digits
  | digits => readDigits 1 0 digits

/-- Reads a signed 64-bit integer, forgetting why a text is not one. -/
def parseInt64? (s : String) : Option Int :=
  match parseInt64 s with
  | .ok i => some i
  | .error _ => none

end FleetIssues.Text
