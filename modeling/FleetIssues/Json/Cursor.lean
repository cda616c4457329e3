import FleetIssues.Schema.Shape
/-! Reading JSON text: its errors, where reading stands, and quoted strings. -/

namespace FleetIssues.Json

open Schema

/-- What is wrong with JSON text. -/
inductive SyntaxFault where
  | eofWhileParsingList
  | eofWhileParsingObject
  | eofWhileParsingString
  | eofWhileParsingValue
  | expectedColon
  | expectedListCommaOrEnd
  | expectedObjectCommaOrEnd
  | expectedSomeIdent
  | expectedSomeValue
  | invalidEscape
  | invalidNumber
  | numberOutOfRange
  | controlCharacterWhileParsingString
  | keyMustBeAString
  | loneLeadingSurrogateInHexEscape
  | trailingComma
  | trailingCharacters
  | unexpectedEndOfHexEscape
  | recursionLimitExceeded
  deriving DecidableEq, Repr

/-- The words of a syntax fault. -/
def SyntaxFault.message : SyntaxFault → String
  | .eofWhileParsingList => "EOF while parsing a list"
  | .eofWhileParsingObject => "EOF while parsing an object"
  | .eofWhileParsingString => "EOF while parsing a string"
  | .eofWhileParsingValue => "EOF while parsing a value"
  | .expectedColon => "expected `:`"
  | .expectedListCommaOrEnd => "expected `,` or `]`"
  | .expectedObjectCommaOrEnd => "expected `,` or `\x7d`"
  | .expectedSomeIdent => "expected ident"
  | .expectedSomeValue => "expected value"
  | .invalidEscape => "invalid escape"
  | .invalidNumber => "invalid number"
  | .numberOutOfRange => "number out of range"
  | .controlCharacterWhileParsingString =>
    "control character (\\u0000-\\u001F) found while parsing a string"
  | .keyMustBeAString => "key must be a string"
  | .loneLeadingSurrogateInHexEscape => "lone leading surrogate in hex escape"
  | .trailingComma => "trailing comma"
  | .trailingCharacters => "trailing characters"
  | .unexpectedEndOfHexEscape => "unexpected end of hex escape"
  | .recursionLimitExceeded => "recursion limit exceeded"

/-- The cause of a reading error. -/
inductive ReadCause where
  | fault (fault : SyntaxFault)
  | data (error : DataError)
  deriving DecidableEq, Repr

/-- A reading error and, when read from text, the line and column where it was found. -/
structure ReadError where
  cause : ReadCause
  position : Option (Nat × Nat)
  deriving DecidableEq, Repr

/-- The text of a reading error: the cause, then ` at line L column C` when it has a place. -/
def ReadError.message (e : ReadError) : String :=
  let base := match e.cause with
    | .fault fault => fault.message
    | .data error => error.message .json
  match e.position with
  | some (line, column) => base ++ " at line " ++ toString line ++ " column " ++ toString column
  | none => base

end FleetIssues.Json

namespace FleetIssues.Json

open Schema

/-- Where reading stands in a text. -/
structure Cursor where
  rest : List Char
  line : Nat
  column : Nat
  deriving DecidableEq, Repr

namespace Cursor

/-- A cursor at the start of a text. -/
def start (text : String) : Cursor := ⟨text.toList, 1, 0⟩

/-- The cursor after taking one character. -/
def advance : Cursor → Cursor
  | ⟨[], line, column⟩ => ⟨[], line, column⟩
  | ⟨c :: more, line, column⟩ =>
    if c == '\n' then ⟨more, line + 1, 0⟩ else ⟨more, line, column + c.utf8Size⟩

/-- The place one byte further than the cursor, or the cursor's place at the end. -/
def peekPosition : Cursor → Nat × Nat
  | ⟨[], line, column⟩ => (line, column)
  | ⟨c :: _, line, column⟩ => if c == '\n' then (line + 1, 0) else (line, column + 1)

/-- The place after skipping a number of bytes, possibly ending inside a character. -/
def positionAfterBytes : Nat → Cursor → Nat × Nat
  | 0, cursor => (cursor.line, cursor.column)
  | _, ⟨[], line, column⟩ => (line, column)
  | n + 1, ⟨c :: more, line, column⟩ =>
    if c == '\n' then positionAfterBytes n ⟨more, line + 1, 0⟩
    else if c.utf8Size ≤ n + 1 then positionAfterBytes (n + 1 - c.utf8Size) ⟨more, line, column + c.utf8Size⟩
    else (line, column + n + 1)
termination_by _ cursor => cursor.rest.length

/-- The number of bytes left, counted up to a limit. -/
def bytesLeftUpTo : Nat → List Char → Nat
  | 0, _ => 0
  | _, [] => 0
  | limit + 1, c :: more =>
    if limit + 1 ≤ c.utf8Size then limit + 1
    else c.utf8Size + bytesLeftUpTo (limit + 1 - c.utf8Size) more

/-- The cursor at the end of the text. -/
def finish : Cursor → Cursor
  | ⟨[], line, column⟩ => ⟨[], line, column⟩
  | ⟨c :: more, line, column⟩ =>
    if c == '\n' then finish ⟨more, line + 1, 0⟩ else finish ⟨more, line, column + c.utf8Size⟩
termination_by cursor => cursor.rest.length

/-- Skips the blanks of JSON: space, tab, line feed and carriage return. -/
def skipBlanks : Cursor → Cursor
  | ⟨c :: more, line, column⟩ =>
    if c == ' ' || c == '\t' || c == '\r' then skipBlanks ⟨more, line, column + 1⟩
    else if c == '\n' then skipBlanks ⟨more, line + 1, 0⟩
    else ⟨c :: more, line, column⟩
  | cursor => cursor
termination_by cursor => cursor.rest.length

end Cursor

/-- A reading step: it moves the cursor, or fails with a placed error. -/
abbrev Reader := StateT Cursor (Except ReadError)

/-- The next character, not taken. -/
def peekChar : Reader (Option Char) := do
  return (← get).rest.head?

/-- Takes one character. -/
def bump : Reader Unit := modify Cursor.advance

/-- The place where reading stands. -/
def here : Reader (Nat × Nat) := do
  let cursor ← get
  return (cursor.line, cursor.column)

/-- The number of characters left, a bound on the steps of any loop. -/
def fuelLeft : Reader Nat := do
  return (← get).rest.length + 1

/-- Fails with a syntax fault placed where reading stands. -/
def fail {α : Type} (fault : SyntaxFault) : Reader α := do
  throw ⟨.fault fault, some (← here)⟩

/-- Fails with a syntax fault placed one byte further, at the character looked at. -/
def failAhead {α : Type} (fault : SyntaxFault) : Reader α := do
  throw ⟨.fault fault, some (← get).peekPosition⟩

/-- Fails with a data error placed where reading stands. -/
def failData {α : Type} (error : DataError) : Reader α := do
  throw ⟨.data error, some (← here)⟩

/-- Skips blanks and looks at the next character. -/
def skipBlanks : Reader (Option Char) := do
  modify Cursor.skipBlanks
  peekChar

/-- Takes the letters of a keyword after its first letter. -/
def expectWord : List Char → Reader Unit
  | [] => pure ()
  | c :: more => do
    match ← peekChar with
    | none => fail .eofWhileParsingValue
    | some d => if d == c then do bump; expectWord more else failAhead .expectedSomeIdent

/-- The value of a hex digit. -/
def hexValue (c : Char) : Option Nat :=
  if '0' ≤ c && c ≤ '9' then some (c.toNat - '0'.toNat)
  else if 'a' ≤ c && c ≤ 'f' then some (c.toNat - 'a'.toNat + 10)
  else if 'A' ≤ c && c ≤ 'F' then some (c.toNat - 'A'.toNat + 10)
  else none

/-- The value of four hex digits. -/
def hexQuad : List Char → Option Nat
  | [a, b, c, d] => do
    return (← hexValue a) * 4096 + (← hexValue b) * 256 + (← hexValue c) * 16 + (← hexValue d)
  | _ => none

/-- Takes the four bytes of a `\u` escape: fewer than four bytes left is the end of the text,
four bytes that are not hex digits are an invalid escape placed after them. -/
def readHexQuad : Reader Nat := do
  let cursor ← get
  if Cursor.bytesLeftUpTo 4 cursor.rest < 4 then
    set cursor.finish
    fail .eofWhileParsingString
  else
    match hexQuad (cursor.rest.take 4) with
    | some n => do bump; bump; bump; bump; return n
    | none => throw ⟨.fault .invalidEscape, some (cursor.positionAfterBytes 4)⟩

/-- Whether a number is a high surrogate. -/
def isHighSurrogate (n : Nat) : Bool := 0xD800 ≤ n && n ≤ 0xDBFF

/-- Whether a number is a low surrogate. -/
def isLowSurrogate (n : Nat) : Bool := 0xDC00 ≤ n && n ≤ 0xDFFF

/-- Reads the rest of a `\u` escape: one code point, or a surrogate pair. -/
def readUnicodeEscape : Reader Char := do
  let n ← readHexQuad
  if isLowSurrogate n then fail .loneLeadingSurrogateInHexEscape
  else if !isHighSurrogate n then return Char.ofNat n
  else
    match ← peekChar with
    | none => fail .eofWhileParsingString
    | some '\\' => bump
    | some _ => failAhead .unexpectedEndOfHexEscape
    match ← peekChar with
    | none => fail .eofWhileParsingString
    | some 'u' => bump
    | some _ => failAhead .unexpectedEndOfHexEscape
    let low ← readHexQuad
    if !isLowSurrogate low then fail .loneLeadingSurrogateInHexEscape
    else return Char.ofNat (((n - 0xD800) * 1024 + (low - 0xDC00)) + 0x10000)

/-- Reads an escape after its backslash. -/
def readEscape : Reader Char := do
  match ← peekChar with
  | none => fail .eofWhileParsingString
  | some c =>
    match c with
    | '"' => do bump; return '"'
    | '\\' => do bump; return '\\'
    | '/' => do bump; return '/'
    | 'b' => do bump; return '\x08'
    | 'f' => do bump; return '\x0c'
    | 'n' => do bump; return '\n'
    | 'r' => do bump; return '\r'
    | 't' => do bump; return '\t'
    | 'u' => do bump; readUnicodeEscape
    | _ => failAhead .invalidEscape

/-- Reads the rest of a quoted string after its opening quote. -/
def readStringBody : Nat → List Char → Reader String
  | 0, _ => fail .eofWhileParsingString
  | fuel + 1, acc => do
    match ← peekChar with
    | none => fail .eofWhileParsingString
    | some '"' => do bump; return String.ofList acc.reverse
    | some '\\' => do
      bump
      let c ← readEscape
      readStringBody fuel (c :: acc)
    | some c =>
      if c.toNat < 0x20 then do bump; fail .controlCharacterWhileParsingString
      else do bump; readStringBody fuel (c :: acc)

/-- Reads a quoted string whose opening quote is next. -/
def readString : Reader String := do
  bump
  readStringBody (← fuelLeft) []

/-- Skips an escape after its backslash, checking only its form. -/
def skipEscape : Reader Unit := do
  match ← peekChar with
  | none => fail .eofWhileParsingString
  | some c =>
    if c == '"' || c == '\\' || c == '/' || c == 'b' || c == 'f' || c == 'n' || c == 'r' ||
        c == 't' then bump
    else if c == 'u' then do bump; discard readHexQuad
    else failAhead .invalidEscape

/-- Skips the rest of a quoted string after its opening quote; a control character is placed
before itself. -/
def skipStringBody : Nat → Reader Unit
  | 0 => fail .eofWhileParsingString
  | fuel + 1 => do
    match ← peekChar with
    | none => fail .eofWhileParsingString
    | some '"' => bump
    | some '\\' => do bump; skipEscape; skipStringBody fuel
    | some c =>
      if c.toNat < 0x20 then fail .controlCharacterWhileParsingString
      else do bump; skipStringBody fuel

end FleetIssues.Json
