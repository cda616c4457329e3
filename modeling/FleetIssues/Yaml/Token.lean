/-! Places and problems in a YAML text, its tokens, and the classes of characters the scanner tells
apart. -/

namespace FleetIssues.Yaml

/-- A place in a YAML text. -/
structure Mark where
  index : Nat
  line : Nat
  column : Nat
  deriving DecidableEq, Repr, Inhabited

namespace Mark

/-- The place before the first character. -/
def start : Mark := ⟨0, 0, 0⟩

/-- Whether a mark stands on the first column of the first line. -/
def atStart (m : Mark) : Bool := m.line == 0 && m.column == 0

/-- The words of a mark: its line and column from one, or its index at the very start. -/
def text (m : Mark) : String :=
  if m.atStart then "position " ++ toString m.index
  else "line " ++ toString (m.line + 1) ++ " column " ++ toString (m.column + 1)

end Mark

/-- A problem found in a YAML text: what is wrong and where, the byte offset given by the reader
for a character it refuses, and the construct being read when it was found. -/
structure Problem where
  problem : String
  mark : Mark
  offset : Nat
  context : Option (String × Mark)
  deriving DecidableEq, Repr

/-- The sentence of a problem. -/
def Problem.message (p : Problem) : String :=
  let place :=
    if !p.mark.atStart then " at " ++ p.mark.text
    else if p.offset != 0 then " at position " ++ toString p.offset
    else ""
  let context := match p.context with
    | none => ""
    | some (words, mark) =>
      ", " ++ words ++
        (if !mark.atStart && (mark.line != p.mark.line || mark.column != p.mark.column) then
          " at " ++ mark.text
        else "")
  p.problem ++ place ++ context

end FleetIssues.Yaml

namespace FleetIssues.Yaml

/-- How a scalar was written. -/
inductive ScalarStyle where
  | plain
  | singleQuoted
  | doubleQuoted
  | literal
  | folded
  deriving DecidableEq, Repr

/-- What a token is. -/
inductive TokenKind where
  | streamStart
  | streamEnd
  | versionDirective (major minor : Nat)
  | tagDirective (handle pfx : String)
  | documentStart
  | documentEnd
  | blockSequenceStart
  | blockMappingStart
  | blockEnd
  | flowSequenceStart
  | flowSequenceEnd
  | flowMappingStart
  | flowMappingEnd
  | blockEntry
  | flowEntry
  | key
  | value
  | alias (name : String)
  | anchor (name : String)
  | tag (handle suffix : String)
  | scalar (value : String) (style : ScalarStyle)
  deriving DecidableEq, Repr

/-- A token and the marks at its start and just after its end. -/
structure Token where
  kind : TokenKind
  start : Mark
  stop : Mark
  deriving DecidableEq, Repr

/-- A character is blank when it has the Unicode `White_Space` property: the ASCII controls from tab
to carriage return, space, and the Unicode spaces and separators. -/
def isBlank (c : Char) : Bool := c == ' ' || c == '\t'

/-- Whether a character ends a line: carriage return, line feed, next line, or the line and
paragraph separators. -/
def isBreak (c : Char) : Bool :=
  c == '\r' || c == '\n' || c.toNat == 0x85 || c.toNat == 0x2028 || c.toNat == 0x2029

/-- Whether a character may appear in an anchor, an alias, a tag handle or a directive name:
an ASCII letter or digit, an underscore or a hyphen. -/
def isWordChar (c : Char) : Bool :=
  ('0' ≤ c && c ≤ '9') || ('A' ≤ c && c ≤ 'Z') || ('a' ≤ c && c ≤ 'z') || c == '_' || c == '-'

/-- The value of a hexadecimal digit. -/
def hexValue (c : Char) : Option Nat :=
  if '0' ≤ c && c ≤ '9' then some (c.toNat - '0'.toNat)
  else if 'a' ≤ c && c ≤ 'f' then some (c.toNat - 'a'.toNat + 10)
  else if 'A' ≤ c && c ≤ 'F' then some (c.toNat - 'A'.toNat + 10)
  else none

/-- Whether a character may appear in a YAML text: tab, line feed, carriage return, printable
ASCII, next line, and the printable ranges above. -/
def isPrintable (c : Char) : Bool :=
  let v := c.toNat
  v == 0x09 || v == 0x0A || v == 0x0D || (0x20 ≤ v && v ≤ 0x7E) || v == 0x85 ||
    (0xA0 ≤ v && v ≤ 0xD7FF) || (0xE000 ≤ v && v ≤ 0xFFFD) || (0x10000 ≤ v && v ≤ 0x10FFFF)

section Lookahead

variable (rest : List Char) (k : Nat)

/-- Whether the character at an offset is a given one. -/
def charIs (c : Char) : Bool := rest[k]? == some c

/-- Whether the character at an offset is a space or a tab. -/
def blankAt : Bool := match rest[k]? with | some c => isBlank c | none => false

/-- Whether the character at an offset ends a line. -/
def breakAt : Bool := match rest[k]? with | some c => isBreak c | none => false

/-- Whether the text ends or a line ends at an offset. -/
def breakzAt : Bool := match rest[k]? with | some c => isBreak c | none => true

/-- Whether the text ends, a line ends, or a blank stands at an offset. -/
def blankzAt : Bool := match rest[k]? with | some c => isBlank c || isBreak c | none => true

end Lookahead

/-- Whether a document marker, three of a character followed by a blank or the end, starts here. -/
def markerAhead (rest : List Char) (c : Char) : Bool :=
  charIs rest 0 c && charIs rest 1 c && charIs rest 2 c && blankzAt rest 3

end FleetIssues.Yaml
