import FleetIssues.Yaml.Scanner
/-! Scanning scalars: plain, single- and double-quoted, literal and folded. -/

namespace FleetIssues.Yaml

/-- The text of a scalar being scanned, and the blanks and breaks read since its last
character, which are joined or folded in before the next one. -/
structure Folding where
  text : String
  leadingBlanks : Bool
  whitespaces : String
  leadingBreak : String
  trailingBreaks : String
  deriving Repr

/-- Nothing read yet. -/
def Folding.empty : Folding := ⟨"", false, "", "", ""⟩

/-- Joins the blanks read, or folds the line breaks read: a single line feed becomes a space,
and further breaks are kept. -/
def Folding.fold (f : Folding) : Folding :=
  if f.leadingBlanks then
    if f.leadingBreak.startsWith "\n" then
      if f.trailingBreaks.isEmpty then
        { f with text := f.text ++ " ", leadingBreak := "", leadingBlanks := false }
      else
        { f with text := f.text ++ f.trailingBreaks, trailingBreaks := "", leadingBreak := "",
                 leadingBlanks := false }
    else
      { f with text := f.text ++ f.leadingBreak ++ f.trailingBreaks, leadingBreak := "",
               trailingBreaks := "", leadingBlanks := false }
  else { f with text := f.text ++ f.whitespaces, whitespaces := "" }

/-- Reads the blanks and breaks after a word of a plain or quoted scalar. In a plain scalar a
tab may not stand in the indentation of a continuation line. -/
def foldBlanks (plain : Bool) (start : Mark) (indent : Int) : Nat → Folding → Scan Folding
  | 0, f => pure f
  | fuel + 1, f => do
    let rest ← ahead
    if blankAt rest 0 then
      if plain && f.leadingBlanks && ((← here).column : Int) < indent && charIs rest 0 '\t' then
        scanFail "while scanning a plain scalar" start "found a tab character that violates indentation"
      if f.leadingBlanks then
        skip
        foldBlanks plain start indent fuel f
      else
        let c ← readChar
        foldBlanks plain start indent fuel { f with whitespaces := f.whitespaces ++ c }
    else if breakAt rest 0 then
      if f.leadingBlanks then
        let b ← readLine
        foldBlanks plain start indent fuel { f with trailingBreaks := f.trailingBreaks ++ b }
      else
        let b ← readLine
        foldBlanks plain start indent fuel { f with whitespaces := "", leadingBreak := b, leadingBlanks := true }
    else pure f

/-- Whether a character is a flow indicator that ends a plain scalar in flow context. -/
def endsFlowPlain (c : Char) : Bool := c == ',' || c == '[' || c == ']' || c == '{' || c == '}'

/-- Reads the characters of a plain scalar up to a blank, a break, `: `, or in flow context a
flow indicator; gives the folding and the mark after the last character. -/
def plainWord (start : Mark) : Nat → Folding → Mark → Scan (Folding × Mark)
  | 0, f, stop => pure (f, stop)
  | fuel + 1, f, stop => do
    let s ← get
    let rest := s.rest
    if blankzAt rest 0 then return (f, stop)
    let flow := s.flowLevel != 0
    if flow && charIs rest 0 ':' &&
        (charIs rest 1 ',' || charIs rest 1 '?' || charIs rest 1 '[' || charIs rest 1 ']' ||
          charIs rest 1 '{' || charIs rest 1 '}') then
      scanFail "while scanning a plain scalar" start "found unexpected ':'"
    let ends := match rest with
      | c :: _ => (c == ':' && blankzAt rest 1) || (flow && endsFlowPlain c)
      | [] => true
    if ends then return (f, stop)
    let f := if f.leadingBlanks || !f.whitespaces.isEmpty then f.fold else f
    let c ← readChar
    plainWord start fuel { f with text := f.text ++ c } (← here)

/-- The rounds of a plain scalar: words separated by blanks and breaks, until an end. -/
def plainRounds (start : Mark) (indent : Int) : Nat → Folding → Mark → Scan (Folding × Mark)
  | 0, f, stop => pure (f, stop)
  | fuel + 1, f, stop => do
    let s ← get
    if s.mark.column == 0 && (markerAhead s.rest '-' || markerAhead s.rest '.') then
      return (f, stop)
    if charIs s.rest 0 '#' then return (f, stop)
    let (f, stop) ← plainWord start (s.rest.length + 1) f stop
    let rest ← ahead
    if !(blankAt rest 0 || breakAt rest 0) then return (f, stop)
    let f ← foldBlanks true start indent (rest.length + 1) f
    let s ← get
    if s.flowLevel == 0 && (s.mark.column : Int) < indent then return (f, stop)
    plainRounds start indent fuel f stop

/-- Scans a plain scalar. A line break inside it lets a simple key start after it. -/
def scanPlainScalar : Scan Token := do
  let s ← get
  let (f, stop) ← plainRounds s.mark (s.indent + 1) (s.rest.length + 1) Folding.empty s.mark
  if f.leadingBlanks then allowKey true
  return ⟨.scalar f.text .plain, s.mark, stop⟩

/-- What a double-quoted escape stands for: its text, or the number of hexadecimal digits that
follow it. -/
def escapeOf (c : Char) : Option (String ⊕ Nat) :=
  match c with
  | '0' => some (.inl (String.singleton (Char.ofNat 0)))
  | 'a' => some (.inl (String.singleton (Char.ofNat 7)))
  | 'b' => some (.inl (String.singleton (Char.ofNat 8)))
  | 't' | '\t' => some (.inl "\t")
  | 'n' => some (.inl "\n")
  | 'v' => some (.inl (String.singleton (Char.ofNat 11)))
  | 'f' => some (.inl (String.singleton (Char.ofNat 12)))
  | 'r' => some (.inl "\r")
  | 'e' => some (.inl (String.singleton (Char.ofNat 27)))
  | ' ' => some (.inl " ")
  | '"' => some (.inl "\"")
  | '/' => some (.inl "/")
  | '\'' => some (.inl "'")
  | '\\' => some (.inl "\\")
  | 'N' => some (.inl (String.singleton (Char.ofNat 0x85)))
  | '_' => some (.inl (String.singleton (Char.ofNat 0xA0)))
  | 'L' => some (.inl (String.singleton (Char.ofNat 0x2028)))
  | 'P' => some (.inl (String.singleton (Char.ofNat 0x2029)))
  | 'x' => some (.inr 2)
  | 'u' => some (.inr 4)
  | 'U' => some (.inr 8)
  | _ => none

/-- The value of the hexadecimal digits at the front of a list, when all of them are digits. -/
def hexDigitsValue : List Char → Option Nat
  | [] => some 0
  | c :: rest => do
    let d ← hexValue c
    let v ← hexDigitsValue rest
    return d * 16 ^ rest.length + v

/-- Reads a double-quoted escape, the backslash not yet passed. -/
def readEscape (start : Mark) : Scan String := do
  let rest ← ahead
  match rest[1]?.bind escapeOf with
  | none => scanFail "while parsing a quoted scalar" start "found unknown escape character"
  | some (.inl text) => skip; skip; return text
  | some (.inr width) =>
    skip; skip
    let digits := (← ahead).take width
    match (if digits.length == width then hexDigitsValue digits else none) with
    | none => scanFail "while parsing a quoted scalar" start "did not find expected hexdecimal number"
    | some value =>
      if (0xD800 ≤ value && value ≤ 0xDFFF) || value > 0x10FFFF then
        scanFail "while parsing a quoted scalar" start "found invalid Unicode character escape code"
      for _ in List.range width do skip
      return String.singleton (Char.ofNat value)

/-- Reads the characters of a quoted scalar up to a blank, a break, or its closing quote. An
escaped line break ends the word and starts the folding of breaks. -/
def quotedWord (single : Bool) (start : Mark) : Nat → Folding → Scan Folding
  | 0, f => pure f
  | fuel + 1, f => do
    let rest ← ahead
    if blankzAt rest 0 then return f
    if single && charIs rest 0 '\'' && charIs rest 1 '\'' then
      skip; skip
      quotedWord single start fuel { f with text := f.text ++ "'" }
    else if charIs rest 0 (if single then '\'' else '"') then return f
    else if !single && charIs rest 0 '\\' && breakAt rest 1 then
      skip; skipLine
      return { f with leadingBlanks := true }
    else if !single && charIs rest 0 '\\' then
      let text ← readEscape start
      quotedWord single start fuel { f with text := f.text ++ text }
    else
      let c ← readChar
      quotedWord single start fuel { f with text := f.text ++ c }

/-- The rounds of a quoted scalar: words separated by blanks and breaks, until the closing
quote. A document marker at the start of a line, or the end of the text, is a problem. -/
def quotedRounds (single : Bool) (start : Mark) : Nat → Folding → Scan Folding
  | 0, f => pure f
  | fuel + 1, f => do
    let s ← get
    if s.mark.column == 0 && (markerAhead s.rest '-' || markerAhead s.rest '.') then
      scanFail "while scanning a quoted scalar" start "found unexpected document indicator"
    if s.rest.isEmpty then
      scanFail "while scanning a quoted scalar" start "found unexpected end of stream"
    let f ← quotedWord single start (s.rest.length + 1) { f with leadingBlanks := false }
    let rest ← ahead
    if charIs rest 0 (if single then '\'' else '"') then return f
    let f ← foldBlanks false start 0 (rest.length + 1) f
    quotedRounds single start fuel f.fold

/-- Scans a single- or double-quoted scalar. -/
def scanFlowScalar (single : Bool) : Scan Token := do
  let start ← here
  skip
  let f ← quotedRounds single start ((← ahead).length + 1) Folding.empty
  skip
  return ⟨.scalar f.text (if single then .singleQuoted else .doubleQuoted), start, ← here⟩

/-- Reads the indentation and empty lines before a line of a block scalar, fixing an unknown
indentation at the deepest empty line, at least one more than the enclosing collection. -/
def blockBreaks (start : Mark) : Nat → Nat → Nat → String → Mark → Scan (Nat × String × Mark)
  | 0, indent, _, breaks, stop => pure (indent, breaks, stop)
  | fuel + 1, indent, deepest, breaks, stop => do
    let s ← get
    let spaces := runLength (· == ' ') s.rest
    let count := if indent == 0 then spaces else min spaces (indent - s.mark.column)
    for _ in List.range count do skip
    let s ← get
    let deepest := max deepest s.mark.column
    if (indent == 0 || s.mark.column < indent) && charIs s.rest 0 '\t' then
      scanFail "while scanning a block scalar" start
        "found a tab character where an intendation space is expected"
    if breakAt s.rest 0 then
      let b ← readLine
      blockBreaks start fuel indent deepest (breaks ++ b) (← here)
    else
      let indent :=
        if indent != 0 then indent
        else max 1 (max deepest (s.indent + 1).toNat)
      return (indent, breaks, stop)

/-- Reads the lines of a block scalar while they stand at its indentation. -/
def blockLines (literal : Bool) (start : Mark) (indent : Nat) :
    Nat → String → String → String → Bool → Mark → Scan (String × String × String × Mark)
  | 0, text, leadingBreak, trailing, _, stop => pure (text, leadingBreak, trailing, stop)
  | fuel + 1, text, leadingBreak, trailing, leadingBlank, stop => do
    let s ← get
    if s.mark.column != indent || s.rest.isEmpty then return (text, leadingBreak, trailing, stop)
    let trailingBlank := blankAt s.rest 0
    let text :=
      if !literal && leadingBreak.startsWith "\n" && !leadingBlank && !trailingBlank then
        if trailing.isEmpty then text ++ " " else text
      else text ++ leadingBreak
    let text := text ++ trailing
    let leadingBlank := blankAt s.rest 0
    let line ← readRun fun c => !isBreak c
    let lineBreak ← readLine
    let (_, trailing, stop) ← blockBreaks start ((← ahead).length + 1) indent 0 "" (← here)
    blockLines literal start indent fuel (text ++ line) lineBreak trailing leadingBlank stop

/-- Reads the header of a block scalar after its indicator: a chomping sign and an indentation
digit, in either order, then blanks, a comment, and the end of the line. Gives the chomping
(-1 strip, 0 clip, 1 keep) and the indentation increment. -/
def blockHeader (start : Mark) : Scan (Int × Nat) := do
  let digit (c : Char) : Bool := '0' ≤ c && c ≤ '9'
  let readDigit : Scan Nat := do
    match (← ahead) with
    | c :: _ =>
      if c == '0' then
        scanFail "while scanning a block scalar" start "found an intendation indicator equal to 0"
      skip
      return c.toNat - '0'.toNat
    | [] => return 0
  let readSign : Scan Int := do
    match (← ahead) with
    | '+' :: _ => skip; return 1
    | '-' :: _ => skip; return -1
    | _ => return 0
  let first := (← ahead).head?
  let signFirst := first == some '+' || first == some '-'
  let digitFirst := first.any digit
  let sign ← if signFirst then readSign else pure 0
  let afterSign := (← ahead).head?
  let increment ←
    if digitFirst || (signFirst && afterSign.any digit) then readDigit else pure 0
  let chomping ← if digitFirst then readSign else pure sign
  skipRun isBlank
  if charIs (← ahead) 0 '#' then skipToBreak
  if !breakzAt (← ahead) 0 then
    scanFail "while scanning a block scalar" start "did not find expected comment or line break"
  if breakAt (← ahead) 0 then skipLine
  return (chomping, increment)

/-- Scans a literal or folded block scalar. -/
def scanBlockScalar (literal : Bool) : Scan Token := do
  let start ← here
  skip
  let (chomping, increment) ← blockHeader start
  let s ← get
  let indent : Nat :=
    if increment == 0 then 0
    else if s.indent >= 0 then (s.indent + increment).toNat else increment
  let (indent, trailing, stop) ← blockBreaks start (s.rest.length + 1) indent 0 "" s.mark
  let (text, leadingBreak, trailing, stop) ←
    blockLines literal start indent ((← ahead).length + 1) "" "" trailing false stop
  let text := if chomping != -1 then text ++ leadingBreak else text
  let text := if chomping == 1 then text ++ trailing else text
  return ⟨.scalar text (if literal then .literal else .folded), start, stop⟩

end FleetIssues.Yaml
