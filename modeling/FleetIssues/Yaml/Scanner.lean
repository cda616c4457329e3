import FleetIssues.Yaml.Token
/-! The state of the YAML scanner and its primitive steps. -/

namespace FleetIssues.Yaml

/-- A place where a simple key may have started. -/
structure SimpleKey where
  possible : Bool
  required : Bool
  number : Nat
  mark : Mark
  deriving DecidableEq, Repr

/-- The key slot of a new flow level: nothing possible. -/
def SimpleKey.none : SimpleKey := ⟨false, false, 0, Mark.start⟩

/-- The scanner: the characters left and the mark before them, the token queue and the number
of tokens taken from it, the indentation stack, and the simple-key slots, innermost first. -/
structure Scanner where
  rest : List Char
  mark : Mark
  streamStarted : Bool
  streamEnded : Bool
  flowLevel : Nat
  queue : List Token
  taken : Nat
  available : Bool
  indent : Int
  indents : List Int
  keyAllowed : Bool
  keys : List SimpleKey
  deriving Repr

/-- A scanner at the start of a text. -/
def Scanner.ofText (text : List Char) : Scanner :=
  ⟨text, Mark.start, false, false, 0, [], 0, false, -1, [], false, []⟩

/-- A scanning step: it changes the scanner or stops at a problem. -/
abbrev Scan := StateT Scanner (Except Problem)

/-- The characters left. -/
def ahead : Scan (List Char) := return (← get).rest

/-- The mark before the characters left. -/
def here : Scan Mark := return (← get).mark

/-- Stops at a problem found here while reading a construct that starts at a mark. -/
def scanFail {α : Type} (context : String) (contextMark : Mark) (problem : String) : Scan α := do
  throw ⟨problem, (← get).mark, 0, some (context, contextMark)⟩

/-- Stops at a problem found here. -/
def scanFailHere {α : Type} (problem : String) : Scan α := do
  throw ⟨problem, (← get).mark, 0, none⟩

/-- Moves past one character that does not end a line. -/
def skip : Scan Unit :=
  modify fun s => match s.rest with
    | [] => s
    | _ :: r => { s with rest := r, mark := ⟨s.mark.index + 1, s.mark.line, s.mark.column + 1⟩ }

/-- Moves past one line break; a carriage return and line feed count as one. -/
def skipLine : Scan Unit :=
  modify fun s => match s.rest with
    | '\r' :: '\n' :: r => { s with rest := r, mark := ⟨s.mark.index + 2, s.mark.line + 1, 0⟩ }
    | c :: r =>
      if isBreak c then { s with rest := r, mark := ⟨s.mark.index + 1, s.mark.line + 1, 0⟩ } else s
    | [] => s

/-- Moves past one character that does not end a line and gives it. -/
def readChar : Scan String := do
  match (← get).rest with
  | c :: _ => skip; return String.singleton c
  | [] => return ""

/-- Moves past one line break and gives what it reads as: a line feed, or the line or
paragraph separator itself. -/
def readLine : Scan String := do
  match (← get).rest with
  | c :: _ =>
    skipLine
    return if c.toNat == 0x2028 || c.toNat == 0x2029 then String.singleton c else "\n"
  | [] => return ""

/-- The length of the run of characters at the front that satisfy a test. -/
def runLength (p : Char → Bool) : List Char → Nat
  | c :: r => if p c then runLength p r + 1 else 0
  | [] => 0

/-- Moves past the run of characters that satisfy a test, which no line break may satisfy. -/
def skipRun (p : Char → Bool) : Scan Unit :=
  modify fun s =>
    let n := runLength p s.rest
    { s with rest := s.rest.drop n, mark := ⟨s.mark.index + n, s.mark.line, s.mark.column + n⟩ }

/-- Moves past the run of characters that satisfy a test, which no line break may satisfy, and
gives them. -/
def readRun (p : Char → Bool) : Scan String := do
  let s ← get
  let n := runLength p s.rest
  skipRun p
  return String.ofList (s.rest.take n)

/-- Moves past the rest of a line, up to its break or the end. -/
def skipToBreak : Scan Unit := skipRun fun c => !isBreak c

/-- Puts a token at the back of the queue. -/
def enqueue (token : Token) : Scan Unit := modify fun s => { s with queue := s.queue ++ [token] }

/-- Puts a token into the queue in front of the one with a given number. -/
def insertToken (number : Nat) (token : Token) : Scan Unit :=
  modify fun s =>
    let at_ := number - s.taken
    { s with queue := s.queue.take at_ ++ token :: s.queue.drop at_ }

/-- Sets whether a simple key may start here. -/
def allowKey (allowed : Bool) : Scan Unit := modify fun s => { s with keyAllowed := allowed }

/-- The problem of a key that had to be simple but found no `:` on its line. -/
def lostKey {α : Type} (key : SimpleKey) : Scan α :=
  scanFail "while scanning a simple key" key.mark "could not find expected ':'"

/-- Forgets the simple key of the innermost level; a required one is a problem. -/
def removeSimpleKey : Scan Unit := do
  let s ← get
  match s.keys with
  | key :: outer =>
    if key.possible && key.required then lostKey key
    set { s with keys := { key with possible := false } :: outer }
  | [] => pure ()

/-- Records that a simple key may start here, when one may: it is required in block context
when it stands at the indentation column. -/
def saveSimpleKey : Scan Unit := do
  let s ← get
  if s.keyAllowed then
    let required := s.flowLevel == 0 && s.indent == (s.mark.column : Int)
    let key : SimpleKey := ⟨true, required, s.taken + s.queue.length, s.mark⟩
    removeSimpleKey
    modify fun s => { s with keys := key :: s.keys.drop 1 }

/-- Forgets the simple keys that can no longer be keys: a key must stay on one line and within
1024 characters. A required one is a problem. Outer levels are looked at first. -/
def staleSimpleKeys : Scan Unit := do
  let s ← get
  let stale (key : SimpleKey) : Bool :=
    key.possible && (key.mark.line < s.mark.line || key.mark.index + 1024 < s.mark.index)
  match s.keys.reverse.find? (fun key => stale key && key.required) with
  | some key => lostKey key
  | none =>
    set { s with keys := s.keys.map fun key => if stale key then { key with possible := false } else key }

/-- Enters a flow collection: a new, empty simple-key slot. -/
def increaseFlowLevel : Scan Unit :=
  modify fun s => { s with keys := SimpleKey.none :: s.keys, flowLevel := s.flowLevel + 1 }

/-- Leaves a flow collection. -/
def decreaseFlowLevel : Scan Unit :=
  modify fun s =>
    if s.flowLevel == 0 then s else { s with flowLevel := s.flowLevel - 1, keys := s.keys.drop 1 }

/-- In block context, opens a collection at a column deeper than the current indentation: the
column is pushed and the start token queued, at the back or in front of a numbered token. -/
def rollIndent (column : Nat) (number : Option Nat) (kind : TokenKind) (mark : Mark) : Scan Unit := do
  let s ← get
  if s.flowLevel == 0 && s.indent < (column : Int) then
    set { s with indents := s.indent :: s.indents, indent := column }
    match number with
    | none => enqueue ⟨kind, mark, mark⟩
    | some n => insertToken n ⟨kind, mark, mark⟩

/-- The indentation after closing every level deeper than a column, and a block end for each. -/
def closeLevels (column : Int) (mark : Mark) : Int → List Int → Int × List Int × List Token
  | indent, outer :: rest =>
    if indent > column then
      let (i, stack, ends) := closeLevels column mark outer rest
      (i, stack, ⟨.blockEnd, mark, mark⟩ :: ends)
    else (indent, outer :: rest, [])
  | indent, [] => (indent, [], [])

/-- In block context, closes every collection deeper than a column. -/
def unrollIndent (column : Int) : Scan Unit :=
  modify fun s =>
    if s.flowLevel != 0 then s
    else
      let (indent, indents, ends) := closeLevels column s.mark s.indent s.indents
      { s with indent, indents, queue := s.queue ++ ends }

end FleetIssues.Yaml
