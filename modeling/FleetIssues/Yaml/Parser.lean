import FleetIssues.Yaml.Fetch
/-! Parsing YAML tokens into events. -/

namespace FleetIssues.Yaml

/-- What an event is. -/
inductive EventKind where
  | streamStart
  | streamEnd
  | documentStart
  | documentEnd
  | alias (name : String)
  | scalar (anchor tag : Option String) (value : String) (style : ScalarStyle)
  | sequenceStart (anchor tag : Option String)
  | sequenceEnd
  | mappingStart (anchor tag : Option String)
  | mappingEnd
  deriving DecidableEq, Repr

/-- An event and the mark where it starts. -/
structure Event where
  kind : EventKind
  start : Mark
  deriving DecidableEq, Repr

/-- Where the parser stands. -/
inductive ParseState where
  | streamStart
  | implicitDocumentStart
  | documentStart
  | documentContent
  | documentEnd
  | blockNode
  | blockSequenceFirstEntry
  | blockSequenceEntry
  | indentlessSequenceEntry
  | blockMappingFirstKey
  | blockMappingKey
  | blockMappingValue
  | flowSequenceFirstEntry
  | flowSequenceEntry
  | flowSequenceEntryMappingKey
  | flowSequenceEntryMappingValue
  | flowSequenceEntryMappingEnd
  | flowMappingFirstKey
  | flowMappingKey
  | flowMappingValue
  | flowMappingEmptyValue
  | finished
  deriving DecidableEq, Repr

/-- The parser: the scanner, the current state, the states to return to, the marks of open
collections, and the tag directives of the current document. -/
structure Parser where
  scanner : Scanner
  state : ParseState
  states : List ParseState
  marks : List Mark
  tags : List (String × String)

/-- A parser at the start of a text. -/
def Parser.ofText (text : List Char) : Parser := ⟨Scanner.ofText text, .streamStart, [], [], []⟩

/-- A parsing step: it changes the parser or stops at a problem. -/
abbrev Parse := StateT Parser (Except Problem)

/-- Runs a scanning step on the parser's scanner. -/
def liftScan {α : Type} (m : Scan α) : Parse α := do
  let p ← get
  match m.run p.scanner with
  | .ok (a, scanner) => set { p with scanner }; return a
  | .error e => throw e

/-- The token at the front. -/
def peekTok : Parse Token := liftScan peekToken

/-- Takes the token at the front. -/
def skipTok : Parse Unit := liftScan skipToken

/-- Sets the state. -/
def goTo (state : ParseState) : Parse Unit := modify fun p => { p with state }

/-- Returns to the state saved before a nested node. -/
def popState : Parse Unit :=
  modify fun p => match p.states with
    | s :: rest => { p with state := s, states := rest }
    | [] => { p with state := .finished }

/-- Saves a state to return to after a nested node. -/
def pushState (state : ParseState) : Parse Unit := modify fun p => { p with states := state :: p.states }

/-- Saves the mark where a collection begins. -/
def pushMark (mark : Mark) : Parse Unit := modify fun p => { p with marks := mark :: p.marks }

/-- Takes the mark of the innermost open collection. -/
def popMark : Parse Mark := do
  let p ← get
  match p.marks with
  | m :: rest => set { p with marks := rest }; return m
  | [] => return Mark.start

/-- Stops at a problem found at a mark. -/
def parseFail {α : Type} (problem : String) (mark : Mark) : Parse α := throw ⟨problem, mark, 0, none⟩

/-- Stops at a problem found at a mark while reading a construct that starts at another. -/
def parseFailIn {α : Type} (context : String) (contextMark : Mark) (problem : String) (mark : Mark) :
    Parse α :=
  throw ⟨problem, mark, 0, some (context, contextMark)⟩

/-- An empty plain scalar at a mark. -/
def emptyScalar (mark : Mark) : Event := ⟨.scalar none none "" .plain, mark⟩

/-- The tag handles every document knows. -/
def defaultTags : List (String × String) := [("!", "!"), ("!!", "tag:yaml.org,2002:")]

/-- Reads the directives before a document. A second `%YAML`, a version other than 1.1 or 1.2,
and a handle declared twice are problems. The default handles are added unless declared. -/
def processDirectives : Parse Unit := do
  let rec go : Nat → Bool → Parse Unit
    | 0, _ => pure ()
    | fuel + 1, versionSeen => do
      let token ← peekTok
      match token.kind with
      | .versionDirective major minor =>
        if versionSeen then parseFail "found duplicate %YAML directive" token.start
        if major != 1 || (minor != 1 && minor != 2) then
          parseFail "found incompatible YAML document" token.start
        skipTok
        go fuel true
      | .tagDirective handle pfx =>
        if (← get).tags.any (·.1 == handle) then parseFail "found duplicate %TAG directive" token.start
        modify fun p => { p with tags := p.tags ++ [(handle, pfx)] }
        skipTok
        go fuel versionSeen
      | _ => pure ()
  go ((← get).scanner.rest.length + 2) false
  for (handle, pfx) in defaultTags do
    if !(← get).tags.any (·.1 == handle) then
      modify fun p => { p with tags := p.tags ++ [(handle, pfx)] }

/-- The stream start. -/
def parseStreamStart : Parse Event := do
  let token ← peekTok
  if token.kind != .streamStart then parseFail "did not find expected <stream-start>" token.start
  goTo .implicitDocumentStart
  skipTok
  return ⟨.streamStart, token.start⟩

/-- Skips the document end markers before a document. -/
def skipDocumentEnds : Nat → Parse Token
  | 0 => peekTok
  | fuel + 1 => do
    let token ← peekTok
    if token.kind == .documentEnd then
      skipTok
      skipDocumentEnds fuel
    else return token

/-- Whether a token starts a document explicitly or ends the stream. -/
def TokenKind.opensDocument : TokenKind → Bool
  | .versionDirective .. | .tagDirective .. | .documentStart | .streamEnd => true
  | _ => false

/-- A document start: implicit when content follows directly, explicit after directives and
`---`, or the stream end. -/
def parseDocumentStart (implicit : Bool) : Parse Event := do
  let token ← if implicit then peekTok else skipDocumentEnds ((← get).scanner.rest.length + 2)
  if implicit && !token.kind.opensDocument then
    processDirectives
    pushState .documentEnd
    goTo .blockNode
    return ⟨.documentStart, token.start⟩
  else if token.kind != .streamEnd then
    let start := token.start
    processDirectives
    let token ← peekTok
    if token.kind != .documentStart then parseFail "did not find expected <document start>" token.start
    pushState .documentEnd
    goTo .documentContent
    skipTok
    return ⟨.documentStart, start⟩
  else
    goTo .finished
    skipTok
    return ⟨.streamEnd, token.start⟩

/-- A document end, explicit with `...` or implicit. The document's tag directives are
forgotten. -/
def parseDocumentEnd : Parse Event := do
  let token ← peekTok
  if token.kind == .documentEnd then skipTok
  modify fun p => { p with tags := [] }
  goTo .documentStart
  return ⟨.documentEnd, token.start⟩

/-- The full tag of a node, from its handle and suffix. -/
def resolveTag (handle suffix : String) (start tagMark : Mark) : Parse String := do
  if handle.isEmpty then return suffix
  match (← get).tags.find? (·.1 == handle) with
  | some (_, pfx) => return pfx ++ suffix
  | none => parseFailIn "while parsing a node" start "found undefined tag handle" tagMark

/-- A node: an alias, or properties followed by a scalar, a collection start, or nothing. -/
def parseNode (block indentless : Bool) : Parse Event := do
  let token ← peekTok
  match token.kind with
  | .alias name =>
    popState
    skipTok
    return ⟨.alias name, token.start⟩
  | _ =>
    let start := token.start
    let readAnchor : Parse (Option String) := do
      match (← peekTok).kind with
      | .anchor name => skipTok; return some name
      | _ => return none
    let readTag : Parse (Option (String × String × Mark)) := do
      let t ← peekTok
      match t.kind with
      | .tag handle suffix => skipTok; return some (handle, suffix, t.start)
      | _ => return none
    let (anchor, tagged) ← match token.kind with
      | .anchor _ => do let a ← readAnchor; let t ← readTag; pure (a, t)
      | .tag .. => do let t ← readTag; let a ← readAnchor; pure (a, t)
      | _ => pure (none, none)
    let tag ← match tagged with
      | some (handle, suffix, tagMark) => some <$> resolveTag handle suffix start tagMark
      | none => pure none
    let token ← peekTok
    match token.kind with
    | .blockEntry =>
      if indentless then
        goTo .indentlessSequenceEntry
        return ⟨.sequenceStart anchor tag, start⟩
      else
        if anchor.isSome || tag.isSome then
          popState
          return ⟨.scalar anchor tag "" .plain, start⟩
        parseFailIn (if block then "while parsing a block node" else "while parsing a flow node") start
          "did not find expected node content" token.start
    | .scalar value style =>
      popState
      skipTok
      return ⟨.scalar anchor tag value style, start⟩
    | .flowSequenceStart =>
      goTo .flowSequenceFirstEntry
      return ⟨.sequenceStart anchor tag, start⟩
    | .flowMappingStart =>
      goTo .flowMappingFirstKey
      return ⟨.mappingStart anchor tag, start⟩
    | .blockSequenceStart =>
      if block then
        goTo .blockSequenceFirstEntry
        return ⟨.sequenceStart anchor tag, start⟩
      else if anchor.isSome || tag.isSome then
        popState
        return ⟨.scalar anchor tag "" .plain, start⟩
      else
        parseFailIn "while parsing a flow node" start "did not find expected node content" token.start
    | .blockMappingStart =>
      if block then
        goTo .blockMappingFirstKey
        return ⟨.mappingStart anchor tag, start⟩
      else if anchor.isSome || tag.isSome then
        popState
        return ⟨.scalar anchor tag "" .plain, start⟩
      else
        parseFailIn "while parsing a flow node" start "did not find expected node content" token.start
    | _ =>
      if anchor.isSome || tag.isSome then
        popState
        return ⟨.scalar anchor tag "" .plain, start⟩
      parseFailIn (if block then "while parsing a block node" else "while parsing a flow node") start
        "did not find expected node content" token.start

/-- The content of an explicit document: a node, or an empty scalar when the document is
empty. -/
def parseDocumentContent : Parse Event := do
  let token ← peekTok
  match token.kind with
  | .versionDirective .. | .tagDirective .. | .documentStart | .documentEnd | .streamEnd =>
    popState
    return emptyScalar token.start
  | _ => parseNode true false

/-- An entry of a block sequence, or its end. -/
def parseBlockSequenceEntry (first : Bool) : Parse Event := do
  if first then
    pushMark (← peekTok).start
    skipTok
  let token ← peekTok
  match token.kind with
  | .blockEntry =>
    let mark := token.stop
    skipTok
    let next ← peekTok
    if next.kind != .blockEntry && next.kind != .blockEnd then
      pushState .blockSequenceEntry
      parseNode true false
    else
      goTo .blockSequenceEntry
      return emptyScalar mark
  | .blockEnd =>
    popState
    let _ ← popMark
    skipTok
    return ⟨.sequenceEnd, token.start⟩
  | _ =>
    parseFailIn "while parsing a block collection" (← popMark) "did not find expected '-' indicator"
      token.start

/-- An entry of a sequence written without indentation under a mapping key, or its end. -/
def parseIndentlessSequenceEntry : Parse Event := do
  let token ← peekTok
  match token.kind with
  | .blockEntry =>
    let mark := token.stop
    skipTok
    let next ← peekTok
    match next.kind with
    | .blockEntry | .key | .value | .blockEnd =>
      goTo .indentlessSequenceEntry
      return emptyScalar mark
    | _ =>
      pushState .indentlessSequenceEntry
      parseNode true false
  | _ =>
    popState
    return ⟨.sequenceEnd, token.start⟩

/-- A key of a block mapping, or its end. -/
def parseBlockMappingKey (first : Bool) : Parse Event := do
  if first then
    pushMark (← peekTok).start
    skipTok
  let token ← peekTok
  match token.kind with
  | .key =>
    let mark := token.stop
    skipTok
    let next ← peekTok
    match next.kind with
    | .key | .value | .blockEnd =>
      goTo .blockMappingValue
      return emptyScalar mark
    | _ =>
      pushState .blockMappingValue
      parseNode true true
  | .blockEnd =>
    popState
    let _ ← popMark
    skipTok
    return ⟨.mappingEnd, token.start⟩
  | _ =>
    parseFailIn "while parsing a block mapping" (← popMark) "did not find expected key" token.start

/-- A value of a block mapping, empty when there is no `:`. -/
def parseBlockMappingValue : Parse Event := do
  let token ← peekTok
  match token.kind with
  | .value =>
    let mark := token.stop
    skipTok
    let next ← peekTok
    match next.kind with
    | .key | .value | .blockEnd =>
      goTo .blockMappingKey
      return emptyScalar mark
    | _ =>
      pushState .blockMappingKey
      parseNode true true
  | _ =>
    goTo .blockMappingKey
    return emptyScalar token.start

/-- An entry of a flow sequence, or its end. An entry that is a key opens a one-pair mapping. -/
def parseFlowSequenceEntry (first : Bool) : Parse Event := do
  if first then
    pushMark (← peekTok).start
    skipTok
  let token ← peekTok
  let token ← do
    if token.kind != .flowSequenceEnd && !first then
      if token.kind == .flowEntry then
        skipTok
        peekTok
      else
        parseFailIn "while parsing a flow sequence" (← popMark) "did not find expected ',' or ']'"
          token.start
    else pure token
  match token.kind with
  | .flowSequenceEnd =>
    popState
    let _ ← popMark
    skipTok
    return ⟨.sequenceEnd, token.start⟩
  | .key =>
    goTo .flowSequenceEntryMappingKey
    skipTok
    return ⟨.mappingStart none none, token.start⟩
  | _ =>
    pushState .flowSequenceEntry
    parseNode false false

/-- The key of a one-pair mapping in a flow sequence. -/
def parseFlowSequenceEntryMappingKey : Parse Event := do
  let token ← peekTok
  match token.kind with
  | .value | .flowEntry | .flowSequenceEnd =>
    goTo .flowSequenceEntryMappingValue
    return emptyScalar token.stop
  | _ =>
    pushState .flowSequenceEntryMappingValue
    parseNode false false

/-- The value of a one-pair mapping in a flow sequence. -/
def parseFlowSequenceEntryMappingValue : Parse Event := do
  let token ← peekTok
  if token.kind == .value then
    skipTok
    let next ← peekTok
    if next.kind != .flowEntry && next.kind != .flowSequenceEnd then
      pushState .flowSequenceEntryMappingEnd
      return ← parseNode false false
    goTo .flowSequenceEntryMappingEnd
    return emptyScalar next.start
  goTo .flowSequenceEntryMappingEnd
  return emptyScalar token.start

/-- The end of a one-pair mapping in a flow sequence. -/
def parseFlowSequenceEntryMappingEnd : Parse Event := do
  let token ← peekTok
  goTo .flowSequenceEntry
  return ⟨.mappingEnd, token.start⟩

/-- A key of a flow mapping, or its end. -/
def parseFlowMappingKey (first : Bool) : Parse Event := do
  if first then
    pushMark (← peekTok).start
    skipTok
  let token ← peekTok
  let token ← do
    if token.kind != .flowMappingEnd && !first then
      if token.kind == .flowEntry then
        skipTok
        peekTok
      else
        parseFailIn "while parsing a flow mapping" (← popMark) "did not find expected ',' or '\x7d'"
          token.start
    else pure token
  match token.kind with
  | .flowMappingEnd =>
    popState
    let _ ← popMark
    skipTok
    return ⟨.mappingEnd, token.start⟩
  | .key =>
    skipTok
    let next ← peekTok
    match next.kind with
    | .value | .flowEntry | .flowMappingEnd =>
      goTo .flowMappingValue
      return emptyScalar next.start
    | _ =>
      pushState .flowMappingValue
      parseNode false false
  | _ =>
    pushState .flowMappingEmptyValue
    parseNode false false

/-- A value of a flow mapping; empty after a key with no `:`. -/
def parseFlowMappingValue (empty : Bool) : Parse Event := do
  let token ← peekTok
  if empty then
    goTo .flowMappingKey
    return emptyScalar token.start
  if token.kind == .value then
    skipTok
    let next ← peekTok
    if next.kind != .flowEntry && next.kind != .flowMappingEnd then
      pushState .flowMappingKey
      return ← parseNode false false
    goTo .flowMappingKey
    return emptyScalar next.start
  goTo .flowMappingKey
  return emptyScalar token.start

/-- The next event, or none once the stream has ended. -/
def parseEvent : Parse (Option Event) := do
  match (← get).state with
  | .streamStart => some <$> parseStreamStart
  | .implicitDocumentStart => some <$> parseDocumentStart true
  | .documentStart => some <$> parseDocumentStart false
  | .documentContent => some <$> parseDocumentContent
  | .documentEnd => some <$> parseDocumentEnd
  | .blockNode => some <$> parseNode true false
  | .blockSequenceFirstEntry => some <$> parseBlockSequenceEntry true
  | .blockSequenceEntry => some <$> parseBlockSequenceEntry false
  | .indentlessSequenceEntry => some <$> parseIndentlessSequenceEntry
  | .blockMappingFirstKey => some <$> parseBlockMappingKey true
  | .blockMappingKey => some <$> parseBlockMappingKey false
  | .blockMappingValue => some <$> parseBlockMappingValue
  | .flowSequenceFirstEntry => some <$> parseFlowSequenceEntry true
  | .flowSequenceEntry => some <$> parseFlowSequenceEntry false
  | .flowSequenceEntryMappingKey => some <$> parseFlowSequenceEntryMappingKey
  | .flowSequenceEntryMappingValue => some <$> parseFlowSequenceEntryMappingValue
  | .flowSequenceEntryMappingEnd => some <$> parseFlowSequenceEntryMappingEnd
  | .flowMappingFirstKey => some <$> parseFlowMappingKey true
  | .flowMappingKey => some <$> parseFlowMappingKey false
  | .flowMappingValue => some <$> parseFlowMappingValue false
  | .flowMappingEmptyValue => some <$> parseFlowMappingValue true
  | .finished => pure none

end FleetIssues.Yaml
