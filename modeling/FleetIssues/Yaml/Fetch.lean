import FleetIssues.Yaml.Scalar
import FleetIssues.Text.Utf8
/-! Fetching tokens: the YAML scanner's main loop. -/

namespace FleetIssues.Yaml

/-- Whether a character may appear in a tag's URI; inside `!<...>` also `,`, `[` and `]`. -/
def isUriChar (verbatim : Bool) (c : Char) : Bool :=
  isWordChar c || ";/?:@&=+$.%!~*'()".contains c || (verbatim && ",[]".contains c)

/-- Reads one URI escape of a tag, `%` and two hexadecimal digits, and gives its octet. -/
def uriOctet (context : String) (start : Mark) : Scan Nat := do
  let rest ← ahead
  match rest with
  | '%' :: h :: l :: _ =>
    match hexValue h, hexValue l with
    | some hv, some lv => skip; skip; skip; return hv * 16 + lv
    | _, _ => scanFail context start "did not find URI escaped octet"
  | _ => scanFail context start "did not find URI escaped octet"

/-- The number of octets of a UTF-8 sequence, by its leading octet; zero when it cannot lead. -/
def utf8Width (octet : Nat) : Nat :=
  if octet < 0x80 then 1
  else if octet / 32 == 6 then 2
  else if octet / 16 == 14 then 3
  else if octet / 8 == 30 then 4
  else 0

/-- Reads the URI escapes of one UTF-8 character of a tag. -/
def uriEscapes (context : String) (start : Mark) : Scan (List UInt8) := do
  let lead ← uriOctet context start
  let width := utf8Width lead
  if width == 0 then scanFail context start "found an incorrect leading UTF-8 octet"
  let mut octets := [lead.toUInt8]
  for _ in List.range (width - 1) do
    let octet ← uriOctet context start
    if octet / 64 != 2 then scanFail context start "found an incorrect trailing UTF-8 octet"
    octets := octets ++ [octet.toUInt8]
  return octets

/-- Reads the URI characters of a tag after a head already read. -/
def tagUri (verbatim directive : Bool) (head : String) (start : Mark) : Scan String := do
  let context := if directive then "while parsing a %TAG directive" else "while parsing a tag"
  let rec go : Nat → List UInt8 → Nat → Scan (List UInt8 × Nat)
    | 0, acc, n => pure (acc, n)
    | fuel + 1, acc, n => do
      match (← ahead) with
      | c :: _ =>
        if isUriChar verbatim c then
          if c == '%' then
            let octets ← uriEscapes context start
            go fuel (acc ++ octets) (n + 1)
          else
            let text ← readChar
            go fuel (acc ++ text.toUTF8.toList) (n + 1)
        else pure (acc, n)
      | [] => pure (acc, n)
  let (octets, n) ← go ((← ahead).length + 1) [] 0
  let headChars := head.length
  if headChars + n == 0 then scanFail context start "did not find expected tag URI"
  let text := match Text.decodeUtf8 octets with
    | .ok t => t
    | .error _ => String.ofList (octets.map fun b => Char.ofNat b.toNat)
  return String.ofList (head.toList.drop 1) ++ text

/-- Reads a tag handle: `!`, word characters, and a closing `!` when there is one. -/
def tagHandle (directive : Bool) (start : Mark) : Scan String := do
  if !charIs (← ahead) 0 '!' then
    scanFail (if directive then "while scanning a tag directive" else "while scanning a tag") start
      "did not find expected '!'"
  let first ← readChar
  let word ← readRun isWordChar
  if charIs (← ahead) 0 '!' then
    let last ← readChar
    return first ++ word ++ last
  else
    if directive && !(first ++ word == "!") then
      scanFail "while parsing a tag directive" start "did not find expected '!'"
    return first ++ word

/-- Scans a tag: verbatim `!<uri>`, `!handle!suffix`, `!suffix`, or `!` alone. -/
def scanTag : Scan Token := do
  let start ← here
  let (handle, suffix) ← do
    if charIs (← ahead) 1 '<' then
      skip; skip
      let suffix ← tagUri true false "" start
      if !charIs (← ahead) 0 '>' then
        scanFail "while scanning a tag" start "did not find the expected '>'"
      skip
      pure ("", suffix)
    else
      let handle ← tagHandle false start
      if handle.length > 1 && handle.startsWith "!" && handle.endsWith "!" then
        pure (handle, ← tagUri false false "" start)
      else
        let suffix ← tagUri false false handle start
        if suffix.isEmpty then pure ("", "!") else pure ("!", suffix)
  let s ← get
  if !blankzAt s.rest 0 && !(s.flowLevel != 0 && charIs s.rest 0 ',') then
    scanFail "while scanning a tag" start "did not find expected whitespace or line break"
  return ⟨.tag handle suffix, start, s.mark⟩

/-- Scans an anchor or an alias: the indicator, then word characters, followed by a blank or an
indicator that may follow a node. -/
def scanAnchor (isAlias : Bool) : Scan Token := do
  let start ← here
  skip
  let name ← readRun isWordChar
  let stop ← here
  let rest ← ahead
  let follows := blankzAt rest 0 ||
    (match rest with | c :: _ => "?:,]\x7d%@`".contains c | [] => true)
  if name.isEmpty || !follows then
    scanFail (if isAlias then "while scanning an alias" else "while scanning an anchor") start
      "did not find expected alphabetic or numeric character"
  return ⟨if isAlias then .alias name else .anchor name, start, stop⟩

/-- Reads one number of a version directive, at most nine digits. -/
def versionNumber (start : Mark) : Scan Nat := do
  let digits := runLength (fun c => '0' ≤ c && c ≤ '9') (← ahead)
  if digits > 9 then
    for _ in List.range 9 do skip
    scanFail "while scanning a %YAML directive" start "found extremely long version number"
  if digits == 0 then
    scanFail "while scanning a %YAML directive" start "did not find expected version number"
  let text ← readRun fun c => '0' ≤ c && c ≤ '9'
  return text.foldl (fun n c => n * 10 + (c.toNat - '0'.toNat)) 0

/-- Scans a directive line: `%YAML major.minor` or `%TAG handle prefix`, then blanks, a comment
and the line break. -/
def scanDirective : Scan Token := do
  let start ← here
  skip
  let name ← readRun isWordChar
  if name.isEmpty then
    scanFail "while scanning a directive" start "could not find expected directive name"
  if !blankzAt (← ahead) 0 then
    scanFail "while scanning a directive" start "found unexpected non-alphabetical character"
  let kind ← do
    if name == "YAML" then
      skipRun isBlank
      let major ← versionNumber start
      if !charIs (← ahead) 0 '.' then
        scanFail "while scanning a %YAML directive" start "did not find expected digit or '.' character"
      skip
      let minor ← versionNumber start
      pure (TokenKind.versionDirective major minor)
    else if name == "TAG" then
      skipRun isBlank
      let handle ← tagHandle true start
      if !blankAt (← ahead) 0 then
        scanFail "while scanning a %TAG directive" start "did not find expected whitespace"
      skipRun isBlank
      let pfx ← tagUri true true "" start
      if !blankzAt (← ahead) 0 then
        scanFail "while scanning a %TAG directive" start "did not find expected whitespace or line break"
      pure (TokenKind.tagDirective handle pfx)
    else scanFail "while scanning a directive" start "found unknown directive name"
  let stop ← here
  skipRun isBlank
  if charIs (← ahead) 0 '#' then skipToBreak
  if !breakzAt (← ahead) 0 then
    scanFail "while scanning a directive" start "did not find expected comment or line break"
  if breakAt (← ahead) 0 then skipLine
  return ⟨kind, start, stop⟩

/-- Moves past blanks, comments and line breaks to the next token. A byte order mark may start
a line; tabs are skipped only in flow context or where no simple key may start. A line break in
block context lets a simple key start. -/
def scanToNextToken : Nat → Scan Unit
  | 0 => pure ()
  | fuel + 1 => do
    let s ← get
    if s.mark.column == 0 && charIs s.rest 0 (Char.ofNat 0xFEFF) then skip
    let s ← get
    let tabs := s.flowLevel != 0 || !s.keyAllowed
    skipRun fun c => c == ' ' || (tabs && c == '\t')
    if charIs (← ahead) 0 '#' then skipToBreak
    if breakAt (← ahead) 0 then
      skipLine
      if (← get).flowLevel == 0 then allowKey true
      scanToNextToken fuel

/-- Queues a token scanned by a step, after the bookkeeping that comes before it. -/
def fetchWith (before : Scan Unit) (scan : Scan Token) : Scan Unit := do
  before
  enqueue (← scan)

/-- Queues a one-character token. -/
def fetchIndicator (kind : TokenKind) : Scan Unit := do
  let start ← here
  skip
  enqueue ⟨kind, start, ← here⟩

/-- Queues the stream start. -/
def fetchStreamStart : Scan Unit := do
  modify fun s => { s with indent := -1, keys := SimpleKey.none :: s.keys, keyAllowed := true,
                           streamStarted := true }
  let m ← here
  enqueue ⟨.streamStart, m, m⟩

/-- Queues the stream end, after closing every block collection. -/
def fetchStreamEnd : Scan Unit := do
  modify fun s =>
    if s.mark.column != 0 then { s with mark := ⟨s.mark.index, s.mark.line + 1, 0⟩ } else s
  unrollIndent (-1)
  removeSimpleKey
  allowKey false
  let m ← here
  enqueue ⟨.streamEnd, m, m⟩

/-- Queues `---` or `...`. -/
def fetchDocumentIndicator (kind : TokenKind) : Scan Unit := do
  unrollIndent (-1)
  removeSimpleKey
  allowKey false
  let start ← here
  skip; skip; skip
  enqueue ⟨kind, start, ← here⟩

/-- Queues `-`, opening a block sequence when it stands deeper than the current one. -/
def fetchBlockEntry : Scan Unit := do
  let s ← get
  if s.flowLevel == 0 then
    if !s.keyAllowed then scanFailHere "block sequence entries are not allowed in this context"
    rollIndent s.mark.column none .blockSequenceStart s.mark
  removeSimpleKey
  allowKey true
  fetchIndicator .blockEntry

/-- Queues `?`, opening a block mapping when it stands deeper than the current one. -/
def fetchKey : Scan Unit := do
  let s ← get
  if s.flowLevel == 0 then
    if !s.keyAllowed then scanFailHere "mapping keys are not allowed in this context"
    rollIndent s.mark.column none .blockMappingStart s.mark
  removeSimpleKey
  allowKey ((← get).flowLevel == 0)
  fetchIndicator .key

/-- Queues `:`. After a simple key, the key token, and a block mapping start when needed, go in
front of the key's first token. -/
def fetchValue : Scan Unit := do
  let s ← get
  match s.keys with
  | key :: outer =>
    if key.possible then
      insertToken key.number ⟨.key, key.mark, key.mark⟩
      rollIndent key.mark.column (some key.number) .blockMappingStart key.mark
      modify fun s => { s with keys := { key with possible := false } :: outer }
      allowKey false
    else
      if s.flowLevel == 0 then
        if !s.keyAllowed then scanFailHere "mapping values are not allowed in this context"
        rollIndent s.mark.column none .blockMappingStart s.mark
      allowKey (s.flowLevel == 0)
  | [] => pure ()
  fetchIndicator .value

/-- Whether a character cannot start a plain scalar by itself. -/
def isIndicator (c : Char) : Bool := "-?:,[]\x7b\x7d#&*!|>'\"%@`".contains c

/-- Scans and queues the next token after the stream start. -/
def fetchFollowingToken : Scan Unit := do
  scanToNextToken ((← ahead).length + 1)
  staleSimpleKeys
  unrollIndent (← here).column
  let s ← get
  let rest := s.rest
  let flow := s.flowLevel != 0
  let col0 := s.mark.column == 0
  match rest with
  | [] => fetchStreamEnd
  | c :: _ =>
    if col0 && c == '%' then fetchWith (do unrollIndent (-1); removeSimpleKey; allowKey false) scanDirective
    else if col0 && markerAhead rest '-' then fetchDocumentIndicator .documentStart
    else if col0 && markerAhead rest '.' then fetchDocumentIndicator .documentEnd
    else if c == '[' || c == '{' then do
      saveSimpleKey; increaseFlowLevel; allowKey true
      fetchIndicator (if c == '[' then .flowSequenceStart else .flowMappingStart)
    else if c == ']' || c == '}' then do
      removeSimpleKey; decreaseFlowLevel; allowKey false
      fetchIndicator (if c == ']' then .flowSequenceEnd else .flowMappingEnd)
    else if c == ',' then do removeSimpleKey; allowKey true; fetchIndicator .flowEntry
    else if c == '-' && blankzAt rest 1 then fetchBlockEntry
    else if c == '?' && (flow || blankzAt rest 1) then fetchKey
    else if c == ':' && (flow || blankzAt rest 1) then fetchValue
    else if c == '*' || c == '&' then fetchWith (do saveSimpleKey; allowKey false) (scanAnchor (c == '*'))
    else if c == '!' then fetchWith (do saveSimpleKey; allowKey false) scanTag
    else if (c == '|' || c == '>') && !flow then
      fetchWith (do removeSimpleKey; allowKey true) (scanBlockScalar (c == '|'))
    else if c == '\'' || c == '"' then
      fetchWith (do saveSimpleKey; allowKey false) (scanFlowScalar (c == '\''))
    else if !(blankzAt rest 0 || isIndicator c) || (c == '-' && !blankAt rest 1) ||
        (!flow && (c == '?' || c == ':') && !blankzAt rest 1) then
      fetchWith (do saveSimpleKey; allowKey false) scanPlainScalar
    else scanFail "while scanning for the next token" s.mark "found character that cannot start any token"

/-- Scans and queues the next token: the stream start first. -/
def fetchNextToken : Scan Unit := do
  if (← get).streamStarted then fetchFollowingToken else fetchStreamStart

/-- Whether the scanner must fetch before handing out the front token: the queue is empty, or a
simple key could still claim the front token. Stale keys are forgotten first. -/
def needMoreTokens : Scan Bool := do
  if (← get).queue.isEmpty then return true
  staleSimpleKeys
  let s ← get
  return s.keys.any fun key => key.possible && key.number == s.taken

/-- Fetches tokens until the front one is settled. -/
def fetchMoreTokens : Nat → Scan Unit
  | 0 => pure ()
  | fuel + 1 => do
    if ← needMoreTokens then
      fetchNextToken
      fetchMoreTokens fuel
    else modify fun s => { s with available := true }

/-- The token at the front of the queue. -/
def peekToken : Scan Token := do
  if !(← get).available then fetchMoreTokens ((← ahead).length + 8)
  match (← get).queue with
  | token :: _ => return token
  | [] => scanFailHere "did not find expected <stream-end>"

/-- Takes the token at the front of the queue. -/
def skipToken : Scan Unit :=
  modify fun s => match s.queue with
    | token :: rest =>
      { s with queue := rest, taken := s.taken + 1, available := false,
               streamEnded := token.kind == .streamEnd }
    | [] => { s with available := false }

end FleetIssues.Yaml
