/-! Path patterns. -/

namespace FleetIssues.Route

/-- One member of a bracketed character set: a character, or an inclusive range. -/
inductive CharSpec where
  | single (c : Char)
  | range (lo hi : Char)
  deriving DecidableEq, Repr

/-- Whether a character belongs to a member of a set. -/
def CharSpec.admits (c : Char) : CharSpec → Bool
  | .single d => c == d
  | .range lo hi => lo ≤ c && c ≤ hi

/-- One step of a compiled pattern. -/
inductive PatternToken where
  | literal (c : Char)
  | anyChar
  | anySequence
  | anyComponents
  | anyWithin (specs : List CharSpec)
  | anyExcept (specs : List CharSpec)
  deriving DecidableEq, Repr

/-- Why a pattern does not compile. -/
inductive PatternFault where
  | wildcards
  | recursiveWildcards
  | invalidRange
  deriving DecidableEq, Repr

/-- The sentence that describes a pattern fault. -/
def PatternFault.message : PatternFault → String
  | .wildcards => "wildcards are either regular `*` or recursive `**`"
  | .recursiveWildcards => "recursive wildcards must form a single path component"
  | .invalidRange => "invalid range pattern"

/-- A pattern fault and the character position near which it lies. -/
structure PatternError where
  position : Nat
  fault : PatternFault
  deriving DecidableEq, Repr

/-- The text of a pattern error. -/
def PatternError.message (e : PatternError) : String :=
  s!"Pattern syntax error near position {e.position}: {e.fault.message}"

/-- A compiled pattern and the text it came from. -/
structure Pattern where
  text : String
  tokens : List PatternToken
  deriving DecidableEq, Repr

/-- Reads the members of a bracketed set: `a-z` is a range when three characters remain,
everything else a single character. -/
def parseCharSpecs : List Char → List CharSpec
  | a :: '-' :: b :: rest => .range a b :: parseCharSpecs rest
  | c :: rest => .single c :: parseCharSpecs rest
  | [] => []

/-- The number of leading stars of a text. -/
def leadingStars (cs : List Char) : Nat :=
  (cs.takeWhile (· == '*')).length

/-- Whether a character separates path components. -/
def isSeparator (c : Char) : Bool := c == '/'

/-- Compiles the rest of a pattern. `position` counts the characters already read, `previous`
is the character before the rest, and `tokens` the steps compiled so far, most recent first. -/
def compileFrom (position : Nat) (previous : Option Char) (tokens : List PatternToken) :
    List Char → Except PatternError (List PatternToken)
  | [] => .ok tokens.reverse
  | '?' :: rest => compileFrom (position + 1) (some '?') (.anyChar :: tokens) rest
  | '*' :: rest =>
    let count := 1 + leadingStars rest
    let after := rest.drop (count - 1)
    if count > 2 then .error ⟨position + 2, .wildcards⟩
    else if count == 2 then
      let startsComponent := position == 0 || previous.any isSeparator
      if !startsComponent then .error ⟨position - 1, .recursiveWildcards⟩
      else
        let collapsed := tokens.head? == some .anyComponents && tokens.length > 1
        let tokens' := if collapsed then tokens else .anyComponents :: tokens
        match after.head? with
        | none => .ok tokens'.reverse
        | some c =>
          if isSeparator c then compileFrom (position + 3) (some c) tokens' (rest.drop count)
          else .error ⟨position + 2, .recursiveWildcards⟩
    else compileFrom (position + 1) (some '*') (.anySequence :: tokens) rest
  | '[' :: rest =>
    match rest with
    | '!' :: a :: b :: more =>
      match (b :: more).findIdx? (· == ']') with
      | some j =>
        let inner := (a :: b :: more).take (j + 1)
        compileFrom (position + j + 4) (some ']')
          (.anyExcept (parseCharSpecs inner) :: tokens) ((b :: more).drop (j + 1))
      | none => .error ⟨position, .invalidRange⟩
    | a :: b :: more =>
      if a == '!' then .error ⟨position, .invalidRange⟩
      else
        match (b :: more).findIdx? (· == ']') with
        | some j =>
          let inner := (a :: b :: more).take (j + 1)
          compileFrom (position + j + 3) (some ']')
            (.anyWithin (parseCharSpecs inner) :: tokens) ((b :: more).drop (j + 1))
        | none => .error ⟨position, .invalidRange⟩
    | _ => .error ⟨position, .invalidRange⟩
  | c :: rest => compileFrom (position + 1) (some c) (.literal c :: tokens) rest
termination_by cs => cs.length
decreasing_by
  all_goals (simp only [List.length_cons, List.length_drop]; try omega)

/-- Compiles a pattern text. -/
def Pattern.compile (text : String) : Except PatternError Pattern :=
  (compileFrom 0 none [] text.toList).map (fun tokens => ⟨text, tokens⟩)

/-- How an attempt to match the rest of a pattern ended: a match, no match of this rest, or
no match of any rest, because the text ran out. -/
inductive MatchResult where
  | matched
  | restFails
  | textExhausted
  deriving DecidableEq, Repr

/-- Tries the rest of a pattern after each further character that a run consumes. A run of
components only ends after a separator; when the text runs out, the rest is tried on the empty
text. -/
def scanRun (components : Bool) (tryRest : Bool → List Char → MatchResult) :
    Bool → List Char → MatchResult
  | afterSeparator, [] => tryRest afterSeparator []
  | _, c :: more =>
    let afterSeparator := isSeparator c
    if components && !afterSeparator then scanRun components tryRest afterSeparator more
    else
      match tryRest afterSeparator more with
      | .restFails => scanRun components tryRest afterSeparator more
      | result => result

/-- Whether a single-character step admits a character. -/
def PatternToken.admits (c : Char) : PatternToken → Bool
  | .literal d => c == d
  | .anyChar => true
  | .anyWithin specs => specs.any (CharSpec.admits c)
  | .anyExcept specs => !specs.any (CharSpec.admits c)
  | .anySequence => true
  | .anyComponents => true

/-- Matches pattern steps against a text; `afterSeparator` tells whether the text follows a
separator or starts the path. -/
def matchFrom : List PatternToken → Bool → List Char → MatchResult
  | [], _, text => if text.isEmpty then .matched else .restFails
  | .anySequence :: rest, afterSeparator, text =>
    match matchFrom rest afterSeparator text with
    | .restFails => scanRun false (matchFrom rest) afterSeparator text
    | result => result
  | .anyComponents :: rest, afterSeparator, text =>
    match matchFrom rest afterSeparator text with
    | .restFails => scanRun true (matchFrom rest) afterSeparator text
    | result => result
  | token :: rest, _, text =>
    match text with
    | [] => .textExhausted
    | c :: more => if token.admits c then matchFrom rest (isSeparator c) more else .restFails

/-- Whether a pattern matches a whole text. -/
def Pattern.accepts (p : Pattern) (text : String) : Bool :=
  matchFrom p.tokens true text.toList == .matched

end FleetIssues.Route
