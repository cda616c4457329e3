import FleetIssues.Cli.Layout
/-! Why a command line is refused, the text that says so, and the names it suggests instead. -/

namespace FleetIssues.Cli

/-- A reason to refuse a command line. Options are named as usage writes them. -/
inductive Fault where
  /-- An option that takes a value was given none. -/
  | missingValue (option : String)
  /-- A value that cannot be read. -/
  | invalidValue (value option reason : String)
  /-- An option given twice that may appear once. -/
  | repeated (option : String)
  /-- A flag given a value after `=`. -/
  | unexpectedValue (value option : String)
  /-- An argument that is no option of the level. -/
  | unexpectedArgument (argument : String)
  /-- A word where a subcommand was expected. -/
  | unrecognizedSubcommand (word : String)
  /-- A subcommand name after `--`. -/
  | escapedSubcommand (name : String)
  /-- Required options that were not given. -/
  | missingArguments (options : List String)
  /-- No subcommand was given. -/
  | missingSubcommand (program : String) (names : List String)
  deriving DecidableEq, Repr

/-- A hint that follows the reason. -/
inductive Tip where
  /-- Subcommands similar to the word given. -/
  | similarCommands (names : List String)
  /-- An option similar to the one given. -/
  | similarOption (option : String)
  /-- An option of that name exists in a subcommand. -/
  | optionOfCommand (command option : String)
  /-- A subcommand that `--` keeps from being one. -/
  | removeEscape (name : String)
  deriving DecidableEq, Repr

/-- A refusal: the reason, the tips, the usage shown if any, and whether to point to `--help`. -/
structure Refusal where
  fault : Fault
  tips : List Tip
  usage : Option String
  pointsToHelp : Bool
  deriving DecidableEq, Repr

/-- Names in quotes, separated by commas. -/
def quotedList (names : List String) : String :=
  ", ".intercalate (names.map fun n => "'" ++ n ++ "'")

/-- The sentence of a fault. -/
def Fault.message : Fault → String
  | .missingValue option => "a value is required for '" ++ option ++ "' but none was supplied"
  | .invalidValue value option reason =>
    "invalid value '" ++ value ++ "' for '" ++ option ++ "': " ++ reason
  | .repeated option => "the argument '" ++ option ++ "' cannot be used multiple times"
  | .unexpectedValue value option =>
    "unexpected value '" ++ value ++ "' for '" ++ option ++ "' found; no more were expected"
  | .unexpectedArgument argument => "unexpected argument '" ++ argument ++ "' found"
  | .unrecognizedSubcommand word => "unrecognized subcommand '" ++ word ++ "'"
  | .escapedSubcommand name => "unexpected argument '" ++ name ++ "' found"
  | .missingArguments options =>
    "the following required arguments were not provided:" ++
      String.join (options.map fun o => "\n  " ++ o)
  | .missingSubcommand program names =>
    "'" ++ program ++ "' requires a subcommand but one was not provided\n  [subcommands: " ++
      ", ".intercalate names ++ "]"

/-- The words of a tip. -/
def Tip.message : Tip → String
  | .similarCommands [name] => "a similar subcommand exists: '" ++ name ++ "'"
  | .similarCommands names => "some similar subcommands exist: " ++ quotedList names
  | .similarOption option => "a similar argument exists: '" ++ option ++ "'"
  | .optionOfCommand command option => "'" ++ command ++ " " ++ option ++ "' exists"
  | .removeEscape name =>
    "subcommand '" ++ name ++ "' exists; to use it, remove the '--' before it"

/-- The text of a refusal. -/
def Refusal.text (r : Refusal) : String :=
  let tips := if r.tips.isEmpty then ""
    else "\n" ++ String.join (r.tips.map fun t => "\n  tip: " ++ t.message)
  let usage := match r.usage with
    | some u => "\n\nUsage: " ++ u
    | none => ""
  let pointer := if r.pointsToHelp then "\n\nFor more information, try '--help'.\n" else "\n"
  "error: " ++ r.fault.message ++ tips ++ usage ++ pointer

/-- A refusal with no tip and no usage that points to `--help`. -/
def Fault.bare (f : Fault) : Refusal := ⟨f, [], none, true⟩

/-- A refusal with usage that points to `--help`. -/
def Fault.withUsage (f : Fault) (usage : String) (tips : List Tip) : Refusal :=
  ⟨f, tips, some usage, true⟩

end FleetIssues.Cli

namespace FleetIssues.Cli

/-- Matches the characters of the first word, from index `i` on, against the characters of the
second word within the window, each character of the second word matched at most once. Gives
the marks on the second word and the matched characters of the first word in order. -/
def matchWithin (window : Nat) (second : Array Char) :
    Nat → Array Bool → List Char → Array Bool × List Char
  | _, marks, [] => (marks, [])
  | i, marks, c :: rest =>
    let lo := i - window
    let hi := min second.size (i + window + 1)
    let free (j : Nat) : Bool := second.getD j ' ' == c && !marks.getD j true
    match (List.range' lo (hi - lo)).find? free with
    | some j =>
      let (marks', matched) := matchWithin window second (i + 1) (marks.set! j true) rest
      (marks', c :: matched)
    | none => matchWithin window second (i + 1) marks rest

/-- The number of places where two lists of matched characters differ. -/
def mismatches : List Char → List Char → Nat
  | a :: as, b :: bs => (if a == b then 0 else 1) + mismatches as bs
  | _, _ => 0

/-- The Jaro similarity of two words, between `0` and `1`. -/
def jaro (a b : String) : Float :=
  let first := a.toList
  let second := b.toList
  if first.isEmpty && second.isEmpty then 1.0
  else if first.isEmpty || second.isEmpty then 0.0
  else
    let window := max first.length second.length / 2 - 1
    let (marks, matchedFirst) :=
      matchWithin window second.toArray 0 (Array.replicate second.length false) first
    let matchedSecond := (second.zip marks.toList).filterMap fun (c, m) => if m then some c else none
    let m := matchedFirst.length
    if m == 0 then 0.0
    else
      let t := mismatches matchedFirst matchedSecond / 2
      let mf := m.toFloat
      (mf / first.length.toFloat + mf / second.length.toFloat + (m - t).toFloat / mf) / 3.0

/-- The binary64 number nearest to `0.7`, the least similarity that is not enough. -/
def similarityThreshold : Float := Float.ofBits 0x3FE6666666666666

/-- The names similar to a word, least similar first; names equally similar keep their order. -/
def similarNames (word : String) (names : List String) : List String :=
  let scored := names.filterMap fun name =>
    let score := jaro word name
    if score > similarityThreshold then some (score, name) else none
  (scored.mergeSort fun x y => decide (x.1 ≤ y.1)).map Prod.snd

end FleetIssues.Cli
