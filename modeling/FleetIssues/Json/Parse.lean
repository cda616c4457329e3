import FleetIssues.Json.Number
import FleetIssues.Json.Value
/-! Reading JSON values from text. -/

namespace FleetIssues.Json

open Decimal

/-- The deepest nesting of arrays and objects, counting the outermost. -/
def nestingLimit : Nat := 128

/-- The value of a number as read. -/
def ReadNumber.toValue : ReadNumber → Value
  | .natural n => .number (.natural n)
  | .negative i => .number (.negative i)
  | .double f => .number (.double (Binary64.ofFloat f))

/-- Looks for the next element of an array. `first` tells whether none was read yet. Answers
whether an element follows; the closing bracket is left in place. -/
def nextElement (first : Bool) : Reader Bool := do
  match ← skipBlanks with
  | some ']' => return false
  | some ',' =>
    if first then return true
    else do
      bump
      match ← skipBlanks with
      | some ']' => failAhead .trailingComma
      | some _ => return true
      | none => failAhead .eofWhileParsingValue
  | some _ => if first then return true else failAhead .expectedListCommaOrEnd
  | none => failAhead .eofWhileParsingList

/-- Reads a key at a looked-at character: a quote starts it, a closing brace after a comma is
a trailing comma. -/
def readKeyAt : Option Char → Reader (Option String)
  | some '"' => some <$> readString
  | some '}' => failAhead .trailingComma
  | some _ => failAhead .keyMustBeAString
  | none => failAhead .eofWhileParsingValue

/-- Looks for the next key of an object, and reads it. `first` tells whether none was read yet.
The closing brace is left in place. -/
def nextKey (first : Bool) : Reader (Option String) := do
  match ← skipBlanks with
  | some '}' => return none
  | some ',' =>
    if first then readKeyAt (some ',')
    else do bump; readKeyAt (← skipBlanks)
  | some c => if first then readKeyAt (some c) else failAhead .expectedObjectCommaOrEnd
  | none => failAhead .eofWhileParsingObject

/-- Takes the colon between a key and its value. -/
def expectColon : Reader Unit := do
  match ← skipBlanks with
  | some ':' => bump
  | some _ => failAhead .expectedColon
  | none => failAhead .eofWhileParsingObject

/-- Closes an array whose reader stopped: the bracket must follow. The outcome is a value, so
that a reader that failed first can still take the bracket. -/
def closeArray : Reader (Except ReadError Unit) := do
  match ← skipBlanks with
  | some ']' => do bump; return .ok ()
  | some ',' => do
    bump
    let cursor := (← get).skipBlanks
    set cursor
    match cursor.rest.head? with
    | some ']' => return .error ⟨.fault .trailingComma, some cursor.peekPosition⟩
    | _ => return .error ⟨.fault .trailingCharacters, some cursor.peekPosition⟩
  | some _ => return .error ⟨.fault .trailingCharacters, some (← get).peekPosition⟩
  | none => return .error ⟨.fault .eofWhileParsingList, some (← get).peekPosition⟩

/-- Closes an object whose reader stopped: the brace must follow. The outcome is a value, so
that a reader that failed first can still take the brace. -/
def closeObject : Reader (Except ReadError Unit) := do
  match ← skipBlanks with
  | some '}' => do bump; return .ok ()
  | some ',' => return .error ⟨.fault .trailingComma, some (← get).peekPosition⟩
  | some _ => return .error ⟨.fault .trailingCharacters, some (← get).peekPosition⟩
  | none => return .error ⟨.fault .eofWhileParsingObject, some (← get).peekPosition⟩

/-- Runs a container reader and then closes the container; an error of the reader wins over
one of the closing. -/
def closing {α : Type} (body : Reader α) (close : Reader (Except ReadError Unit)) : Reader α := do
  let result ← tryCatch (Except.ok <$> body) (fun e => pure (Except.error e))
  let closed ← close
  match result, closed with
  | .ok a, .ok () => return a
  | .error e, _ => throw e
  | .ok _, .error e => throw e

/-- Enters a container: one level less of nesting is left, and none left is an error at the
opening bracket. -/
def enter (depth : Nat) : Reader Nat := do
  if depth ≤ 1 then failAhead .recursionLimitExceeded
  else do bump; return depth - 1

/-- Reads array elements with an element reader, until the closing bracket. -/
def readElements {α : Type} (element : Reader α) : Nat → Bool → List α → Reader (List α)
  | 0, _, acc => return acc.reverse
  | fuel + 1, first, acc => do
    if ← nextElement first then readElements element fuel false ((← element) :: acc)
    else return acc.reverse

/-- Reads object members with a value reader, until the closing brace. -/
def readMembers {α : Type} (value : Reader α) :
    Nat → Bool → List (String × α) → Reader (List (String × α))
  | 0, _, acc => return acc.reverse
  | fuel + 1, first, acc => do
    match ← nextKey first with
    | none => return acc.reverse
    | some key => do
      expectColon
      let v ← value
      readMembers value fuel false ((key, v) :: acc)

/-- Reads a JSON value with a number of nesting levels left. -/
def readValue : Nat → Reader Value
  | 0 => failAhead .recursionLimitExceeded
  | depth + 1 => do
    match ← skipBlanks with
    | none => failAhead .eofWhileParsingValue
    | some c =>
      match c with
      | 'n' => do bump; expectWord ['u', 'l', 'l']; return .null
      | 't' => do bump; expectWord ['r', 'u', 'e']; return .bool true
      | 'f' => do bump; expectWord ['a', 'l', 's', 'e']; return .bool false
      | '-' => do bump; ReadNumber.toValue <$> readNumber false
      | '"' => Value.string <$> readString
      | '[' => do
        let inner ← enter (depth + 1)
        let items ← closing (do readElements (readValue depth) (← fuelLeft) true []) closeArray
        let _ := inner
        return .array items
      | '{' => do
        let inner ← enter (depth + 1)
        let members ← closing (do readMembers (readValue depth) (← fuelLeft) true []) closeObject
        let _ := inner
        return Value.sortedObject members
      | c =>
        if isDigitChar c then ReadNumber.toValue <$> readNumber true
        else failAhead .expectedSomeValue

/-- Skips the blanks at the end of a text; anything else left is an error. -/
def expectEnd : Reader Unit := do
  match ← skipBlanks with
  | some _ => failAhead .trailingCharacters
  | none => pure ()

/-- Reads a whole text as one JSON value. -/
def Value.parse (text : String) : Except ReadError Value :=
  (do let v ← readValue nestingLimit; expectEnd; return v).run' (Cursor.start text)

/-- Skips a scalar value whose first character is given, checking its form. -/
def skipScalar (c : Char) : Reader Unit := do
  match c with
  | 'n' => do bump; expectWord ['u', 'l', 'l']
  | 't' => do bump; expectWord ['r', 'u', 'e']
  | 'f' => do bump; expectWord ['a', 'l', 's', 'e']
  | '-' => do bump; skipNumber
  | '"' => do bump; skipStringBody (← fuelLeft)
  | c => if isDigitChar c then skipNumber else failAhead .expectedSomeValue

/-- After a value inside open containers (innermost first): takes commas and closing brackets
until another value is due, and answers the containers still open, or none when the outermost
closed. `afterValue` tells whether a value was just read. -/
def settle : Nat → Bool → List Char → Reader (Option (List Char))
  | 0, _, frames => return some frames
  | _, _, [] => return none
  | fuel + 1, afterValue, frame :: outer => do
    match ← skipBlanks with
    | some ',' =>
      if afterValue then do bump; return some (frame :: outer)
      else failAhead (if frame == '[' then .expectedSomeValue else .keyMustBeAString)
    | some ']' =>
      if frame == '[' then do bump; settle fuel true outer
      else if afterValue then failAhead .expectedObjectCommaOrEnd else return some (frame :: outer)
    | some '}' =>
      if frame == '{' then do bump; settle fuel true outer
      else if afterValue then failAhead .expectedListCommaOrEnd else return some (frame :: outer)
    | some _ =>
      if afterValue then
        failAhead (if frame == '[' then .expectedListCommaOrEnd else .expectedObjectCommaOrEnd)
      else return some (frame :: outer)
    | none => failAhead (if frame == '[' then .eofWhileParsingList else .eofWhileParsingObject)

/-- Before a value inside an object: takes the key and the colon. -/
def skipKey : Reader Unit := do
  match ← skipBlanks with
  | some '"' => do bump; skipStringBody (← fuelLeft)
  | some _ => failAhead .keyMustBeAString
  | none => failAhead .eofWhileParsingObject
  match ← skipBlanks with
  | some ':' => bump
  | some _ => failAhead .expectedColon
  | none => failAhead .eofWhileParsingObject

/-- Skips values inside open containers (innermost first) until the outermost closes. -/
def skipNested : Nat → List Char → Reader Unit
  | 0, _ => pure ()
  | fuel + 1, frames => do
    match ← skipBlanks with
    | none => failAhead .eofWhileParsingValue
    | some c =>
      if c == '[' || c == '{' then do
        bump
        match ← settle (← fuelLeft) false (c :: frames) with
        | none => pure ()
        | some open_ => do
          if open_.head? == some '{' then skipKey
          skipNested fuel open_
      else do
        skipScalar c
        match ← settle (← fuelLeft) true frames with
        | none => pure ()
        | some open_ => do
          if open_.head? == some '{' then skipKey
          skipNested fuel open_

/-- Skips one value, checking its form only. -/
def skipValue : Reader Unit := do
  skipNested (← fuelLeft) []

end FleetIssues.Json
