import FleetIssues.Yaml.Document
import FleetIssues.Yaml.Resolve
import FleetIssues.Schema.Shape
/-! Reading typed data from a YAML document, by shape. -/

namespace FleetIssues.Yaml

open Schema Json

/-- The path from the root of a document to a node. -/
inductive Path where
  | root
  | item (parent : Path) (index : Nat)
  | member (parent : Path) (key : String)
  | alias (parent : Path)
  | unknown (parent : Path)
  deriving DecidableEq, Repr

/-- The words of a path: `.` for the root, `a.b` for members, `a[0]` for items. -/
def Path.text : Path → String
  | .root => "."
  | .item p i => p.text ++ "[" ++ toString i ++ "]"
  | .member p key => (match p with | .root => "" | _ => p.text ++ ".") ++ key
  | .alias p => p.text
  | .unknown p => (match p with | .root => "" | _ => p.text ++ ".") ++ "?"

/-- Why a YAML document cannot be read by a shape. -/
inductive YamlError where
  | load (e : LoadError)
  | data (e : DataError) (mark : Mark) (path : Path)
  | endOfStream
  | moreThanOneDocument
  | repetitionLimit
  | recursionLimit (mark : Mark)
  | exhausted
  deriving DecidableEq, Repr

/-- ` at line L column C`, unless the mark stands at the very start. -/
def markSuffix (m : Mark) : String := if m.atStart then "" else " at " ++ m.text

/-- The sentence of a YAML error. -/
def YamlError.message : YamlError → String
  | .load (.problem p) => p.message
  | .load (.unknownAnchor m) => "unknown anchor" ++ markSuffix m
  | .data e m path =>
    (if path == .root then "" else path.text ++ ": ") ++ e.message .plain ++ markSuffix m
  | .endOfStream => "EOF while parsing a value"
  | .moreThanOneDocument =>
    "deserializing from YAML containing more than one document is not supported"
  | .repetitionLimit => "repetition limit exceeded"
  | .recursionLimit m => "recursion limit exceeded" ++ markSuffix m
  | .exhausted => "document too deeply nested"

/-- Reading a document: the number of alias jumps so far is kept, since it is bounded. -/
abbrev Read := StateT Nat (Except YamlError)

/-- The node at a position, or the error that stopped the document there. -/
def nodeAt (doc : Document) (pos : Nat) : Read (Node × Mark) :=
  match doc.nodes[pos]? with
  | some nm => pure nm
  | none => match doc.error with
    | some e => throw (.load e)
    | none => throw .endOfStream

/-- The position an alias leads to; every jump counts, and too many are an error. -/
def jump (doc : Document) (id : Nat) : Read Nat := do
  let count := (← get) + 1
  set count
  if count > doc.nodes.size * 100 then throw .repetitionLimit
  match doc.anchors.lookup id with
  | some target => pure target
  | none => throw .endOfStream

/-- The error for a node of the wrong kind where a shape's words were expected. -/
def mismatch (node : Node) (expected : String) (mark : Mark) (path : Path) : YamlError :=
  match node with
  | .scalar tag value style =>
    match scalarFound tag value style with
    | .ok found => .data (.invalidType found expected) mark path
    | .error e => .data e mark path
  | .sequenceStart => .data (.invalidType .seq expected) mark path
  | .mappingStart => .data (.invalidType .map expected) mark path
  | _ => .endOfStream

/-- Whether a node is an empty plain scalar, which reads as an empty collection. -/
def Node.isEmptyPlain : Node → Bool
  | .scalar _ value .plain => value.isEmpty
  | _ => false

/-- The position after the node starting at a position, its nested nodes skipped. -/
def skipNode (doc : Document) : Nat → Nat → Nat → Read Nat
  | 0, _, pos => pure pos
  | fuel + 1, depth, pos => do
    let (node, _) ← nodeAt doc pos
    let depth := match node with
      | .sequenceStart | .mappingStart => depth + 1
      | .sequenceEnd | .mappingEnd => depth - 1
      | _ => depth
    if depth == 0 then pure (pos + 1) else skipNode doc fuel depth (pos + 1)

/-- The JSON value of a resolved scalar. -/
def scalarValue (tag : Option String) (value : String) (style : ScalarStyle) (mark : Mark) (path : Path) :
    Except YamlError Value :=
  match scalarFound tag value style with
  | .error e => .error (.data e mark path)
  | .ok found =>
    match found with
    | .unit => .ok .null
    | .bool b => .ok (.bool b)
    | .unsigned n => .ok (.number (.natural n))
    | .signed i => .ok (Value.ofInt i)
    | .double x => .ok (if x.isFinite then .number (.double x) else .null)
    | .str s => .ok (.string s)
    | .other _ => .error (.data (.invalidType found "any valid JSON value") mark path)
    | _ => .ok .null

/-- The fields of a record: those found, the fallbacks of the missing ones, and an error for the
first missing field that has none. -/
def completeRecord (fields : List (String × Shape × Option Datum)) (found : List (Option Datum))
    (mark : Mark) (path : Path) : Read (List Datum) :=
  (fields.zip found).mapM fun ((key, _, fallback), value) =>
    match value, fallback with
    | some d, _ => pure d
    | none, some d => pure d
    | none, none => throw (.data (.missingField key) mark path)

mutual

/-- Reads the node at a position by a shape; gives the datum and the position after it.
`depth` is how many more collections may be entered. -/
def readNode (doc : Document) : Nat → Shape → Path → Nat → Nat → Read (Datum × Nat)
  | 0, _, _, _, _ => throw .exhausted
  | fuel + 1, shape, path, depth, pos => do
    let (node, mark) ← nodeAt doc pos
    let next := pos + 1
    match node with
    | .alias id => do
      let target ← jump doc id
      let (d, _) ← readNode doc fuel shape (.alias path) depth target
      return (d, next)
    | _ =>
    match shape with
    | .text =>
      match node with
      | .scalar _ value _ => return (.text value, next)
      | _ => throw (mismatch node shape.expecting mark path)
    | .size | .int64 =>
      let parsed := match node with
        | .scalar _ value ScalarStyle.plain =>
          if shape matches .size then parseUnsignedInt value u64Max
          else parseSignedInt value i64Min i64Max
        | _ => none
      match parsed with
      | some n => return (.int n, next)
      | none => throw (mismatch node shape.expecting mark path)
    | .optional inner =>
      let present := match node with
        | .scalar tag value style =>
          if style != .plain then some true
          else if tag == some (coreTag "null") then
            if isNullWord value then some false else none
          else if tag.isSome then some true
          else some (!value.isEmpty && !isNullWord value)
        | .empty => some false
        | _ => some true
      match present with
      | some true =>
        let (d, after) ← readNode doc fuel inner path depth pos
        return (.present d, after)
      | some false => return (.absent, next)
      | none =>
        match node with
        | .scalar _ value _ => throw (YamlError.data (.invalidValue (.str value) "null") mark path)
        | _ => throw YamlError.endOfStream
    | .list item =>
      match node with
      | .sequenceStart =>
        if depth == 0 then throw (.recursionLimit mark)
        let (items, after) ← readItems doc fuel item path (depth - 1) 0 next
        let (closing, _) ← nodeAt doc after
        return (.list items, if closing matches .sequenceEnd || closing matches .empty then after + 1 else after)
      | _ =>
        if node == .empty || node.isEmptyPlain then return (.list [], next)
        else throw (mismatch node shape.expecting mark path)
    | .record name fields =>
      match node with
      | .mappingStart =>
        if depth == 0 then throw (.recursionLimit mark)
        let (found, after) ← readMembers doc fuel fields path (depth - 1) (fields.map fun _ => none) mark next
        let values ← completeRecord fields found mark path
        return (.record values, after + 1)
      | _ =>
        if node == .empty || node.isEmptyPlain then
          let values ← completeRecord fields (fields.map fun _ => none) mark path
          return (.record values, next)
        else throw (mismatch node ("struct " ++ name) mark path)
    | .unitEnum name variants =>
      match node with
      | .scalar _ value _ =>
        match variants.idxOf? value with
        | some i => return (.variant i, next)
        | none => throw (.data (.unknownVariant value variants) mark path)
      | _ => throw (mismatch node ("enum " ++ name) mark path)
    | .any =>
      let (v, after) ← readValue doc fuel path depth pos
      return (.json v, after)
termination_by fuel => (fuel, 0)

/-- Reads the items of a sequence up to its end. -/
def readItems (doc : Document) : Nat → Shape → Path → Nat → Nat → Nat → Read (List Datum × Nat)
  | 0, _, _, _, _, _ => throw .exhausted
  | fuel + 1, item, path, depth, index, pos => do
    let (node, _) ← nodeAt doc pos
    if node matches .sequenceEnd || node matches .empty then return ([], pos)
    let (d, after) ← readNode doc fuel item (.item path index) depth pos
    let (rest, final) ← readItems doc fuel item path depth (index + 1) after
    return (d :: rest, final)
termination_by fuel => (fuel, 1)

/-- Reads the members of a mapping up to its end, filling the fields found. -/
def readMembers (doc : Document) : Nat → List (String × Shape × Option Datum) → Path → Nat →
    List (Option Datum) → Mark → Nat → Read (List (Option Datum) × Nat)
  | 0, _, _, _, _, _, _ => throw .exhausted
  | fuel + 1, fields, path, depth, found, start, pos => do
    let (node, keyMark) ← nodeAt doc pos
    if node matches .mappingEnd || node matches .empty then return (found, pos)
    let (key, valuePath, after) ← match node with
      | .scalar _ value _ => pure (value, Path.member path value, pos + 1)
      | .alias id => do
        let target ← jump doc id
        let (k, _) ← readNode doc fuel .text (.alias path) depth target
        pure (k.asText, Path.unknown path, pos + 1)
      | _ => throw (mismatch node "field identifier" keyMark path)
    match fields.findIdx? (·.1 == key) with
    | some i =>
      if (found.getD i none).isSome then throw (.data (.duplicateField key) start path)
      let shape := match fields[i]? with
        | some (_, s, _) => s
        | none => .any
      let (d, after) ← readNode doc fuel shape valuePath depth after
      readMembers doc fuel fields path depth (found.set i (some d)) start after
    | none =>
      let after ← skipNode doc (doc.nodes.size + 1) 0 after
      readMembers doc fuel fields path depth found start after
termination_by fuel => (fuel, 1)

/-- Reads the node at a position as a JSON value. -/
def readValue (doc : Document) : Nat → Path → Nat → Nat → Read (Value × Nat)
  | 0, _, _, _ => throw .exhausted
  | fuel + 1, path, depth, pos => do
    let (node, mark) ← nodeAt doc pos
    match node with
    | .alias id =>
      let target ← jump doc id
      let (v, _) ← readValue doc fuel (.alias path) depth target
      return (v, pos + 1)
    | .scalar tag value style =>
      match scalarValue tag value style mark path with
      | .ok v => return (v, pos + 1)
      | .error e => throw e
    | .sequenceStart =>
      if depth == 0 then throw (.recursionLimit mark)
      let (items, after) ← readValues doc fuel path (depth - 1) 0 (pos + 1)
      return (.array items, after + 1)
    | .mappingStart =>
      if depth == 0 then throw (.recursionLimit mark)
      let (members, after) ← readValueMembers doc fuel path (depth - 1) (pos + 1)
      return (Value.sortedObject members, after + 1)
    | _ => return (.null, pos + 1)
termination_by fuel => (fuel, 0)

/-- Reads the items of a sequence as JSON values. -/
def readValues (doc : Document) : Nat → Path → Nat → Nat → Nat → Read (List Value × Nat)
  | 0, _, _, _, _ => throw .exhausted
  | fuel + 1, path, depth, index, pos => do
    let (node, _) ← nodeAt doc pos
    if node matches .sequenceEnd then return ([], pos)
    let (v, after) ← readValue doc fuel (.item path index) depth pos
    let (rest, final) ← readValues doc fuel path depth (index + 1) after
    return (v :: rest, final)
termination_by fuel => (fuel, 1)

/-- Reads the members of a mapping as keys and JSON values. -/
def readValueMembers (doc : Document) : Nat → Path → Nat → Nat → Read (List (String × Value) × Nat)
  | 0, _, _, _ => throw .exhausted
  | fuel + 1, path, depth, pos => do
    let (node, keyMark) ← nodeAt doc pos
    if node matches .mappingEnd then return ([], pos)
    let (key, after) ← match node with
      | .scalar _ value _ => pure (value, pos + 1)
      | .alias _ => do
        let (k, after) ← readNode doc fuel .text path depth pos
        pure (k.asText, after)
      | _ => throw (mismatch node "a string key" keyMark path)
    let (v, after) ← readValue doc fuel (.member path key) depth after
    let (rest, final) ← readValueMembers doc fuel path depth after
    return ((key, v) :: rest, final)
termination_by fuel => (fuel, 1)

end

end FleetIssues.Yaml

namespace FleetIssues.Yaml

open Schema

/-- Reads the one document of a YAML text by a shape. -/
def readTextAs (shape : Shape) (text : String) : Except YamlError Datum :=
  let (first, loader) := (Loader.ofText text).nextDocument
  match first with
  | none => .error .endOfStream
  | some doc =>
    let fuel := 130 * (doc.nodes.size + 2) + 1000
    match (readNode doc fuel shape .root 128 0).run 0 with
    | .error e => .error e
    | .ok ((d, _), _) =>
      match doc.error with
      | some e => .error (.load e)
      | none =>
        match loader.nextDocument.1 with
        | none => .ok d
        | some _ => .error .moreThanOneDocument

end FleetIssues.Yaml
