import FleetIssues.Yaml.Parser
/-! Loading YAML documents as flat lists of nodes. -/

namespace FleetIssues.Yaml

/-- A node event of a document. -/
inductive Node where
  | empty
  | alias (id : Nat)
  | scalar (tag : Option String) (value : String) (style : ScalarStyle)
  | sequenceStart
  | sequenceEnd
  | mappingStart
  | mappingEnd
  deriving DecidableEq, Repr

/-- Why a document could not be read whole. -/
inductive LoadError where
  | problem (p : Problem)
  | unknownAnchor (mark : Mark)
  deriving DecidableEq, Repr

/-- A document: its nodes and their marks, where each anchor number points, and the error that
stopped it, if any. -/
structure Document where
  nodes : Array (Node × Mark)
  anchors : List (Nat × Nat)
  error : Option LoadError
  deriving Repr

/-- Where loading stands: the parser, or the problem it stopped at, or nothing once the stream
has ended; and how many documents were loaded. -/
structure Loader where
  parser : Option (Except Problem Parser)
  count : Nat

/-- The next event of the loader's parser. -/
def Loader.nextEvent (parser : Parser) : Except Problem (Option Event × Parser) :=
  parseEvent.run parser

/-- Sets a key of an association list, replacing an earlier entry. -/
def setEntry (key : String) (value : Nat) : List (String × Nat) → List (String × Nat)
  | [] => [(key, value)]
  | (k, v) :: rest => if k == key then (key, value) :: rest else (k, v) :: setEntry key value rest

/-- Names the node about to be added with an anchor: it gets the number of anchors known so
far. -/
def nameAnchor (anchor : Option String) (names : List (String × Nat)) (doc : Document) :
    List (String × Nat) × Document :=
  match anchor with
  | none => (names, doc)
  | some name =>
    let id := names.length
    (setEntry name id names,
     { doc with anchors := (id, doc.nodes.size) :: doc.anchors.filter (·.1 != id) })

/-- Reads events into a document until it ends. -/
def loadEvents (first : Bool) : Nat → Parser → List (String × Nat) → Document → Option Document × Loader
  | 0, parser, _, doc => (some doc, ⟨some (.ok parser), 0⟩)
  | fuel + 1, parser, names, doc =>
    match Loader.nextEvent parser with
    | .error p => (some { doc with error := some (.problem p) }, ⟨some (.error p), 0⟩)
    | .ok (none, _) => (none, ⟨none, 0⟩)
    | .ok (some event, parser) =>
      let add (node : Node) (anchor : Option String) : Option Document × Loader :=
        let (names, doc) := nameAnchor anchor names doc
        loadEvents first fuel parser names { doc with nodes := doc.nodes.push (node, event.start) }
      match event.kind with
      | .streamStart | .documentStart => loadEvents first fuel parser names doc
      | .streamEnd =>
        if first then
          let doc := if doc.nodes.isEmpty then { doc with nodes := #[(.empty, event.start)] } else doc
          (some doc, ⟨none, 0⟩)
        else (none, ⟨none, 0⟩)
      | .documentEnd => (some doc, ⟨some (.ok parser), 0⟩)
      | .alias name =>
        match names.lookup name with
        | some id => add (.alias id) none
        | none => (some { doc with error := some (.unknownAnchor event.start) }, ⟨some (.ok parser), 0⟩)
      | .scalar anchor tag value style => add (.scalar tag value style) anchor
      | .sequenceStart anchor _ => add .sequenceStart anchor
      | .sequenceEnd => add .sequenceEnd none
      | .mappingStart anchor _ => add .mappingStart anchor
      | .mappingEnd => add .mappingEnd none

/-- The next document of a loader, if there is one. -/
def Loader.nextDocument (loader : Loader) : Option Document × Loader :=
  let empty : Document := ⟨#[], [], none⟩
  match loader.parser with
  | none => (none, loader)
  | some (.error p) => (some { empty with error := some (.problem p) }, { loader with count := loader.count + 1 })
  | some (.ok parser) =>
    let fuel := 16 * (parser.scanner.rest.length + 8)
    let (doc, next) := loadEvents (loader.count == 0) fuel parser [] empty
    (doc, { next with count := loader.count + 1 })

/-- The first character that may not appear in YAML, with its byte offset. -/
def firstUnprintable (offset : Nat) : List Char → Option (Char × Nat)
  | [] => none
  | c :: rest => if isPrintable c then firstUnprintable (offset + c.utf8Size) rest else some (c, offset)

/-- A loader for a text: a byte order mark at the start is skipped, and a character that may
not appear in YAML is a problem before any event. -/
def Loader.ofText (text : String) : Loader :=
  let chars := text.toList
  let (chars, offset) := match chars with
    | c :: rest => if c.toNat == 0xFEFF then (rest, 3) else (chars, 0)
    | [] => (chars, 0)
  match firstUnprintable offset chars with
  | some (_, at_) => ⟨some (.error ⟨"control characters are not allowed", Mark.start, at_, none⟩), 0⟩
  | none => ⟨some (.ok (Parser.ofText chars)), 0⟩

end FleetIssues.Yaml
