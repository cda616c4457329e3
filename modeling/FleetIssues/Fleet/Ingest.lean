import FleetIssues.Fleet.Codec
import FleetIssues.Fleet.Index
import FleetIssues.Text.Basic
import FleetIssues.Text.Utf8
/-! Ingesting messages into the index: one by one, line by line, and streamed through the consumer
task. -/

namespace FleetIssues.Fleet

open Text

/-- How many lines of a stream became events and how many were dropped: machine-word counts,
wrapping past the largest value as a release build's `+=` does. -/
structure ReplaySummary where
  applied : UInt64
  dropped : UInt64
  deriving DecidableEq, Repr

/-- Consumes one message: applies its event, or counts it as dropped. -/
def Index.consume (ix : Index) (message : String) : Index × Option ApplyOutcome :=
  match decode message with
  | .ok event =>
    let (ix', outcome) := ix.apply event
    (ix', some outcome)
  | .error _ => (ix.recordDropped, none)

/-- Splits bytes into lines, each with its line feed; `current` holds the bytes of the line
being read, most recent first. -/
def splitLinesFrom (current : List UInt8) : List UInt8 → List (List UInt8)
  | [] => if current.isEmpty then [] else [current.reverse]
  | b :: rest =>
    if b == 10 then (b :: current).reverse :: splitLinesFrom [] rest
    else splitLinesFrom (b :: current) rest

/-- Splits bytes into lines, each with its line feed, the last one possibly without. -/
def splitLines (bytes : List UInt8) : List (List UInt8) := splitLinesFrom [] bytes

/-- The text of a line without its line feed and a carriage return before it. -/
def lineText (text : String) : String :=
  let cs := text.toList
  if cs.getLast? == some '\n' then
    let body := cs.dropLast
    String.ofList (if body.getLast? == some '\r' then body.dropLast else body)
  else text

/-- Consumes lines of bytes in order, adding to a summary; stops at the first line that is not
UTF-8, keeping the index as it stands. -/
def Index.consumeLineBytes (ix : Index) (summary : ReplaySummary) :
    List (List UInt8) → Index × Except Utf8Error ReplaySummary
  | [] => (ix, .ok summary)
  | line :: rest =>
    match decodeUtf8 line with
    | .error e => (ix, .error e)
    | .ok text =>
      let message := lineText text
      if isBlankText message then ix.consumeLineBytes summary rest
      else
        match ix.consume message with
        | (ix', some _) => ix'.consumeLineBytes ⟨summary.applied + 1, summary.dropped⟩ rest
        | (ix', none) => ix'.consumeLineBytes ⟨summary.applied, summary.dropped + 1⟩ rest

/-- Consumes a stream of bytes line by line. -/
def Index.consumeLines (ix : Index) (bytes : List UInt8) : Index × Except Utf8Error ReplaySummary :=
  ix.consumeLineBytes ⟨0, 0⟩ (splitLines bytes)

end FleetIssues.Fleet

namespace FleetIssues.Fleet

open Text

/-- The ingest pipeline between two moves. -/
structure Pipeline where
  /-- How many lines the channel holds at most. -/
  capacity : Nat
  /-- The lines the reader has yet to read. -/
  unread : List (List UInt8)
  /-- Whether the reader still holds the sender. -/
  sending : Bool
  /-- The lines sent and not yet received, oldest first. -/
  channel : List String
  /-- The consumer's index. -/
  index : Index
  /-- What the consumer has counted. -/
  summary : ReplaySummary
  /-- The error of the line that was not UTF-8, once the reader met one. -/
  failure : Option Utf8Error

namespace Pipeline

/-- The pipeline over a log, before either side moved. -/
def start (capacity : Nat) (index : Index) (bytes : List UInt8) : Pipeline :=
  ⟨capacity, splitLines bytes, true, [], index, ⟨0, 0⟩, none⟩

/-- The consumer consumes the oldest line of the channel, `message`, leaving `rest`. -/
def receive (s : Pipeline) (message : String) (rest : List String) : Pipeline :=
  match s.index.consume message with
  | (index, some _) =>
    { s with channel := rest, index, summary := ⟨s.summary.applied + 1, s.summary.dropped⟩ }
  | (index, none) =>
    { s with channel := rest, index, summary := ⟨s.summary.applied, s.summary.dropped + 1⟩ }

/-- One move of the reader or of the consumer. No one moves once the reader has failed. -/
inductive Step : Pipeline → Pipeline → Prop
  /-- The reader reads a blank line and goes on. -/
  | skip {s : Pipeline} {line : List UInt8} {rest : List (List UInt8)} {text : String} :
      s.failure = none → s.sending = true → s.unread = line :: rest → decodeUtf8 line = .ok text →
      isBlankText (lineText text) = true → Step s { s with unread := rest }
  /-- The reader reads a line and sends it into the channel, which has room. -/
  | send {s : Pipeline} {line : List UInt8} {rest : List (List UInt8)} {text : String} :
      s.failure = none → s.sending = true → s.unread = line :: rest → decodeUtf8 line = .ok text →
      isBlankText (lineText text) = false → s.channel.length < s.capacity →
      Step s { s with unread := rest, channel := s.channel ++ [lineText text] }
  /-- The reader reads a line that is not UTF-8, and the ingest fails. -/
  | fail {s : Pipeline} {line : List UInt8} {rest : List (List UInt8)} {e : Utf8Error} :
      s.failure = none → s.sending = true → s.unread = line :: rest → decodeUtf8 line = .error e →
      Step s { s with unread := rest, sending := false, failure := some e }
  /-- The reader reaches the end of the log and drops its sender. -/
  | close {s : Pipeline} :
      s.failure = none → s.sending = true → s.unread = [] → Step s { s with sending := false }
  /-- The consumer receives the oldest line in the channel. -/
  | receive {s : Pipeline} {message : String} {rest : List String} :
      s.failure = none → s.channel = message :: rest → Step s (s.receive message rest)

/-- What the ingest answers once the pipeline stops: the consumer's index, with the reader's error
or the consumer's counts. -/
def answer (s : Pipeline) : Index × Except Utf8Error ReplaySummary :=
  (s.index, match s.failure with
    | some e => .error e
    | none => .ok s.summary)

/-- The reader's move, when it can make one. -/
def readerMove (s : Pipeline) : Option Pipeline :=
  if s.sending then
    match s.unread with
    | [] => some { s with sending := false }
    | line :: rest =>
      match decodeUtf8 line with
      | .error e => some { s with unread := rest, sending := false, failure := some e }
      | .ok text =>
        if isBlankText (lineText text) then some { s with unread := rest }
        else if s.channel.length < s.capacity then
          some { s with unread := rest, channel := s.channel ++ [lineText text] }
        else none
  else none

/-- The consumer's move, when it can make one. -/
def consumerMove (s : Pipeline) : Option Pipeline :=
  match s.channel with
  | [] => none
  | message :: rest => some (s.receive message rest)

/-- The next move when the reader goes first whenever it can. -/
def next (s : Pipeline) : Option Pipeline :=
  match s.failure with
  | some _ => none
  | none => s.readerMove <|> s.consumerMove

/-- What is left to do: every unread line is read and then received, and the sender is
dropped. -/
def work (s : Pipeline) : Nat :=
  2 * s.unread.length + s.channel.length + (if s.sending then 1 else 0)

theorem work_receive (s : Pipeline) (message : String) (rest : List String) :
    (s.receive message rest).work = 2 * s.unread.length + rest.length + (if s.sending then 1 else 0) := by
  unfold receive
  split <;> rfl

/-- Every move leaves less to do. -/
theorem Step.work_lt {s s' : Pipeline} (step : Step s s') : s'.work < s.work := by
  cases step with
  | skip _ sending unreadLines =>
    simp only [work, unreadLines, sending, List.length_cons]
    omega
  | send _ sending unreadLines =>
    simp only [work, unreadLines, sending, List.length_cons, List.length_append, List.length_nil]
    omega
  | fail _ sending unreadLines =>
    simp only [work, unreadLines, sending, List.length_cons, Bool.false_eq_true, ↓reduceIte]
    omega
  | close _ sending unreadLines =>
    simp only [work, unreadLines, sending, List.length_nil, Bool.false_eq_true, ↓reduceIte]
    omega
  | receive _ channel =>
    rw [work_receive, work, channel, List.length_cons]
    omega

theorem readerMove_step {s s' : Pipeline} (ok : s.failure = none) (moved : s.readerMove = some s') :
    Step s s' := by
  unfold readerMove at moved
  split at moved
  · rename_i holding
    split at moved
    · rename_i empty
      cases moved
      exact .close ok holding empty
    · rename_i line rest unread
      split at moved
      · rename_i e failed
        cases moved
        exact .fail ok holding unread failed
      · rename_i text decoded
        split at moved
        · rename_i blank
          cases moved
          exact .skip ok holding unread decoded blank
        · rename_i solid
          split at moved
          · rename_i room
            cases moved
            exact .send ok holding unread decoded (Bool.eq_false_iff.mpr solid) room
          · cases moved
  · cases moved

theorem consumerMove_step {s s' : Pipeline} (ok : s.failure = none) (moved : s.consumerMove = some s') :
    Step s s' := by
  unfold consumerMove at moved
  split at moved
  · cases moved
  · rename_i message rest channel
    cases moved
    exact .receive ok channel

/-- The next move is a move of the pipeline. -/
theorem next_step {s s' : Pipeline} (moved : s.next = some s') : Step s s' := by
  unfold next at moved
  split at moved
  · cases moved
  · rename_i ok
    cases reader : s.readerMove with
    | some r =>
      rw [reader] at moved
      cases moved
      exact readerMove_step ok reader
    | none =>
      rw [reader] at moved
      exact consumerMove_step ok moved

/-- Moves until neither side can, the reader first whenever it can. -/
def drive (s : Pipeline) : Pipeline :=
  match _moved : s.next with
  | some s' => drive s'
  | none => s
termination_by s.work
decreasing_by exact (next_step _moved).work_lt

end Pipeline

/-- Streams a log through a channel into the consumer task. The program passes only the positive
capacity of a loaded configuration (`Cli.run_of_loaded`); a zero-capacity channel is never made. -/
def Index.ingest (capacity : Nat) (index : Index) (bytes : List UInt8) :
    Index × Except Utf8Error ReplaySummary :=
  (Pipeline.start capacity index bytes).drive.answer

end FleetIssues.Fleet
