import FleetIssues.App
import FleetIssues.Proofs.Counters
import Mathlib
/-! Line ingestion against consuming messages one by one. -/

namespace FleetIssues.Fleet

open Text

/-- The messages that decoded lines carry: each line without its line end, lines that trimming
empties left out. -/
def messagesOf (texts : List String) : List String :=
  (texts.map lineText).filter fun message => trimBlank message != ""

/-- Whether a message decodes into an event. -/
def decodes (message : String) : Bool :=
  (decode message).isOk

/-- Consumes messages one by one, in order. -/
def Index.consumeAll (ix : Index) (messages : List String) : Index :=
  messages.foldl (fun ix message => (ix.consume message).1) ix

/-- Lines of bytes that decode, line by line, into texts. -/
def DecodeLines (lines : List (List UInt8)) (texts : List String) : Prop :=
  List.Forall₂ (fun line text => decodeUtf8 line = .ok text) lines texts

/-- A text is blank exactly when trimming leaves nothing. -/
theorem Text.isBlankText_iff_trimBlank (s : String) : isBlankText s = true ↔ trimBlank s = "" := by
  rw [isBlankText_iff, ← String.toList_eq_nil_iff, trimBlank_toList, trimBlankList,
    List.reverse_eq_nil_iff, List.dropWhile_eq_nil_iff]
  simp only [List.mem_reverse]
  constructor
  · intro blank c kept
    exact blank c ((List.dropWhile_sublist _).subset kept)
  · intro blank
    -- What trimming keeps from the front starts with a character that is not blank, so nothing
    -- is kept.
    have empty : s.toList.dropWhile isBlank = [] := by
      by_contra kept
      have first := List.head_dropWhile_not isBlank kept
      rw [blank _ (List.head_mem kept)] at first
      cases first
    exact List.dropWhile_eq_nil_iff.mp empty

@[simp] theorem messagesOf_nil : messagesOf [] = [] := rfl

/-- The messages are the line texts that are not blank. -/
theorem messagesOf_eq_filter (texts : List String) :
    messagesOf texts = (texts.map lineText).filter fun message => !isBlankText message := by
  rw [messagesOf]
  congr 1
  funext message
  have blankIff := Text.isBlankText_iff_trimBlank message
  cases blank : isBlankText message <;> simp_all

theorem messagesOf_cons (text : String) (texts : List String) :
    messagesOf (text :: texts) =
      if isBlankText (lineText text) then messagesOf texts else lineText text :: messagesOf texts := by
  rw [messagesOf_eq_filter, messagesOf_eq_filter, List.map_cons, List.filter_cons]
  cases isBlankText (lineText text) <;> simp

/-- A line loses a final carriage return and line feed. -/
theorem lineText_crlf (body : List Char) : lineText (String.ofList (body ++ ['\r', '\n'])) = String.ofList body := by
  simp [lineText]

/-- A line loses a final line feed that no carriage return precedes. -/
theorem lineText_lf {body : List Char} (bare : body.getLast? ≠ some '\r') :
    lineText (String.ofList (body ++ ['\n'])) = String.ofList body := by
  simp [lineText, bare]

/-- A line with no final line feed is kept whole. -/
theorem lineText_of_getLast? {text : String} (unended : text.toList.getLast? ≠ some '\n') :
    lineText text = text := by
  simp [lineText, unended]

@[simp] theorem Index.consumeAll_nil (ix : Index) : ix.consumeAll [] = ix := rfl

@[simp] theorem Index.consumeAll_cons (ix : Index) (message : String) (messages : List String) :
    ix.consumeAll (message :: messages) = (ix.consume message).1.consumeAll messages := rfl

/-- The lines of a stream put back together give the stream, after the bytes already read. -/
theorem flatten_splitLinesFrom (current bytes : List UInt8) :
    (splitLinesFrom current bytes).flatten = current.reverse ++ bytes := by
  induction bytes generalizing current with
  | nil => cases current <;> simp [splitLinesFrom]
  | cons b rest ih =>
    unfold splitLinesFrom
    split
    · rename_i feed
      simp [ih, beq_iff_eq.mp feed]
    · simp [ih]

/-- Each line is non-empty and holds a line feed at most at its end. -/
theorem splitLinesFrom_shape (current bytes : List UInt8) (noFeed : ∀ b ∈ current, b ≠ 10) :
    ∀ line ∈ splitLinesFrom current bytes, line ≠ [] ∧ ∀ b ∈ line.dropLast, b ≠ 10 := by
  induction bytes generalizing current with
  | nil =>
    unfold splitLinesFrom
    split
    · simp
    · rename_i nonempty
      intro line listed
      rw [List.mem_singleton] at listed
      subst listed
      refine ⟨by simpa using nonempty, fun b inside => noFeed b ?_⟩
      exact List.mem_reverse.mp ((List.dropLast_sublist _).subset inside)
  | cons next rest ih =>
    unfold splitLinesFrom
    split
    · intro line listed
      rcases List.mem_cons.mp listed with rfl | later
      · refine ⟨by simp, fun b inside => noFeed b ?_⟩
        simpa [List.reverse_cons] using inside
      · exact ih [] (by simp) line later
    · rename_i notFeed
      apply ih
      intro b listed
      rcases List.mem_cons.mp listed with rfl | earlier
      · simpa using notFeed
      · exact noFeed b earlier

/-- Every line but the last ends in a line feed. -/
theorem splitLinesFrom_feed (current bytes : List UInt8) :
    ∀ line ∈ (splitLinesFrom current bytes).dropLast, line.getLast? = some 10 := by
  induction bytes generalizing current with
  | nil =>
    unfold splitLinesFrom
    split <;> simp
  | cons next rest ih =>
    unfold splitLinesFrom
    split
    · rename_i feed
      intro line listed
      cases later : splitLinesFrom [] rest with
      | nil => simp [later] at listed
      | cons first more =>
        rw [later, List.dropLast_cons_cons] at listed
        rcases List.mem_cons.mp listed with rfl | deeper
        · simp [beq_iff_eq.mp feed]
        · exact ih [] line (by rw [later]; exact deeper)
    · exact ih _

/-- A line feed after bytes that hold none ends the line being read. -/
theorem splitLinesFrom_append_feed (current body rest : List UInt8) (once : 10 ∉ body) :
    splitLinesFrom current (body ++ 10 :: rest) =
      (current.reverse ++ body ++ [10]) :: splitLinesFrom [] rest := by
  induction body generalizing current with
  | nil => simp [splitLinesFrom]
  | cons b body ih =>
    have notFeed : b ≠ 10 := fun feed => once (feed ▸ List.mem_cons_self)
    rw [List.cons_append, splitLinesFrom, if_neg (by simpa using notFeed),
      ih _ fun inside => once (List.mem_cons_of_mem _ inside)]
    simp

/-- A stream repeating one line is cut into the copies of that line. -/
theorem splitLines_flatten_replicate {body : List UInt8} (once : 10 ∉ body) (k : Nat) :
    splitLines (List.replicate k (body ++ [10])).flatten = List.replicate k (body ++ [10]) := by
  induction k with
  | zero => rfl
  | succ k ih =>
    rw [List.replicate_succ, List.flatten_cons, splitLines, List.append_assoc, List.singleton_append,
      splitLinesFrom_append_feed [] body _ once]
    rw [splitLines] at ih
    simp [ih]

/-- A message that decodes counts as an applied or an ignored event; one that does not counts as
dropped. -/
theorem Index.consume_stats (ix : Index) (message : String) :
    (ix.consume message).1.stats.eventsApplied + (ix.consume message).1.stats.identityEventsIgnored =
        ix.stats.eventsApplied + ix.stats.identityEventsIgnored + (if decodes message then 1 else 0) ∧
      (ix.consume message).1.stats.eventsDropped =
        ix.stats.eventsDropped + (if decodes message then 0 else 1) := by
  cases decoded : decode message with
  | ok event =>
    have outcome := IndexStats.count_eq ix.stats (Index.applyToRelations ix.relations event).2
    simp only [Index.consume, decoded, decodes, Except.isOk, Except.toBool, Index.apply]
    constructor
    · rw [outcome]
      split <;> simp <;> grind
    · rw [outcome]
      simp
  | error e =>
    simp [Index.consume, decoded, decodes, Except.isOk, Except.toBool, Index.recordDropped]

theorem Index.consume_relations_of_not_decodes {ix : Index} {message : String}
    (undecodable : decodes message = false) : (ix.consume message).1.relations = ix.relations := by
  cases decoded : decode message with
  | ok event => simp [decodes, decoded, Except.isOk, Except.toBool] at undecodable
  | error e => simp [Index.consume, decoded, Index.recordDropped]

/-- Consuming messages in order adds the decodable ones to the applied and ignored events, and the
others to the dropped messages. -/
theorem Index.consumeAll_stats (ix : Index) (messages : List String) :
    (ix.consumeAll messages).stats.eventsApplied + (ix.consumeAll messages).stats.identityEventsIgnored =
        ix.stats.eventsApplied + ix.stats.identityEventsIgnored + .ofNat (messages.countP decodes) ∧
      (ix.consumeAll messages).stats.eventsDropped =
        ix.stats.eventsDropped + .ofNat (messages.countP (!decodes ·)) := by
  induction messages generalizing ix with
  | nil => simp
  | cons message messages ih =>
    obtain ⟨applied, dropped⟩ := ix.consume_stats message
    obtain ⟨appliedAll, droppedAll⟩ := ih (ix.consume message).1
    rw [Index.consumeAll_cons, appliedAll, droppedAll, applied, dropped, List.countP_cons,
      List.countP_cons]
    cases decodes message <;> simp <;> grind

theorem DecodeLines.replicate {line : List UInt8} {text : String} (decoded : decodeUtf8 line = .ok text)
    (k : Nat) : DecodeLines (List.replicate k line) (List.replicate k text) := by
  induction k with
  | zero => exact .nil
  | succ k ih => exact .cons decoded ih

theorem messagesOf_replicate (text : String) (k : Nat) :
    messagesOf (List.replicate k text) =
      if isBlankText (lineText text) then [] else List.replicate k (lineText text) := by
  rw [messagesOf_eq_filter, List.map_replicate, List.filter_replicate]
  cases isBlankText (lineText text) <;> simp

/-- A message ingested from a line is consumed, and the summary counts it by whether it
decoded. -/
theorem Index.consumeLineBytes_message (ix : Index) (summary : ReplaySummary) (line : List UInt8)
    (lines : List (List UInt8)) {text : String} (decoded : decodeUtf8 line = .ok text)
    (nonblank : isBlankText (lineText text) = false) :
    ix.consumeLineBytes summary (line :: lines) =
      (ix.consume (lineText text)).1.consumeLineBytes
        ⟨summary.applied + (if decodes (lineText text) then 1 else 0),
          summary.dropped + (if decodes (lineText text) then 0 else 1)⟩ lines := by
  simp only [Index.consumeLineBytes, decoded, nonblank, Bool.false_eq_true, ↓reduceIte]
  cases event : decode (lineText text) with
  | ok e => simp [Index.consume, event, decodes, Except.isOk, Except.toBool]
  | error e => simp [Index.consume, event, decodes, Except.isOk, Except.toBool]

/-- When every line is UTF-8, ingesting lines consumes their messages in order and counts them. -/
theorem Index.consumeLineBytes_of_decodeLines {lines : List (List UInt8)} {texts : List String}
    (valid : DecodeLines lines texts) (ix : Index) (summary : ReplaySummary) :
    ix.consumeLineBytes summary lines =
      (ix.consumeAll (messagesOf texts),
        .ok ⟨summary.applied + .ofNat ((messagesOf texts).countP decodes),
          summary.dropped + .ofNat ((messagesOf texts).countP (!decodes ·))⟩) := by
  induction valid generalizing ix summary with
  | nil => simp [Index.consumeLineBytes]
  | @cons line text lines texts decoded _ ih =>
    rw [messagesOf_cons]
    by_cases blank : isBlankText (lineText text)
    · simp only [Index.consumeLineBytes, decoded, blank, ↓reduceIte]
      exact ih ix summary
    · rw [Bool.not_eq_true] at blank
      rw [Index.consumeLineBytes_message ix summary line lines decoded blank, ih]
      simp only [blank, Bool.false_eq_true, ↓reduceIte, Index.consumeAll_cons, List.countP_cons,
        Prod.mk.injEq, Except.ok.injEq, ReplaySummary.mk.injEq, true_and]
      cases decodes (lineText text) <;> simp <;> grind

/-- Ingesting stops at the first line that is not UTF-8, with the messages before it consumed. -/
theorem Index.consumeLineBytes_stops {before : List (List UInt8)} {texts : List String}
    (valid : DecodeLines before texts) {line : List UInt8} {error : Utf8Error}
    (invalid : decodeUtf8 line = .error error) (after : List (List UInt8)) (ix : Index)
    (summary : ReplaySummary) :
    ix.consumeLineBytes summary (before ++ line :: after) = (ix.consumeAll (messagesOf texts), .error error) := by
  induction valid generalizing ix summary with
  | nil => simp [Index.consumeLineBytes, invalid]
  | @cons first text lines texts decoded _ ih =>
    rw [messagesOf_cons, List.cons_append]
    by_cases blank : isBlankText (lineText text)
    · simp only [Index.consumeLineBytes, decoded, blank, ↓reduceIte]
      exact ih ix summary
    · rw [Bool.not_eq_true] at blank
      rw [Index.consumeLineBytes_message ix summary first _ decoded blank, ih]
      simp [blank]

/-- Line ingestion consumes the messages of a UTF-8 stream one by one and counts them as 64-bit
words, and stops at the first line that is not UTF-8 with the lines before it consumed. -/
theorem line_ingestion_folds_consume (app : App) (now : String) (bytes : List UInt8) :
    let lines := splitLines bytes
    (lines.flatten = bytes ∧ (∀ line ∈ lines, line ≠ [] ∧ ∀ b ∈ line.dropLast, b ≠ 10) ∧
      ∀ line ∈ lines.dropLast, line.getLast? = some 10) ∧
    ((∀ body, lineText (String.ofList (body ++ ['\r', '\n'])) = String.ofList body) ∧
      (∀ body, body.getLast? ≠ some '\r' → lineText (String.ofList (body ++ ['\n'])) = String.ofList body) ∧
      ∀ text, text.toList.getLast? ≠ some '\n' → lineText text = text) ∧
    (∀ texts, DecodeLines lines texts →
      let messages := messagesOf texts
      let summary : ReplaySummary := ⟨.ofNat (messages.countP decodes), .ofNat (messages.countP (!decodes ·))⟩
      let index := app.index.consumeAll messages
      app.step now (.consumeLines bytes) = ({ app with index }, .replayed (.ok summary)) ∧
      index.stats.eventsApplied + index.stats.identityEventsIgnored =
        app.index.stats.eventsApplied + app.index.stats.identityEventsIgnored + summary.applied ∧
      index.stats.eventsDropped = app.index.stats.eventsDropped + summary.dropped) ∧
    (∀ before line after texts error, lines = before ++ line :: after → DecodeLines before texts →
      decodeUtf8 line = .error error →
      app.step now (.consumeLines bytes) =
        ({ app with index := app.index.consumeAll (messagesOf texts) },
          .replayed (.error (.io invalidUtf8Reason)))) ∧
    (∀ message, decodes message = false →
      (app.index.consume message).1.relations = app.index.relations) ∧
    app.step now (.replayFile (some bytes)) = app.step now (.consumeLines bytes) ∧
    app.step now (.replayFile none) = (app, .replayed (.error (.io missingFileReason))) := by
  dsimp only
  refine ⟨⟨by simpa [splitLines] using flatten_splitLinesFrom [] bytes, splitLinesFrom_shape [] bytes (by simp),
    splitLinesFrom_feed [] bytes⟩, ⟨lineText_crlf, fun _ => lineText_lf, fun _ => lineText_of_getLast?⟩,
    ?_, ?_, fun _ => Index.consume_relations_of_not_decodes, rfl, rfl⟩
  · intro texts valid
    have ingested := app.index.consumeLineBytes_of_decodeLines valid ⟨0, 0⟩
    obtain ⟨applied, dropped⟩ := app.index.consumeAll_stats (messagesOf texts)
    refine ⟨?_, applied, dropped⟩
    simp [App.step, App.consumeLines, Index.consumeLines, ingested, Except.mapError]
  · intro before line after texts error split valid invalid
    have ingested := app.index.consumeLineBytes_stops valid invalid after ⟨0, 0⟩
    simp [App.step, App.consumeLines, Index.consumeLines, split, ingested, Except.mapError]

/-- A stream repeating a line whose message does not decode reports every copy as dropped, counted
as a 64-bit word. -/
theorem Index.consumeLines_replicate_undecodable {body : List UInt8} {text : String} (once : 10 ∉ body)
    (decoded : decodeUtf8 (body ++ [10]) = .ok text) (nonblank : isBlankText (lineText text) = false)
    (undecodable : decodes (lineText text) = false) (ix : Index) (k : Nat) :
    (ix.consumeLines (List.replicate k (body ++ [10])).flatten).2 = .ok ⟨0, .ofNat k⟩ := by
  rw [Index.consumeLines, splitLines_flatten_replicate once,
    Index.consumeLineBytes_of_decodeLines (DecodeLines.replicate decoded k), messagesOf_replicate,
    if_neg (by simp [nonblank]), List.countP_replicate, List.countP_replicate]
  simp [undecodable]

/-- A stream of `2^64` lines `x`, whose message does not decode, is reported with no line dropped:
the count has wrapped. -/
example :
    splitLines (List.replicate UInt64.size [120, 10]).flatten = List.replicate UInt64.size [120, 10] ∧
    decodeUtf8 [120, 10] = .ok "x\n" ∧ lineText "x\n" = "x" ∧ decodes "x" = false ∧
    (Index.empty.consumeLines (List.replicate UInt64.size [120, 10]).flatten).2 = .ok ⟨0, 0⟩ := by
  have decoded : decodeUtf8 ([120] ++ [10]) = .ok "x\n" := by
    simp [decodeUtf8, decodeFrom, readChar]
  have message : lineText "x\n" = "x" := by cbv
  have undecodable : decodes "x" = false := by cbv
  have once : 10 ∉ ([120] : List UInt8) := by decide
  have dropped := Index.empty.consumeLines_replicate_undecodable once decoded
    (by rw [message]; cbv) (by rw [message]; exact undecodable) UInt64.size
  rw [UInt64.ofNat_size] at dropped
  exact ⟨splitLines_flatten_replicate once _, decoded, message, undecodable, dropped⟩

end FleetIssues.Fleet
