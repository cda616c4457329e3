import FleetIssues.Fleet.Ingest
import FleetIssues.Proofs.Ingestion
import Mathlib.Logic.Relation
/-! Streaming a log through the consumer task against ingesting it line by line. -/

namespace FleetIssues.Text

/-- The second byte of a character of several bytes is never below 0x80. -/
theorem leadRange_low {lead lo hi width : Nat} (range : leadRange lead = some (lo, hi, width)) :
    0x80 ≤ lo := by
  unfold leadRange at range
  split_ifs at range <;> cases range <;> decide

/-- A character read from the head of bytes is a prefix of them, of the width read, that reads
the same whatever follows it; a byte below 0x80 in it is the whole character. -/
theorem readChar_eq_ok {bs : List UInt8} {c : Char} {w : Nat} (read : readChar bs = .ok (c, w)) :
    ∃ pre post, bs = pre ++ post ∧ pre.length = w ∧ 0 < w ∧
      (∀ b ∈ pre, b.toNat < 0x80 → pre = [b]) ∧ ∀ more, readChar (pre ++ more) = .ok (c, w) := by
  match bs, read with
  | b :: rest, read =>
    simp only [readChar] at read
    split at read
    · rename_i ascii
      cases read
      refine ⟨[b], rest, rfl, rfl, Nat.one_pos, by simp, fun more => ?_⟩
      simp [readChar, ascii]
    · rename_i wide
      split at read
      · cases read
      · rename_i lo hi width range
        have low := leadRange_low range
        split at read
        · cases read
        · rename_i second more0
          split at read
          · cases read
          · rename_i inRange
            simp only [Bool.or_eq_true, decide_eq_true_eq, not_or, Nat.not_lt] at inRange
            split at read
            · rename_i two
              cases read
              refine ⟨[b, second], more0, rfl, rfl, by decide, ?_, fun more => ?_⟩
              · simp only [List.mem_cons, List.not_mem_nil, or_false]
                rintro x (rfl | rfl) ascii <;> omega
              · simp [readChar, wide, range, inRange, two]
            · rename_i notTwo
              split at read
              · cases read
              · rename_i third more1
                split at read
                · cases read
                · rename_i thirdContinues
                  split at read
                  · rename_i three
                    cases read
                    refine ⟨[b, second, third], more1, rfl, rfl, by decide, ?_, fun more => ?_⟩
                    · simp only [List.mem_cons, List.not_mem_nil, or_false]
                      simp [isContinuation] at thirdContinues
                      rintro x (rfl | rfl | rfl) ascii <;> omega
                    · simp [readChar, wide, range, inRange, notTwo, thirdContinues, three]
                  · rename_i notThree
                    split at read
                    · cases read
                    · rename_i fourth more2
                      split at read
                      · cases read
                      · rename_i fourthContinues
                        cases read
                        refine ⟨[b, second, third, fourth], more2, rfl, rfl, by decide, ?_,
                          fun more => ?_⟩
                        · simp only [List.mem_cons, List.not_mem_nil, or_false]
                          simp [isContinuation] at thirdContinues fourthContinues
                          rintro x (rfl | rfl | rfl | rfl) ascii <;> omega
                        · simp [readChar, wide, range, inRange, notTwo, thirdContinues, notThree,
                            fourthContinues]

/-- Whether bytes decode does not depend on where they start or on what was read before them. -/
theorem decodeFrom_ok_of_ok {off : Nat} {acc : List Char} {bs : List UInt8} {s : String}
    (decoded : decodeFrom off acc bs = .ok s) (off' : Nat) (acc' : List Char) :
    ∃ s', decodeFrom off' acc' bs = .ok s' := by
  induction off, acc, bs using decodeFrom.induct generalizing off' acc' s with
  | case1 off acc => exact ⟨_, by rw [decodeFrom]⟩
  | case2 off acc b rest c width read ih =>
    rw [decodeFrom, read] at decoded
    rw [decodeFrom, read]
    exact ih decoded _ _
  | case3 off acc b rest length read =>
    rw [decodeFrom, read] at decoded
    cases decoded

/-- Decoding reads one character and goes on after it. -/
theorem decodeFrom_of_readChar {off : Nat} {acc : List Char} {bs : List UInt8} {c : Char} {w : Nat}
    (read : readChar bs = .ok (c, w)) (positive : 0 < w) :
    decodeFrom off acc bs = decodeFrom (off + w) (c :: acc) (bs.drop w) := by
  cases bs with
  | nil => simp [readChar] at read
  | cons b rest =>
    rw [decodeFrom, read]
    dsimp only
    rw [Nat.max_eq_left positive]

/-- Bytes that decode start with a character, and what follows it decodes. -/
theorem decodeFrom_eq_ok_of_ne_nil {off : Nat} {acc : List Char} {bs : List UInt8} {s : String}
    (decoded : decodeFrom off acc bs = .ok s) (nonempty : bs ≠ []) :
    ∃ c w, readChar bs = .ok (c, w) ∧ 0 < w ∧ decodeFrom (off + w) (c :: acc) (bs.drop w) = .ok s := by
  obtain ⟨b, rest, rfl⟩ := List.exists_cons_of_ne_nil nonempty
  rw [decodeFrom] at decoded
  split at decoded
  · rename_i c w read
    obtain ⟨-, -, -, -, positive, -⟩ := readChar_eq_ok read
    refine ⟨c, w, read, positive, ?_⟩
    rwa [Nat.max_eq_left positive] at decoded
  · cases decoded

/-- No character runs across a line feed: bytes that end in one, followed by any others, decode
only if each part decodes on its own. -/
theorem decodeFrom_append_of_feed (ys : List UInt8) : ∀ (xs : List UInt8),
    (xs = [] ∨ xs.getLast? = some 10) → ∀ {off : Nat} {acc : List Char} {s : String},
    decodeFrom off acc (xs ++ ys) = .ok s →
    (∀ off' acc', ∃ t, decodeFrom off' acc' xs = .ok t) ∧ ∃ off' acc', decodeFrom off' acc' ys = .ok s
  | [], _, off, acc, _, decoded => ⟨fun _ _ => ⟨_, by rw [decodeFrom]⟩, off, acc, decoded⟩
  | b :: rest, ends, _, _, _, decoded => by
    have last : (b :: rest).getLast? = some 10 := ends.resolve_left (List.cons_ne_nil _ _)
    obtain ⟨c, w, read, positive, after⟩ := decodeFrom_eq_ok_of_ne_nil decoded (by simp)
    obtain ⟨pre, post, split, width, -, ascii, reads⟩ := readChar_eq_ok read
    have taken : pre = ((b :: rest) ++ ys).take w := by
      rw [split, ← width, List.take_left]
    -- The line feed that ends the bytes is a character of its own, so the first character lies
    -- within them.
    have fits : w ≤ (b :: rest).length := by
      by_contra beyond
      rw [Nat.not_le] at beyond
      have inside : (10 : UInt8) ∈ pre := by
        rw [taken, List.take_append, List.take_of_length_le beyond.le]
        exact List.mem_append_left _ (List.mem_of_getLast? last)
      have single := congrArg List.length (ascii 10 inside (by decide))
      rw [width, List.length_singleton] at single
      simp only [List.length_cons] at beyond
      omega
    have ended : (b :: rest).drop w = [] ∨ ((b :: rest).drop w).getLast? = some 10 := by
      rw [List.getLast?_drop]
      split
      · rename_i all
        exact .inl (List.drop_eq_nil_of_le all)
      · exact .inr last
    rw [List.drop_append_of_le_length fits] at after
    obtain ⟨decodesRest, tail⟩ := decodeFrom_append_of_feed ys _ ended after
    refine ⟨fun off' acc' => ?_, tail⟩
    obtain ⟨t, decodedRest⟩ := decodesRest (off' + w) (c :: acc')
    have readAlone : readChar (b :: rest) = .ok (c, w) := by
      rw [← List.take_append_drop w (b :: rest), ← List.take_append_of_le_length fits, ← taken]
      exact reads _
    exact ⟨t, by rw [decodeFrom_of_readChar readAlone positive, decodedRest]⟩
termination_by xs => xs.length
decreasing_by simp only [List.length_drop, List.length_cons]; omega

end FleetIssues.Text

namespace FleetIssues.Fleet

open FleetIssues.Text

/-- Lines that all end in a line feed but the last, and decode together, decode one by one. -/
theorem decodeLines_of_flatten : ∀ (lines : List (List UInt8)),
    (∀ line ∈ lines.dropLast, line.getLast? = some 10) → ∀ {off : Nat} {acc : List Char} {s : String},
    decodeFrom off acc lines.flatten = .ok s → ∃ texts, DecodeLines lines texts
  | [], _, _, _, _, _ => ⟨[], .nil⟩
  | [line], _, _, _, _, decoded => by
    obtain ⟨text, alone⟩ := decodeFrom_ok_of_ok (by simpa using decoded) 0 []
    exact ⟨[text], .cons alone .nil⟩
  | line :: next :: more, ended, _, _, _, decoded => by
    have feed : line.getLast? = some 10 := ended line (by simp)
    rw [List.flatten_cons] at decoded
    obtain ⟨first, _, _, rest⟩ := decodeFrom_append_of_feed _ line (.inr feed) decoded
    obtain ⟨text, alone⟩ := first 0 []
    have restEnded : ∀ l ∈ (next :: more).dropLast, l.getLast? = some 10 := fun l listed =>
      ended l (by rw [List.dropLast_cons_cons]; exact List.mem_cons_of_mem _ listed)
    obtain ⟨texts, valid⟩ := decodeLines_of_flatten (next :: more) restEnded rest
    exact ⟨text :: texts, .cons alone valid⟩

/-- A log that is UTF-8 as a whole is UTF-8 line by line. -/
theorem decodeLines_splitLines {bytes : List UInt8} {text : String} (valid : decodeUtf8 bytes = .ok text) :
    ∃ texts, DecodeLines (splitLines bytes) texts := by
  have whole : (splitLines bytes).flatten = bytes := by
    simpa [splitLines] using flatten_splitLinesFrom [] bytes
  have decoded : decodeFrom 0 [] (splitLines bytes).flatten = .ok text := by
    rw [whole]
    exact valid
  exact decodeLines_of_flatten (splitLines bytes) (splitLinesFrom_feed [] bytes) decoded

/-- Of lines that decode, the first decodes to the first text and the others to the rest. -/
theorem decodeLines_cons {line : List UInt8} {rest : List (List UInt8)} {unread : List String}
    {text : String} (valid : DecodeLines (line :: rest) unread) (decoded : decodeUtf8 line = .ok text) :
    ∃ later, unread = text :: later ∧ DecodeLines rest later := by
  obtain ⟨first, later, alone, laterValid, rfl⟩ := List.forall₂_cons_left_iff.mp valid
  rw [decoded, Except.ok.injEq] at alone
  exact ⟨later, by rw [alone], laterValid⟩

theorem messagesOf_append (texts more : List String) :
    messagesOf (texts ++ more) = messagesOf texts ++ messagesOf more := by
  simp [messagesOf, List.filter_append]

theorem messagesOf_singleton (text : String) :
    messagesOf [text] = if isBlankText (lineText text) then [] else [lineText text] := by
  rw [messagesOf_cons, messagesOf_nil]

theorem Index.consumeAll_append_singleton (ix : Index) (messages : List String) (message : String) :
    ix.consumeAll (messages ++ [message]) = ((ix.consumeAll messages).consume message).1 := by
  simp [Index.consumeAll, List.foldl_append]

/-- The counts of consumed messages: those that decoded and those that did not. -/
def countsOf (messages : List String) : ReplaySummary :=
  ⟨.ofNat (messages.countP decodes), .ofNat (messages.countP (!decodes ·))⟩

theorem countsOf_append_singleton (messages : List String) (message : String) :
    countsOf (messages ++ [message]) =
      ⟨(countsOf messages).applied + (if decodes message then 1 else 0),
        (countsOf messages).dropped + (if decodes message then 0 else 1)⟩ := by
  simp only [countsOf, List.countP_append, List.countP_singleton, UInt64.ofNat_add]
  cases decodes message <;> rfl

namespace Pipeline

/-- The consumer consumes the message and counts it by whether it decoded. -/
theorem receive_eq (s : Pipeline) (message : String) (rest : List String) :
    s.receive message rest =
      { s with
        channel := rest
        index := (s.index.consume message).1
        summary := ⟨s.summary.applied + (if decodes message then 1 else 0),
          s.summary.dropped + (if decodes message then 0 else 1)⟩ } := by
  unfold receive
  cases event : decode message with
  | ok e => simp [Index.consume, event, decodes, Except.isOk, Except.toBool]
  | error e => simp [Index.consume, event, decodes, Except.isOk, Except.toBool]

/-- A pipeline part way through lines that decode to `texts`: the reader has read what the consumer
received and then the channel, and the consumer's index and counts are of what it received. -/
structure Tracks (ix : Index) (texts : List String) (s : Pipeline) : Prop where
  roomy : 0 < s.capacity
  failure : s.failure = none
  closed : s.sending = false → s.unread = []
  progress : ∃ read unread received, texts = read ++ unread ∧ DecodeLines s.unread unread ∧
    messagesOf read = received ++ s.channel ∧ s.index = ix.consumeAll received ∧
    s.summary = countsOf received

theorem tracks_start {capacity : Nat} (roomy : 0 < capacity) (ix : Index) {bytes : List UInt8}
    {texts : List String} (valid : DecodeLines (splitLines bytes) texts) :
    Tracks ix texts (start capacity ix bytes) where
  roomy := roomy
  failure := rfl
  closed := nofun
  progress := ⟨[], texts, [], rfl, valid, rfl, rfl, rfl⟩

variable {ix : Index} {texts : List String} {s s' : Pipeline}

/-- Every move of the reader or the consumer keeps the pipeline on its way. -/
theorem Tracks.step (tracks : Tracks ix texts s) (step : Step s s') : Tracks ix texts s' := by
  obtain ⟨read, unread, received, split, valid, messages, index, summary⟩ := tracks.progress
  cases step with
  | @skip line rest text _ sending unreadLines decoded blank =>
    rw [unreadLines] at valid
    obtain ⟨later, rfl, laterValid⟩ := decodeLines_cons valid decoded
    refine ⟨tracks.roomy, tracks.failure, fun dropped => absurd sending (by simpa using dropped),
      read ++ [text], later, received, by simp [split], laterValid, ?_, index, summary⟩
    rw [messagesOf_append, messagesOf_singleton, if_pos blank, List.append_nil, messages]
  | @send line rest text _ sending unreadLines decoded solid _ =>
    rw [unreadLines] at valid
    obtain ⟨later, rfl, laterValid⟩ := decodeLines_cons valid decoded
    refine ⟨tracks.roomy, tracks.failure, fun dropped => absurd sending (by simpa using dropped),
      read ++ [text], later, received, by simp [split], laterValid, ?_, index, summary⟩
    rw [messagesOf_append, messagesOf_singleton, if_neg (by simp [solid]), messages,
      List.append_assoc]
  | fail _ _ unreadLines failed =>
    -- Every line decodes, so the reader never fails.
    rw [unreadLines] at valid
    obtain ⟨_, _, decoded, _, _⟩ := List.forall₂_cons_left_iff.mp valid
    rw [failed] at decoded
    cases decoded
  | close _ _ unreadLines =>
    exact ⟨tracks.roomy, tracks.failure, fun _ => unreadLines,
      read, unread, received, split, valid, messages, index, summary⟩
  | @receive message rest _ channel =>
    rw [receive_eq]
    refine ⟨tracks.roomy, tracks.failure, tracks.closed, read, unread, received ++ [message], split,
      valid, ?_, ?_, ?_⟩
    · rw [messages, channel, List.append_assoc, List.singleton_append]
    · rw [Index.consumeAll_append_singleton, index]
    · rw [countsOf_append_singleton, summary]

/-- Whatever the interleaving, a pipeline reached from the start stays on its way. -/
theorem Tracks.reaches (tracks : Tracks ix texts s) (reaches : Relation.ReflTransGen Step s s') :
    Tracks ix texts s' := by
  induction reaches with
  | refl => exact tracks
  | tail _ step on => exact on.step step

/-- With room in the channel, a pipeline on its way can move until the reader has dropped its
sender and the channel is empty. -/
theorem Tracks.done_of_stuck (tracks : Tracks ix texts s) (stuck : ∀ s', ¬ Step s s') :
    s.sending = false ∧ s.channel = [] := by
  obtain ⟨read, unread, received, split, valid, messages, index, summary⟩ := tracks.progress
  cases channel : s.channel with
  | cons message rest => exact absurd (Step.receive tracks.failure channel) (stuck _)
  | nil =>
    refine ⟨?_, rfl⟩
    cases sending : s.sending with
    | false => rfl
    | true =>
      exfalso
      cases unreadLines : s.unread with
      | nil => exact stuck _ (Step.close tracks.failure sending unreadLines)
      | cons line rest =>
        rw [unreadLines] at valid
        obtain ⟨text, _, decoded, _, _⟩ := List.forall₂_cons_left_iff.mp valid
        cases blank : isBlankText (lineText text) with
        | true => exact stuck _ (Step.skip tracks.failure sending unreadLines decoded blank)
        | false =>
          have room : s.channel.length < s.capacity := by
            rw [channel]
            exact tracks.roomy
          exact stuck _ (Step.send tracks.failure sending unreadLines decoded blank room)

/-- Once the reader has dropped its sender and the channel is empty, the consumer has consumed
every message of the log. -/
theorem Tracks.answer_of_done (tracks : Tracks ix texts s) (closed : s.sending = false)
    (empty : s.channel = []) : s.answer = (ix.consumeAll (messagesOf texts), .ok (countsOf (messagesOf texts))) := by
  obtain ⟨read, unread, received, split, valid, messages, index, summary⟩ := tracks.progress
  rw [tracks.closed closed] at valid
  obtain rfl := List.forall₂_nil_left_iff.mp valid
  rw [empty, List.append_nil] at messages
  rw [List.append_nil] at split
  subst split
  simp only [answer, tracks.failure, index, summary, messages]

/-- No interleaving goes on forever. -/
theorem step_wellFounded : WellFounded fun s' s => Step s s' :=
  Subrelation.wf (fun step => Step.work_lt step) (measure work).wf

/-- The ingest stops only where no move is left. -/
theorem next_ne_none (step : Step s s') : s.next ≠ none := by
  cases step with
  | skip ok sending unreadLines decoded blank =>
    simp [next, ok, readerMove, sending, unreadLines, decoded, blank]
  | send ok sending unreadLines decoded solid room =>
    simp [next, ok, readerMove, sending, unreadLines, decoded, solid, room]
  | fail ok sending unreadLines failed =>
    simp [next, ok, readerMove, sending, unreadLines, failed]
  | close ok sending unreadLines =>
    simp [next, ok, readerMove, sending, unreadLines]
  | receive ok channel =>
    cases reader : s.readerMove <;> simp [next, ok, reader, consumerMove, channel]

/-- The ingest follows moves of the pipeline. -/
theorem reaches_drive (s : Pipeline) : Relation.ReflTransGen Step s s.drive := by
  fun_induction drive s with
  | case1 s s' moved later => exact .head (next_step moved) later
  | case2 s _ => exact .refl

/-- The ingest stops where no move is left. -/
theorem drive_stuck (s : Pipeline) : ∀ s', ¬ Step s.drive s' := by
  fun_induction drive s with
  | case1 _ _ _ later => exact later
  | case2 s stopped => exact fun _ step => next_ne_none step stopped

end Pipeline

/-- With room for a line, every interleaving of reader and consumer on a UTF-8 log ends, and ends as
line ingestion does; the ingest is one such interleaving. -/
theorem streaming_ingest_matches_line_ingestion (capacity : Nat) (roomy : 0 < capacity) (ix : Index)
    (bytes : List UInt8) {text : String} (valid : decodeUtf8 bytes = .ok text) :
    (∀ s, Relation.ReflTransGen Pipeline.Step (Pipeline.start capacity ix bytes) s →
      (∀ s', ¬ Pipeline.Step s s') → s.answer = ix.consumeLines bytes) ∧
    WellFounded (fun s' s => Pipeline.Step s s') ∧
    Index.ingest capacity ix bytes = ix.consumeLines bytes := by
  obtain ⟨texts, lines⟩ := decodeLines_splitLines valid
  have synchronous :
      ix.consumeLines bytes = (ix.consumeAll (messagesOf texts), .ok (countsOf (messagesOf texts))) := by
    rw [Index.consumeLines, Index.consumeLineBytes_of_decodeLines lines]
    simp [countsOf]
  have ends : ∀ s, Relation.ReflTransGen Pipeline.Step (Pipeline.start capacity ix bytes) s →
      (∀ s', ¬ Pipeline.Step s s') → s.answer = ix.consumeLines bytes := by
    intro s reaches stuck
    have tracks := (Pipeline.tracks_start roomy ix lines).reaches reaches
    obtain ⟨closed, empty⟩ := tracks.done_of_stuck stuck
    rw [tracks.answer_of_done closed empty, synchronous]
  exact ⟨ends, Pipeline.step_wellFounded,
    ends _ (Pipeline.reaches_drive _) (Pipeline.drive_stuck _)⟩

/-- A log with a line ended by a carriage return and a line feed, a blank line, and a last line
with no line feed that holds a character of two bytes, through a channel of one line. -/
theorem streaming_ingest_of_mixed_line_ends :
    0 < 1 ∧ decodeUtf8 [120, 13, 10, 32, 10, 195, 132] = .ok "x\r\n \nÄ" ∧
      Index.ingest 1 Index.empty [120, 13, 10, 32, 10, 195, 132] =
        Index.empty.consumeLines [120, 13, 10, 32, 10, 195, 132] := by
  have utf8 : decodeUtf8 [120, 13, 10, 32, 10, 195, 132] = .ok "x\r\n \nÄ" := by
    simp [decodeUtf8, decodeFrom, readChar, leadRange, codePoint]
  exact ⟨by decide, utf8,
    (streaming_ingest_matches_line_ingestion 1 (by decide) Index.empty _ utf8).2.2⟩

end FleetIssues.Fleet
