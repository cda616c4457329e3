import FleetIssues.Json.Typed
import FleetIssues.Json.Value
import FleetIssues.Proofs.SortedMembers
/-! Reading compact JSON text back. -/

namespace FleetIssues.Json

variable {α β : Type}

theorem run_bind_of_ok {x : Reader α} {f : α → Reader β} {c c' : Cursor} {a : α}
    (h : x.run c = .ok (a, c')) : (x >>= f).run c = (f a).run c' := by
  rw [StateT.run_bind, h]; rfl

@[simp] theorem peekChar_run (c : Cursor) : peekChar.run c = .ok (c.rest.head?, c) := rfl
@[simp] theorem bump_run (c : Cursor) : bump.run c = .ok ((), c.advance) := rfl
@[simp] theorem fuelLeft_run (c : Cursor) : fuelLeft.run c = .ok (c.rest.length + 1, c) := rfl

@[simp] theorem Cursor.advance_rest (c : Cursor) : c.advance.rest = c.rest.tail := by
  rcases c with ⟨_ | ⟨ch, more⟩, line, column⟩
  · rfl
  · simp only [Cursor.advance]; split <;> rfl

theorem Cursor.start_rest (text : String) : (Cursor.start text).rest = text.toList := rfl

/-- A character that reading does not skip as a blank. -/
def Visible (ch : Char) : Prop := ch ≠ ' ' ∧ ch ≠ '\t' ∧ ch ≠ '\r' ∧ ch ≠ '\n'

instance : DecidablePred Visible := fun _ => inferInstanceAs (Decidable (_ ∧ _ ∧ _ ∧ _))

theorem skipBlanks_run {c : Cursor} {ch : Char} {rest : List Char} (h : c.rest = ch :: rest)
    (visible : Visible ch) :
    skipBlanks.run c = .ok (some ch, c) := by
  obtain ⟨r, line, column⟩ := c
  obtain rfl : r = ch :: rest := h
  obtain ⟨space, tab, ret, newline⟩ := visible
  have same : Cursor.skipBlanks ⟨ch :: rest, line, column⟩ = ⟨ch :: rest, line, column⟩ := by
    rw [Cursor.skipBlanks]
    simp [space, tab, ret, newline]
  simp only [skipBlanks, StateT.run_bind, StateT.run_modify, same]
  rfl

theorem skipBlanks_run_nil {c : Cursor} (h : c.rest = []) : skipBlanks.run c = .ok (none, c) := by
  obtain ⟨r, line, column⟩ := c
  obtain rfl : r = [] := h
  have same : Cursor.skipBlanks ⟨[], line, column⟩ = ⟨[], line, column⟩ := by
    rw [Cursor.skipBlanks]
    simp
  simp only [skipBlanks, StateT.run_bind, StateT.run_modify, same]
  rfl

/-- The two-character escapes: the letter after the backslash and the character it stands for. -/
def shortEscapes : List (Char × Char) :=
  [('"', '"'), ('\\', '\\'), ('b', '\x08'), ('t', '\t'), ('n', '\n'), ('f', '\x0c'), ('r', '\r')]

theorem escapeChar_cases (ch : Char) :
    (escapeChar ch = [ch] ∧ ch ≠ '"' ∧ ch ≠ '\\' ∧ 0x20 ≤ ch.toNat) ∨
    (∃ e, escapeChar ch = ['\\', e] ∧ (e, ch) ∈ shortEscapes) ∨
    (ch.toNat < 0x20 ∧
      escapeChar ch = ['\\', 'u', '0', '0', hexDigit (ch.toNat / 16), hexDigit (ch.toNat % 16)]) := by
  unfold escapeChar
  by_cases quote : ch = '"'
  · simp [quote, shortEscapes]
  by_cases backslash : ch = '\\'
  · simp [backslash, shortEscapes]
  by_cases control : ch.toNat < 0x20
  · simp only [beq_iff_eq, quote, backslash, control, if_false, if_true]
    have named : ∀ n e, ch.toNat = n → (e, Char.ofNat n) ∈ shortEscapes →
        (∃ e', ['\\', e] = ['\\', e'] ∧ (e', ch) ∈ shortEscapes) := fun n e h mem => by
      rw [← h, Char.ofNat_toNat] at mem
      exact ⟨e, rfl, mem⟩
    split
    next h => exact .inr (.inl (named 8 'b' h (by decide)))
    next h => exact .inr (.inl (named 9 't' h (by decide)))
    next h => exact .inr (.inl (named 10 'n' h (by decide)))
    next h => exact .inr (.inl (named 12 'f' h (by decide)))
    next h => exact .inr (.inl (named 13 'r' h (by decide)))
    next => exact .inr (.inr ⟨trivial, rfl⟩)
  · simp [quote, backslash, control]; omega

theorem readEscape_short {e ch : Char} (mem : (e, ch) ∈ shortEscapes) {c : Cursor}
    {rest : List Char} (h : c.rest = e :: rest) : readEscape.run c = .ok (ch, c.advance) := by
  unfold readEscape
  rw [run_bind_of_ok (peekChar_run c), h]
  simp only [shortEscapes, List.mem_cons, Prod.mk.injEq, List.not_mem_nil, or_false] at mem
  rcases mem with ⟨rfl, rfl⟩ | ⟨rfl, rfl⟩ | ⟨rfl, rfl⟩ | ⟨rfl, rfl⟩ | ⟨rfl, rfl⟩ | ⟨rfl, rfl⟩ |
    ⟨rfl, rfl⟩ <;> rfl

theorem hexValue_hexDigit : ∀ k < 16, hexValue (hexDigit k) = some k := by decide

theorem utf8Size_hexDigit : ∀ k < 16, (hexDigit k).utf8Size = 1 := by decide

theorem readHexQuad_run {a b : Nat} (ha : a < 16) (hb : b < 16) {c : Cursor} {rest : List Char}
    (h : c.rest = '0' :: '0' :: hexDigit a :: hexDigit b :: rest) :
    ∃ c', readHexQuad.run c = .ok (a * 16 + b, c') ∧ c'.rest = rest := by
  have zero : hexValue '0' = some 0 := by decide
  have narrow : '0'.utf8Size = 1 := by decide
  unfold readHexQuad
  simp [h, Cursor.bytesLeftUpTo, utf8Size_hexDigit a ha, utf8Size_hexDigit b hb, hexQuad,
    hexValue_hexDigit a ha, hexValue_hexDigit b hb, zero, narrow]
  exact ⟨_, rfl, by simp [h]⟩

theorem readEscape_control {ch : Char} (control : ch.toNat < 0x20) {c : Cursor} {rest : List Char}
    (h : c.rest =
      'u' :: '0' :: '0' :: hexDigit (ch.toNat / 16) :: hexDigit (ch.toNat % 16) :: rest) :
    ∃ c', readEscape.run c = .ok (ch, c') ∧ c'.rest = rest := by
  have digits : c.advance.rest =
      '0' :: '0' :: hexDigit (ch.toNat / 16) :: hexDigit (ch.toNat % 16) :: rest := by simp [h]
  obtain ⟨c', quad, after⟩ :=
    readHexQuad_run (show ch.toNat / 16 < 16 by omega) (show ch.toNat % 16 < 16 by omega) digits
  have value : ch.toNat / 16 * 16 + ch.toNat % 16 = ch.toNat := by omega
  refine ⟨c', ?_, after⟩
  unfold readEscape readUnicodeEscape
  rw [run_bind_of_ok (peekChar_run c), h]
  simp only [List.head?_cons]
  rw [run_bind_of_ok (bump_run c), run_bind_of_ok quad]
  simp only [value, isLowSurrogate, isHighSurrogate, Char.ofNat_toNat]
  rw [if_neg (by simp; omega), if_pos (by simp; omega)]
  rfl

theorem readStringBody_escapeChar (fuel : Nat) (acc : List Char) (ch : Char) {c : Cursor}
    {rest : List Char} (h : c.rest = escapeChar ch ++ rest) :
    ∃ c', c'.rest = rest ∧
      (readStringBody (fuel + 1) acc).run c = (readStringBody fuel (ch :: acc)).run c' := by
  rcases escapeChar_cases ch with ⟨plain, quote, backslash, printable⟩ | ⟨e, short, mem⟩ |
    ⟨control, unicode⟩
  · rw [plain, List.singleton_append] at h
    refine ⟨c.advance, by simp [h], ?_⟩
    rw [readStringBody, run_bind_of_ok (peekChar_run c), h]
    simp only [List.head?_cons]
    split
    next control => exact absurd control (by omega)
    next => rw [run_bind_of_ok (bump_run c)]
  · rw [short, List.cons_append, List.singleton_append] at h
    have letter : c.advance.rest = e :: rest := by simp [h]
    have escape := readEscape_short mem letter
    refine ⟨c.advance.advance, by simp [h], ?_⟩
    rw [readStringBody, run_bind_of_ok (peekChar_run c), h]
    simp only [List.head?_cons]
    rw [run_bind_of_ok (bump_run c), run_bind_of_ok escape]
  · rw [unicode] at h
    have letters : c.advance.rest =
        'u' :: '0' :: '0' :: hexDigit (ch.toNat / 16) :: hexDigit (ch.toNat % 16) :: rest := by
      simp [h]
    obtain ⟨c', escape, after⟩ := readEscape_control control letters
    refine ⟨c', after, ?_⟩
    rw [readStringBody, run_bind_of_ok (peekChar_run c), h]
    simp only [List.cons_append, List.head?_cons]
    rw [run_bind_of_ok (bump_run c), run_bind_of_ok escape]

theorem escapeChar_ne_nil (ch : Char) : escapeChar ch ≠ [] := by
  rcases escapeChar_cases ch with ⟨plain, -⟩ | ⟨e, short, -⟩ | ⟨-, unicode⟩ <;> simp [*]

theorem length_le_flatMap_escapeChar (cs : List Char) :
    cs.length ≤ (cs.flatMap escapeChar).length := by
  induction cs with
  | nil => simp
  | cons ch cs ih =>
    have := List.length_pos_iff.mpr (escapeChar_ne_nil ch)
    simp only [List.flatMap_cons, List.length_append, List.length_cons]
    omega

theorem readStringBody_escaped (cs : List Char) (fuel : Nat) (acc : List Char) {c : Cursor}
    {more : List Char} (h : c.rest = cs.flatMap escapeChar ++ '"' :: more)
    (enough : cs.length < fuel) :
    ∃ c', (readStringBody fuel acc).run c = .ok (String.ofList (acc.reverse ++ cs), c') ∧
      c'.rest = more := by
  induction cs generalizing fuel acc c with
  | nil =>
    obtain ⟨fuel, rfl⟩ : ∃ f, fuel = f + 1 := ⟨fuel - 1, by simp at enough; omega⟩
    rw [List.flatMap_nil, List.nil_append] at h
    refine ⟨c.advance, ?_, by simp [h]⟩
    rw [readStringBody, run_bind_of_ok (peekChar_run c), h]
    simp only [List.head?_cons, List.append_nil]
    rfl
  | cons ch cs ih =>
    obtain ⟨fuel, rfl⟩ : ∃ f, fuel = f + 1 := ⟨fuel - 1, by simp at enough; omega⟩
    have split : c.rest = escapeChar ch ++ (cs.flatMap escapeChar ++ '"' :: more) := by
      simp [h]
    obtain ⟨c', after, step⟩ := readStringBody_escapeChar fuel acc ch split
    obtain ⟨c'', run, rest⟩ := ih fuel (ch :: acc) after (by simp at enough; omega)
    exact ⟨c'', by rw [step, run]; simp, rest⟩

/-- Reading a quoted string gives the string back, whatever follows it. -/
theorem readString_quote (s : String) {c : Cursor} {more : List Char}
    (h : c.rest = (quote s).toList ++ more) :
    ∃ c', readString.run c = .ok (s, c') ∧ c'.rest = more := by
  have body : c.advance.rest = s.toList.flatMap escapeChar ++ '"' :: more := by
    simp [h, quote]
  have enough : s.toList.length < c.advance.rest.length + 1 := by
    have := length_le_flatMap_escapeChar s.toList
    rw [body, List.length_append, List.length_cons]; omega
  obtain ⟨c', run, rest⟩ := readStringBody_escaped s.toList _ [] body enough
  refine ⟨c', ?_, rest⟩
  rw [readString, run_bind_of_ok (bump_run c), run_bind_of_ok (fuelLeft_run _), run]
  simp

/-- What may follow a number without extending it: nothing, or a character that is no digit,
point or exponent mark. -/
def EndsNumber (more : List Char) : Prop :=
  ∀ ch ∈ more.head?, isDigitChar ch = false ∧ ch ≠ '.' ∧ ch ≠ 'e' ∧ ch ≠ 'E'

theorem isDigitChar_eq_isDigit (ch : Char) : isDigitChar ch = ch.isDigit := by
  simp [isDigitChar, Char.isDigit, Char.le_def]

theorem readNumberTail_natural (n : Nat) {c : Cursor} (ends : EndsNumber c.rest) :
    (readNumberTail true n).run c = .ok (.natural n, c) := by
  unfold readNumberTail
  rw [run_bind_of_ok (peekChar_run c)]
  split
  next point => exact absurd rfl (ends '.' point).2.1
  next e => exact absurd rfl (ends 'e' e).2.2.1
  next e => exact absurd rfl (ends 'E' e).2.2.2
  next => rfl

theorem readNumberTail_negative {n : Nat} (pos : 0 < n) (fits : n ≤ 9223372036854775808)
    {c : Cursor} (ends : EndsNumber c.rest) :
    (readNumberTail false n).run c = .ok (.negative (-(n : Int)), c) := by
  unfold readNumberTail
  rw [run_bind_of_ok (peekChar_run c)]
  split
  next point => exact absurd rfl (ends '.' point).2.1
  next e => exact absurd rfl (ends 'e' e).2.2.1
  next e => exact absurd rfl (ends 'E' e).2.2.2
  next =>
    have nonzero : (n == 0) = false := by simpa using Nat.pos_iff_ne_zero.mp pos
    simp [nonzero, fits]
    rfl

theorem le_ofDigitChars (ds : List Char) (s : Nat) : s ≤ Nat.ofDigitChars 10 ds s := by
  rw [Nat.ofDigitChars_eq_ofDigitChars_zero]
  calc s ≤ 10 ^ ds.length * s := Nat.le_mul_of_pos_left s (Nat.pow_pos (by decide))
    _ ≤ _ := Nat.le_add_right _ _

/-- The digits after the first are read while the number fits; the number is their value. -/
theorem readSignificand_digits (positive : Bool) (ds : List Char) (fuel s : Nat) {c : Cursor}
    {more : List Char} (h : c.rest = ds ++ more) (digits : ∀ ch ∈ ds, isDigitChar ch = true)
    (ends : EndsNumber more) (fits : Nat.ofDigitChars 10 ds s ≤ natural64Max)
    (enough : ds.length < fuel) :
    ∃ c', c'.rest = more ∧
      (readSignificand positive fuel s).run c =
        (readNumberTail positive (Nat.ofDigitChars 10 ds s)).run c' := by
  induction ds generalizing fuel s c with
  | nil =>
    obtain ⟨fuel, rfl⟩ : ∃ f, fuel = f + 1 := ⟨fuel - 1, by simp at enough; omega⟩
    rw [List.nil_append] at h
    refine ⟨c, h, ?_⟩
    rw [readSignificand, run_bind_of_ok (peekChar_run c)]
    split
    next ch head =>
      rw [h] at head
      rw [if_neg (by simp [(ends ch head).1])]
      rfl
    next => rfl
  | cons d ds ih =>
    have step : s * 10 + digitOf d ≤ natural64Max := by
      have := le_ofDigitChars ds (10 * s + (d.toNat - '0'.toNat))
      rw [Nat.ofDigitChars_cons] at fits
      unfold digitOf; omega
    obtain ⟨fuel, rfl⟩ : ∃ f, fuel = f + 2 := ⟨fuel - 2, by simp at enough; omega⟩
    have after : c.advance.rest = ds ++ more := by simp [h]
    have folded : Nat.ofDigitChars 10 ds (s * 10 + digitOf d) ≤ natural64Max := by
      rw [Nat.ofDigitChars_cons] at fits; unfold digitOf; rwa [Nat.mul_comm]
    obtain ⟨c', rest, run⟩ := ih (fuel + 1) (s * 10 + digitOf d) after
      (fun ch mem => digits ch (.tail d mem)) folded (by simp at enough; omega)
    refine ⟨c', rest, ?_⟩
    rw [readSignificand, run_bind_of_ok (peekChar_run c), h]
    simp only [List.cons_append, List.head?_cons, digits d List.mem_cons_self, if_true,
      if_neg (Nat.not_lt.mpr step)]
    rw [run_bind_of_ok (bump_run c), run, Nat.ofDigitChars_cons]
    unfold digitOf; rw [Nat.mul_comm]

theorem toDigits_head (n : Nat) (pos : 0 < n) :
    ∃ d ds, Nat.toDigits 10 n = d :: ds ∧ d ≠ '0' := by
  induction n using Nat.strongRecOn with
  | ind n ih =>
    rw [Nat.toDigits_eq_if (by decide)]
    split
    next small =>
      have nonzero : ∀ k < 10, 0 < k → Nat.digitChar k ≠ '0' := by decide
      exact ⟨_, [], rfl, nonzero n small pos⟩
    next large =>
      obtain ⟨d, ds, eq, ne⟩ := ih (n / 10) (by omega) (by omega)
      exact ⟨d, ds ++ _, by rw [eq]; rfl, ne⟩

theorem digits_of_mem_toDigits {n : Nat} {ch : Char} (mem : ch ∈ Nat.toDigits 10 n) :
    isDigitChar ch = true := by
  rw [isDigitChar_eq_isDigit]
  exact Nat.isDigit_of_mem_toDigits (by decide) (by decide) mem

/-- The decimal digits of a number that fits are read as that number, up to its tail. -/
theorem readNumber_toDigits (positive : Bool) (n : Nat) {c : Cursor} {more : List Char}
    (h : c.rest = Nat.toDigits 10 n ++ more) (ends : EndsNumber more) (fits : n ≤ natural64Max) :
    ∃ c', c'.rest = more ∧ (readNumber positive).run c = (readNumberTail positive n).run c' := by
  rcases Nat.eq_zero_or_pos n with rfl | pos
  · rw [Nat.toDigits_zero, List.singleton_append] at h
    refine ⟨c.advance, by simp [h], ?_⟩
    have after : c.advance.rest = more := by simp [h]
    rw [readNumber, run_bind_of_ok (peekChar_run c), h]
    simp only [List.head?_cons, beq_self_eq_true, if_true]
    rw [run_bind_of_ok (bump_run c), run_bind_of_ok (peekChar_run _), after]
    split
    next d head => rw [if_neg (by simp [(ends d head).1])]
    next => rfl
  · obtain ⟨d, ds, digits, first⟩ := toDigits_head n pos
    have isDigit : isDigitChar d = true := digits_of_mem_toDigits (by rw [digits]; exact .head _)
    have value : Nat.ofDigitChars 10 ds (digitOf d) = n := by
      have := Nat.ofDigitChars_ten_toDigits (n := n)
      rwa [digits, Nat.ofDigitChars_cons, Nat.mul_zero, Nat.zero_add] at this
    have after : c.advance.rest = ds ++ more := by simp [h, digits]
    obtain ⟨c', rest, run⟩ := readSignificand_digits positive ds (c.advance.rest.length + 1)
      (digitOf d) after (fun ch mem => digits_of_mem_toDigits (by rw [digits]; exact .tail d mem))
      ends (by rwa [value]) (by rw [after, List.length_append]; omega)
    refine ⟨c', rest, ?_⟩
    rw [readNumber, run_bind_of_ok (peekChar_run c), h, digits]
    simp only [List.cons_append, List.head?_cons, beq_iff_eq, first, if_false, isDigit, if_true]
    rw [run_bind_of_ok (bump_run c), run_bind_of_ok (fuelLeft_run _), run, value]

theorem expectWord_run (ws : List Char) {c : Cursor} {more : List Char} (h : c.rest = ws ++ more) :
    ∃ c', (expectWord ws).run c = .ok ((), c') ∧ c'.rest = more := by
  induction ws generalizing c with
  | nil => exact ⟨c, rfl, h⟩
  | cons w ws ih =>
    have after : c.advance.rest = ws ++ more := by simp [h]
    obtain ⟨c', run, rest⟩ := ih after
    refine ⟨c', ?_, rest⟩
    rw [expectWord, run_bind_of_ok (peekChar_run c), h]
    simp only [List.cons_append, List.head?_cons, beq_self_eq_true, if_true]
    rw [run_bind_of_ok (bump_run c), run]

/-- A keyword whose first letter is looked at: the letter is taken, then the rest of the word. -/
theorem keyword_run {ws more : List Char} (v : Value) {c : Cursor}
    (h : c.advance.rest = ws ++ more) :
    ∃ c', (do bump; expectWord ws; return v : Reader Value).run c = .ok (v, c') ∧
      c'.rest = more := by
  obtain ⟨c', run, rest⟩ := expectWord_run ws h
  refine ⟨c', ?_, rest⟩
  rw [run_bind_of_ok (bump_run c), run_bind_of_ok run]
  rfl

theorem enter_run {depth : Nat} (deep : 1 < depth) (c : Cursor) :
    (enter depth).run c = .ok (depth - 1, c.advance) := by
  rw [enter, if_neg (by omega)]
  rfl

theorem closing_run {body : Reader α} {close : Reader (Except ReadError Unit)} {c c' c'' : Cursor}
    {a : α} (read : body.run c = .ok (a, c')) (closed : close.run c' = .ok (.ok (), c'')) :
    (closing body close).run c = .ok (a, c'') := by
  have caught : (tryCatch (Except.ok <$> body)
      fun e => pure (Except.error e) : Reader (Except ReadError α)).run c = .ok (.ok a, c') := by
    change tryCatchThe ReadError ((Except.ok <$> body).run c) _ = _
    rw [StateT.run_map, read]
    rfl
  rw [closing, run_bind_of_ok caught, run_bind_of_ok closed]
  rfl

theorem nextElement_close (first : Bool) {c : Cursor} {more : List Char}
    (h : c.rest = ']' :: more) : (nextElement first).run c = .ok (false, c) := by
  rw [nextElement, run_bind_of_ok (skipBlanks_run h (by decide))]
  rfl

theorem nextElement_first {c : Cursor} {ch : Char} {rest : List Char} (h : c.rest = ch :: rest)
    (visible : Visible ch) (open_ : ch ≠ ']') : (nextElement true).run c = .ok (true, c) := by
  rw [nextElement, run_bind_of_ok (skipBlanks_run h visible)]
  split
  next same => cases same; exact absurd rfl open_
  next => rfl
  next => rfl
  next same => cases same

theorem nextElement_comma {c : Cursor} {ch : Char} {rest : List Char}
    (h : c.rest = ',' :: ch :: rest) (visible : Visible ch) (open_ : ch ≠ ']') :
    (nextElement false).run c = .ok (true, c.advance) := by
  have after : c.advance.rest = ch :: rest := by simp [h]
  rw [nextElement, run_bind_of_ok (skipBlanks_run h (by decide))]
  simp only [Bool.false_eq_true, if_false]
  rw [run_bind_of_ok (bump_run c), run_bind_of_ok (skipBlanks_run after visible)]
  split
  next same => cases same; exact absurd rfl open_
  next => rfl
  next same => cases same

theorem closeArray_run {c : Cursor} {more : List Char} (h : c.rest = ']' :: more) :
    closeArray.run c = .ok (.ok (), c.advance) := by
  rw [closeArray, run_bind_of_ok (skipBlanks_run h (by decide))]
  rfl

theorem closeObject_run {c : Cursor} {more : List Char} (h : c.rest = '}' :: more) :
    closeObject.run c = .ok (.ok (), c.advance) := by
  rw [closeObject, run_bind_of_ok (skipBlanks_run h (by decide))]
  rfl

theorem expectColon_run {c : Cursor} {more : List Char} (h : c.rest = ':' :: more) :
    expectColon.run c = .ok ((), c.advance) := by
  rw [expectColon, run_bind_of_ok (skipBlanks_run h (by decide))]
  rfl

theorem nextKey_close (first : Bool) {c : Cursor} {more : List Char}
    (h : c.rest = '}' :: more) : (nextKey first).run c = .ok (none, c) := by
  rw [nextKey, run_bind_of_ok (skipBlanks_run h (by decide))]
  rfl

theorem readKeyAt_quote (k : String) {c : Cursor} {more : List Char}
    (h : c.rest = (quote k).toList ++ more) :
    ∃ c', (readKeyAt (some '"')).run c = .ok (some k, c') ∧ c'.rest = more := by
  obtain ⟨c', run, rest⟩ := readString_quote k h
  refine ⟨c', ?_, rest⟩
  rw [readKeyAt, StateT.run_map, run]
  rfl

theorem quote_toList (s : String) :
    (quote s).toList = '"' :: (s.toList.flatMap escapeChar ++ ['"']) := by
  simp [quote]

theorem nextKey_first (k : String) {c : Cursor} {more : List Char}
    (h : c.rest = (quote k).toList ++ more) :
    ∃ c', (nextKey true).run c = .ok (some k, c') ∧ c'.rest = more := by
  have opening : c.rest = '"' :: (k.toList.flatMap escapeChar ++ ['"'] ++ more) := by
    rw [h, quote_toList]; simp
  obtain ⟨c', run, rest⟩ := readKeyAt_quote k h
  refine ⟨c', ?_, rest⟩
  rw [nextKey, run_bind_of_ok (skipBlanks_run opening (by decide))]
  exact run

theorem nextKey_comma (k : String) {c : Cursor} {more : List Char}
    (h : c.rest = ',' :: ((quote k).toList ++ more)) :
    ∃ c', (nextKey false).run c = .ok (some k, c') ∧ c'.rest = more := by
  have after : c.advance.rest = (quote k).toList ++ more := by simp [h]
  have opening : c.advance.rest = '"' :: (k.toList.flatMap escapeChar ++ ['"'] ++ more) := by
    rw [after, quote_toList]; simp
  obtain ⟨c', run, rest⟩ := readKeyAt_quote k after
  refine ⟨c', ?_, rest⟩
  rw [nextKey, run_bind_of_ok (skipBlanks_run h (by decide))]
  simp only [Bool.false_eq_true, if_false]
  rw [run_bind_of_ok (bump_run c), run_bind_of_ok (skipBlanks_run opening (by decide))]
  exact run

mutual
/-- A value that reading its compact text with `depth` levels of nesting left gives back: its
numbers are integers that fit in 64 bits, its object keys increase strictly, and it nests less
than `depth` deep. -/
def Value.ReadsBack : Nat → Value → Prop
  | 0, _ => False
  | _ + 1, .null => True
  | _ + 1, .bool _ => True
  | _ + 1, .number (.natural n) => n ≤ natural64Max
  | _ + 1, .number (.negative i) => -9223372036854775808 ≤ i ∧ i < 0
  | _ + 1, .number (.double _) => False
  | _ + 1, .string _ => True
  | depth + 1, .array items => 0 < depth ∧ itemsReadBack depth items
  | depth + 1, .object members =>
    0 < depth ∧ (members.map Prod.fst).Pairwise (· < ·) ∧ membersReadBack depth members

/-- Every element reads back. -/
def itemsReadBack (depth : Nat) : List Value → Prop
  | [] => True
  | v :: rest => v.ReadsBack depth ∧ itemsReadBack depth rest

/-- Every member's value reads back. -/
def membersReadBack (depth : Nat) : List (String × Value) → Prop
  | [] => True
  | (_, v) :: rest => v.ReadsBack depth ∧ membersReadBack depth rest
end

/-- The compact text of one member. -/
def memberChars (m : String × Value) : List Char := (quote m.1).toList ++ ':' :: m.2.compact.toList

theorem itemsReadBack_iff {depth : Nat} {items : List Value} :
    itemsReadBack depth items ↔ ∀ v ∈ items, v.ReadsBack depth := by
  induction items with
  | nil => simp [itemsReadBack]
  | cons v rest ih => simp [itemsReadBack, ih]

theorem membersReadBack_iff {depth : Nat} {members : List (String × Value)} :
    membersReadBack depth members ↔ ∀ m ∈ members, m.2.ReadsBack depth := by
  induction members with
  | nil => simp [membersReadBack]
  | cons m rest ih => obtain ⟨k, v⟩ := m; simp [membersReadBack, ih]

/-- An object sorted from members that read back reads back, one level deeper. -/
theorem sortedObject_readsBack {depth : Nat} {members : List (String × Value)} (deep : 0 < depth)
    (all : ∀ m ∈ members, m.2.ReadsBack depth) :
    (Value.sortedObject members).ReadsBack (depth + 1) := by
  obtain ⟨sorted, eq, increasing, given⟩ := Value.sortedObject_members members
  rw [eq, Value.ReadsBack]
  exact ⟨deep, increasing, membersReadBack_iff.mpr fun m mem => all m (given m mem)⟩

theorem readsBack_strings (depth : Nat) (texts : List String) :
    (Value.array (texts.map .string)).ReadsBack (depth + 2) := by
  rw [Value.ReadsBack]
  refine ⟨by omega, itemsReadBack_iff.mpr fun v mem => ?_⟩
  obtain ⟨s, -, rfl⟩ := List.mem_map.mp mem
  trivial

theorem compactItems_cons_toList (v : Value) (rest : List Value) :
    (compactItems (v :: rest)).toList =
      v.compact.toList ++ rest.flatMap (fun w => ',' :: w.compact.toList) := by
  induction rest generalizing v with
  | nil => simp [compactItems]
  | cons w rest ih => simp [compactItems, ih]

theorem compactMembers_cons_toList (m : String × Value) (rest : List (String × Value)) :
    (compactMembers (m :: rest)).toList =
      memberChars m ++ rest.flatMap (fun n => ',' :: memberChars n) := by
  induction rest generalizing m with
  | nil => simp [compactMembers, memberChars]
  | cons n rest ih => simp [compactMembers, memberChars, ih]

theorem toList_toString_of_neg {i : Int} (neg : i < 0) :
    (toString i).toList = '-' :: Nat.toDigits 10 i.natAbs := by
  obtain ⟨m, rfl⟩ := Int.eq_negSucc_of_lt_zero neg
  simp [Int.toString_eq_repr, Int.repr, Int.natAbs_negSucc]

/-- Compact text starts with a character that is no blank and closes nothing. -/
theorem compact_head {depth : Nat} {v : Value} (fits : v.ReadsBack depth) :
    ∃ ch rest, v.compact.toList = ch :: rest ∧ Visible ch ∧ ch ≠ ']' := by
  match depth, v with
  | 0, _ => simp [Value.ReadsBack] at fits
  | _ + 1, .null => exact ⟨_, _, rfl, by decide, by decide⟩
  | _ + 1, .bool true => exact ⟨_, _, rfl, by decide, by decide⟩
  | _ + 1, .bool false => exact ⟨_, _, rfl, by decide, by decide⟩
  | _ + 1, .number (.natural n) =>
    obtain ⟨d, ds, digits⟩ : ∃ d ds, Nat.toDigits 10 n = d :: ds :=
      List.exists_cons_of_ne_nil Nat.toDigits_ne_nil
    have isDigit := digits_of_mem_toDigits (digits ▸ List.mem_cons_self : d ∈ Nat.toDigits 10 n)
    refine ⟨d, ds, by simp [Value.compact, Number.text, digits], ?_, ?_⟩
    · refine ⟨?_, ?_, ?_, ?_⟩ <;> rintro rfl <;> simp [isDigitChar] at isDigit
    · rintro rfl; simp [isDigitChar] at isDigit
  | _ + 1, .number (.negative i) =>
    simp only [Value.ReadsBack] at fits
    exact ⟨'-', _, toList_toString_of_neg fits.2, by decide, by decide⟩
  | _ + 1, .number (.double _) => simp [Value.ReadsBack] at fits
  | _ + 1, .string s => exact ⟨_, _, quote_toList s, by decide, by decide⟩
  | _ + 1, .array items =>
    exact ⟨'[', (compactItems items).toList ++ [']'], by simp [Value.compact], by decide, by decide⟩
  | _ + 1, .object members =>
    exact ⟨'{', (compactMembers members).toList ++ ['}'], by simp [Value.compact], by decide,
      by decide⟩

theorem visible_of_digit {ch : Char} (digit : isDigitChar ch = true) : Visible ch := by
  refine ⟨?_, ?_, ?_, ?_⟩ <;> rintro rfl <;> simp [isDigitChar] at digit

theorem readValue_digit (depth : Nat) {c : Cursor} {ch : Char} {rest : List Char}
    (h : c.rest = ch :: rest) (digit : isDigitChar ch = true) :
    (readValue (depth + 1)).run c = (ReadNumber.toValue <$> readNumber true).run c := by
  rw [readValue, run_bind_of_ok (skipBlanks_run h (visible_of_digit digit))]
  simp only
  split
  -- every other first character contradicts being a digit
  all_goals first
    | exact absurd digit (by decide)
    | rw [if_pos digit]

theorem endsNumber_separated {γ : Type} (text : γ → List Char) (rest : List γ) {close : Char}
    (closing : close = ']' ∨ close = '}') (more : List Char) :
    EndsNumber (rest.flatMap (fun w => ',' :: text w) ++ close :: more) := by
  intro ch head
  cases rest with
  | nil => rcases closing with rfl | rfl <;> simp at head <;> subst head <;> decide
  | cons w rest => simp at head; subst head; decide

mutual
/-- Reading the compact text of a value gives the value back and stops right after it. -/
theorem readValue_compact (depth : Nat) (v : Value) (fits : v.ReadsBack depth) {c : Cursor}
    {more : List Char} (h : c.rest = v.compact.toList ++ more) (ends : EndsNumber more) :
    ∃ c', (readValue depth).run c = .ok (v, c') ∧ c'.rest = more := by
  -- the hypotheses on `v` go into the goal, so that matching on it does not compare texts
  revert fits h ends
  match depth, v with
  | 0, _ => intro fits; simp [Value.ReadsBack] at fits
  | d + 1, .null =>
    intro fits h ends
    have text : c.rest = 'n' :: (['u', 'l', 'l'] ++ more) := h
    rw [readValue, run_bind_of_ok (skipBlanks_run text (by decide))]
    exact keyword_run (.null) (by simp [text])
  | d + 1, .bool true =>
    intro fits h ends
    have text : c.rest = 't' :: (['r', 'u', 'e'] ++ more) := h
    rw [readValue, run_bind_of_ok (skipBlanks_run text (by decide))]
    exact keyword_run (.bool true) (by simp [text])
  | d + 1, .bool false =>
    intro fits h ends
    have text : c.rest = 'f' :: (['a', 'l', 's', 'e'] ++ more) := h
    rw [readValue, run_bind_of_ok (skipBlanks_run text (by decide))]
    exact keyword_run (.bool false) (by simp [text])
  | d + 1, .number (.natural n) =>
    intro fits h ends
    have text : c.rest = Nat.toDigits 10 n ++ more := by
      rw [h]; show (toString n).toList ++ more = _; simp
    obtain ⟨ch, ds, digits⟩ := List.exists_cons_of_ne_nil (Nat.toDigits_ne_nil (n := n) (b := 10))
    have first : c.rest = ch :: (ds ++ more) := by rw [text, digits]; rfl
    have digit := digits_of_mem_toDigits (by rw [digits]; exact List.mem_cons_self)
    obtain ⟨c', rest, run⟩ := readNumber_toDigits true n text ends fits
    refine ⟨c', ?_, rest⟩
    rw [readValue_digit d first digit, StateT.run_map, run, readNumberTail_natural n (rest ▸ ends)]
    rfl
  | d + 1, .number (.negative i) =>
    intro fits h ends
    obtain ⟨low, neg⟩ := fits
    have text : c.rest = '-' :: (Nat.toDigits 10 i.natAbs ++ more) := by
      rw [h]; show (toString i).toList ++ more = _; rw [toList_toString_of_neg neg]; rfl
    have after : c.advance.rest = Nat.toDigits 10 i.natAbs ++ more := by simp [text]
    obtain ⟨c', rest, run⟩ := readNumber_toDigits false i.natAbs after ends
      (by unfold natural64Max; omega)
    refine ⟨c', ?_, rest⟩
    rw [readValue, run_bind_of_ok (skipBlanks_run text (by decide))]
    simp only
    rw [run_bind_of_ok (bump_run c), StateT.run_map, run,
      readNumberTail_negative (by omega) (by omega) (rest ▸ ends)]
    have same : -(i.natAbs : Int) = i := by omega
    rw [same]
    rfl
  | d + 1, .number (.double _) => intro fits; simp [Value.ReadsBack] at fits
  | d + 1, .string s =>
    intro fits h ends
    have text : c.rest = (quote s).toList ++ more := h
    obtain ⟨c', run, rest⟩ := readString_quote s text
    have first : c.rest = '"' :: (s.toList.flatMap escapeChar ++ ['"'] ++ more) := by
      rw [text, quote_toList]; simp
    refine ⟨c', ?_, rest⟩
    rw [readValue, run_bind_of_ok (skipBlanks_run first (by decide))]
    simp only
    rw [StateT.run_map, run]
    rfl
  | d + 1, .array items =>
    intro fits h ends
    obtain ⟨deep, all⟩ := fits
    have text : c.rest = '[' :: ((compactItems items).toList ++ ']' :: more) := by
      rw [h]; simp [Value.compact]
    have inside : c.advance.rest = (compactItems items).toList ++ ']' :: more := by simp [text]
    obtain ⟨c1, run, closed⟩ := readElements_all d items all inside
    have body : (do readElements (readValue d) (← fuelLeft) true []).run c.advance =
        .ok (items, c1) := by
      rw [run_bind_of_ok (fuelLeft_run _)]; exact run
    refine ⟨c1.advance, ?_, by simp [closed]⟩
    rw [readValue, run_bind_of_ok (skipBlanks_run text (by decide))]
    simp only
    rw [run_bind_of_ok (enter_run (by omega) c),
      run_bind_of_ok (closing_run body (closeArray_run closed))]
    rfl
  | d + 1, .object members =>
    intro fits h ends
    obtain ⟨deep, sorted, all⟩ := fits
    have text : c.rest = '{' :: ((compactMembers members).toList ++ '}' :: more) := by
      rw [h]; simp [Value.compact]
    have inside : c.advance.rest = (compactMembers members).toList ++ '}' :: more := by
      simp [text]
    obtain ⟨c1, run, closed⟩ := readMembers_all d members all inside
    have body : (do readMembers (readValue d) (← fuelLeft) true []).run c.advance =
        .ok (members, c1) := by
      rw [run_bind_of_ok (fuelLeft_run _)]; exact run
    refine ⟨c1.advance, ?_, by simp [closed]⟩
    rw [readValue, run_bind_of_ok (skipBlanks_run text (by decide))]
    simp only
    rw [run_bind_of_ok (enter_run (by omega) c),
      run_bind_of_ok (closing_run body (closeObject_run closed)), Value.sortedObject_of_sorted sorted]
    rfl

/-- The elements of an array, read from the first up to its closing bracket. -/
theorem readElements_all (depth : Nat) (items : List Value) (fits : itemsReadBack depth items)
    {c : Cursor} {more : List Char} (h : c.rest = (compactItems items).toList ++ ']' :: more) :
    ∃ c', (readElements (readValue depth) (c.rest.length + 1) true []).run c = .ok (items, c') ∧
      c'.rest = ']' :: more := by
  match items with
  | [] =>
    have text : c.rest = ']' :: more := h
    refine ⟨c, ?_, text⟩
    rw [readElements, run_bind_of_ok (nextElement_close true text)]
    rfl
  | v :: rest =>
    obtain ⟨first, others⟩ := fits
    obtain ⟨ch, tail, head, visible, open_⟩ := compact_head first
    have text : c.rest = v.compact.toList ++ (rest.flatMap (fun w => ',' :: w.compact.toList) ++
        ']' :: more) := by
      rw [h, compactItems_cons_toList]; simp
    obtain ⟨c1, run, after⟩ := readValue_compact depth v first text
      (endsNumber_separated _ rest (.inl rfl) more)
    obtain ⟨c2, runRest, closed⟩ := readElements_rest depth rest others c.rest.length [v] after
      (by rw [text, head]; simp only [List.cons_append, List.length_cons, List.length_append]; omega)
    refine ⟨c2, ?_, closed⟩
    rw [readElements, run_bind_of_ok (nextElement_first (text.trans (by rw [head]; rfl)) visible open_)]
    simp only [if_true]
    rw [run_bind_of_ok run, runRest]
    rfl

/-- The elements of an array after the first, each after its comma. -/
theorem readElements_rest (depth : Nat) (items : List Value) (fits : itemsReadBack depth items)
    (fuel : Nat) (acc : List Value) {c : Cursor} {more : List Char}
    (h : c.rest = items.flatMap (fun w => ',' :: w.compact.toList) ++ ']' :: more)
    (enough : (items.flatMap (fun w => ',' :: w.compact.toList)).length < fuel) :
    ∃ c', (readElements (readValue depth) fuel false acc).run c = .ok (acc.reverse ++ items, c') ∧
      c'.rest = ']' :: more := by
  obtain ⟨fuel, rfl⟩ : ∃ f, fuel = f + 1 := ⟨fuel - 1, by omega⟩
  match items with
  | [] =>
    have text : c.rest = ']' :: more := h
    refine ⟨c, ?_, text⟩
    rw [readElements, run_bind_of_ok (nextElement_close false text)]
    simp
    rfl
  | v :: rest =>
    obtain ⟨first, others⟩ := fits
    obtain ⟨ch, tail, head, visible, open_⟩ := compact_head first
    have text : c.rest = ',' :: (v.compact.toList ++
        (rest.flatMap (fun w => ',' :: w.compact.toList) ++ ']' :: more)) := by
      rw [h]; simp
    have after : c.advance.rest = v.compact.toList ++
        (rest.flatMap (fun w => ',' :: w.compact.toList) ++ ']' :: more) := by simp [text]
    obtain ⟨c1, run, after1⟩ := readValue_compact depth v first after
      (endsNumber_separated _ rest (.inl rfl) more)
    obtain ⟨c2, runRest, closed⟩ := readElements_rest depth rest others fuel (v :: acc) after1
      (by simp only [List.flatMap_cons, List.length_append, List.length_cons] at enough; omega)
    refine ⟨c2, ?_, closed⟩
    rw [readElements, run_bind_of_ok (nextElement_comma (text.trans (by rw [head]; rfl)) visible open_)]
    simp only [if_true]
    rw [run_bind_of_ok run, runRest]
    simp

/-- The members of an object, read from the first up to its closing brace. -/
theorem readMembers_all (depth : Nat) (members : List (String × Value))
    (fits : membersReadBack depth members) {c : Cursor} {more : List Char}
    (h : c.rest = (compactMembers members).toList ++ '}' :: more) :
    ∃ c', (readMembers (readValue depth) (c.rest.length + 1) true []).run c =
      .ok (members, c') ∧ c'.rest = '}' :: more := by
  match members with
  | [] =>
    have text : c.rest = '}' :: more := h
    refine ⟨c, ?_, text⟩
    rw [readMembers, run_bind_of_ok (nextKey_close true text)]
    rfl
  | (k, v) :: rest =>
    obtain ⟨first, others⟩ := fits
    have text : c.rest = (quote k).toList ++ ':' :: (v.compact.toList ++
        (rest.flatMap (fun m => ',' :: memberChars m) ++ '}' :: more)) := by
      rw [h, compactMembers_cons_toList]; simp [memberChars]
    obtain ⟨c1, key, colon⟩ := nextKey_first k text
    have after : c1.advance.rest = v.compact.toList ++
        (rest.flatMap (fun m => ',' :: memberChars m) ++ '}' :: more) := by simp [colon]
    obtain ⟨c2, run, after2⟩ := readValue_compact depth v first after
      (endsNumber_separated _ rest (.inr rfl) more)
    obtain ⟨c3, runRest, closed⟩ := readMembers_rest depth rest others c.rest.length [(k, v)] after2
      (by rw [text]; simp only [List.length_append, List.length_cons]; omega)
    refine ⟨c3, ?_, closed⟩
    rw [readMembers, run_bind_of_ok key]
    simp only
    rw [run_bind_of_ok (expectColon_run colon), run_bind_of_ok run, runRest]
    rfl

/-- The members of an object after the first, each after its comma. -/
theorem readMembers_rest (depth : Nat) (members : List (String × Value))
    (fits : membersReadBack depth members) (fuel : Nat) (acc : List (String × Value))
    {c : Cursor} {more : List Char}
    (h : c.rest = members.flatMap (fun m => ',' :: memberChars m) ++ '}' :: more)
    (enough : (members.flatMap (fun m => ',' :: memberChars m)).length < fuel) :
    ∃ c', (readMembers (readValue depth) fuel false acc).run c =
      .ok (acc.reverse ++ members, c') ∧ c'.rest = '}' :: more := by
  obtain ⟨fuel, rfl⟩ : ∃ f, fuel = f + 1 := ⟨fuel - 1, by omega⟩
  match members with
  | [] =>
    have text : c.rest = '}' :: more := h
    refine ⟨c, ?_, text⟩
    rw [readMembers, run_bind_of_ok (nextKey_close false text)]
    simp
    rfl
  | (k, v) :: rest =>
    obtain ⟨first, others⟩ := fits
    have text : c.rest = ',' :: ((quote k).toList ++ ':' :: (v.compact.toList ++
        (rest.flatMap (fun m => ',' :: memberChars m) ++ '}' :: more))) := by
      rw [h]; simp [memberChars]
    obtain ⟨c1, key, colon⟩ := nextKey_comma k text
    have after : c1.advance.rest = v.compact.toList ++
        (rest.flatMap (fun m => ',' :: memberChars m) ++ '}' :: more) := by simp [colon]
    obtain ⟨c2, run, after2⟩ := readValue_compact depth v first after
      (endsNumber_separated _ rest (.inr rfl) more)
    obtain ⟨c3, runRest, closed⟩ := readMembers_rest depth rest others fuel ((k, v) :: acc) after2
      (by simp only [List.flatMap_cons, List.length_append, List.length_cons] at enough; omega)
    refine ⟨c3, ?_, closed⟩
    rw [readMembers, run_bind_of_ok key]
    simp only
    rw [run_bind_of_ok (expectColon_run colon), run_bind_of_ok run, runRest]
    simp
end

open Schema

theorem readShaped_text (budget depth : Nat) (s : String) {c : Cursor} {more : List Char}
    (h : c.rest = (quote s).toList ++ more) :
    ∃ c', (readShaped (budget + 1) .text depth).run c = .ok (.text s, c') ∧ c'.rest = more := by
  have first : c.rest = '"' :: (s.toList.flatMap escapeChar ++ ['"'] ++ more) := by
    rw [h, quote_toList]; simp
  obtain ⟨c', run, rest⟩ := readString_quote s h
  refine ⟨c', ?_, rest⟩
  rw [readShaped.eq_def]
  simp only
  rw [run_bind_of_ok (skipBlanks_run first (by decide))]
  simp only
  rw [StateT.run_map, run]
  rfl

theorem readShaped_any (budget depth : Nat) {v : Value} (fits : v.ReadsBack depth) {c : Cursor}
    {more : List Char} (h : c.rest = v.compact.toList ++ more) (ends : EndsNumber more) :
    ∃ c', (readShaped (budget + 1) .any depth).run c = .ok (.json v, c') ∧ c'.rest = more := by
  obtain ⟨c', run, rest⟩ := readValue_compact depth v fits h ends
  refine ⟨c', ?_, rest⟩
  rw [readShaped.eq_def]
  simp only
  rw [StateT.run_map, run]
  rfl

section Fields

variable {budget depth fuel : Nat} {fields : List (String × Shape × Option Datum)} {first : Bool}
  {slots : List (Option Datum)} {c c1 : Cursor}

theorem readMembersOf_end (next : (nextKey first).run c = .ok (none, c1)) :
    (readMembersOf budget fields depth (fuel + 1) first slots).run c =
      .ok (completeFields fields slots, c1) := by
  rw [readMembersOf.eq_def]
  simp only
  rw [run_bind_of_ok next]
  rfl

theorem readMembersOf_field {key : String} {i : Nat} {d : Datum} {c2 c3 : Cursor}
    (next : (nextKey first).run c = .ok (some key, c1)) (index : fieldIndex fields key = some i)
    (free : slots.getD i none = none) (colon : expectColon.run c1 = .ok ((), c2))
    (read : (readShaped budget (fields.getD i ("", .any, none)).2.1 depth).run c2 = .ok (d, c3)) :
    (readMembersOf budget fields depth (fuel + 1) first slots).run c =
      (readMembersOf budget fields depth fuel false (slots.set i (some d))).run c3 := by
  rw [readMembersOf.eq_def]
  simp only
  rw [run_bind_of_ok next]
  simp only [index, free, Option.isSome_none, Bool.false_eq_true, if_false]
  rw [run_bind_of_ok colon, run_bind_of_ok read]

end Fields

end FleetIssues.Json
