import FleetIssues.Json.FromValue
import FleetIssues.Proofs.SortedMembers
/-! The ranges of what is read. -/

namespace FleetIssues.Json

/-- The integers of 64 signed bits. -/
def FitsInt64 (i : Int) : Prop := -9223372036854775808 ≤ i ∧ i ≤ 9223372036854775807

instance decidableFitsInt64 : DecidablePred FitsInt64 := fun _ => instDecidableAnd

/-- The numbers of a value are those the reader keeps exactly: a negative integer fits in 64
signed bits, at any depth. -/
inductive Value.NumbersFit : Value → Prop
  | null : NumbersFit .null
  | bool (b : Bool) : NumbersFit (.bool b)
  | natural (n : Nat) : NumbersFit (.number (.natural n))
  | negative {i : Int} (fits : FitsInt64 i) : NumbersFit (.number (.negative i))
  | double (x : Decimal.Binary64) : NumbersFit (.number (.double x))
  | string (s : String) : NumbersFit (.string s)
  | array {items : List Value} (all : ∀ v ∈ items, NumbersFit v) : NumbersFit (.array items)
  | object {members : List (String × Value)} (all : ∀ m ∈ members, NumbersFit m.2) :
      NumbersFit (.object members)

end FleetIssues.Json

namespace FleetIssues.Schema

open Json

/-- A datum whose JSON value, when it is one, has numbers that fit. -/
def Datum.JsonFits (d : Datum) : Prop := d.asJson.NumbersFit

/-- A shape whose integers are signed: no size, also under an option. -/
def Shape.Signed : Shape → Prop
  | .size => False
  | .optional inner => inner.Signed
  | _ => True

instance Shape.decidableSigned : DecidablePred Shape.Signed
  | .int64 => isTrue trivial
  | .size => isFalse id
  | .text => isTrue trivial
  | .any => isTrue trivial
  | .optional inner => Shape.decidableSigned inner
  | .list _ => isTrue trivial
  | .unitEnum _ _ => isTrue trivial
  | .record _ _ => isTrue trivial

/-- A datum whose integer, and the integer it holds when present, fit in 64 signed bits. -/
def Datum.IntFits (d : Datum) : Prop := FitsInt64 d.asInt ∧ ∀ x ∈ d.asOption, FitsInt64 x.asInt

instance : DecidablePred Datum.IntFits := fun d =>
  @instDecidableAnd _ _ (decidableFitsInt64 _) (Option.decidableForallMem d.asOption)

/-- A datum that is neither an integer nor a present value. -/
theorem Datum.intFits_of_plain {d : Datum} (int : d.asInt = 0) (present : d.asOption = none) :
    d.IntFits :=
  ⟨by rw [int]; decide, by simp [present]⟩

theorem Datum.IntFits.present {d : Datum} (fits : d.IntFits) : (Datum.present d).IntFits :=
  ⟨show FitsInt64 0 by decide, fun x same => by cases same; exact fits.1⟩

end FleetIssues.Schema

namespace FleetIssues.Json

open Schema

variable {α β : Type}

/-- Every successful run of a reader answers a result that satisfies `p`, from any cursor. -/
def Reader.Gives (x : Reader α) (p : α → Prop) : Prop :=
  ∀ c a c', x.run c = .ok (a, c') → p a

namespace Reader

variable {x : Reader α} {p q : α → Prop}

theorem gives_true (x : Reader α) : x.Gives fun _ => True := fun _ _ _ _ => trivial

theorem gives_pure {a : α} (h : p a) : (pure a : Reader α).Gives p := by
  intro c b c' run
  cases run
  exact h

theorem gives_throw (e : ReadError) : (throw e : Reader α).Gives p := by
  intro c b c' run
  cases run

theorem gives_bind {f : α → Reader β} {r : β → Prop} (hx : x.Gives q)
    (hf : ∀ a, q a → (f a).Gives r) : (x >>= f).Gives r := by
  intro c b c' run
  rw [StateT.run_bind] at run
  cases h : x.run c with
  | error e => rw [h] at run; cases run
  | ok res => rw [h] at run; exact hf res.1 (hx c res.1 res.2 h) res.2 b c' run

/-- Binding after a step whose result does not matter. -/
theorem gives_bind_any {f : α → Reader β} {r : β → Prop} (hf : ∀ a, (f a).Gives r) :
    (x >>= f).Gives r :=
  gives_bind (gives_true x) fun a _ => hf a

theorem gives_map {f : α → β} {r : β → Prop} (hx : x.Gives q) (hf : ∀ a, q a → r (f a)) :
    (f <$> x).Gives r := by
  rw [map_eq_pure_bind]
  exact gives_bind hx fun a h => gives_pure (hf a h)

theorem Gives.run' (h : x.Gives p) {c : Cursor} {a : α} (ran : x.run' c = .ok a) : p a := by
  rw [StateT.run'_eq] at ran
  cases run : x.run c with
  | error e => rw [run] at ran; cases ran
  | ok res => rw [run] at ran; cases ran; exact h c _ _ run

end Reader

open Reader

/-- Every success of a computation that can fail satisfies `p`. -/
def Yields {ε : Type} (x : Except ε α) (p : α → Prop) : Prop := ∀ a, x = .ok a → p a

section Yields

variable {ε : Type} {x : Except ε α} {p q : α → Prop}

theorem yields_true (x : Except ε α) : Yields x fun _ => True := fun _ _ => trivial

theorem yields_pure {a : α} (h : p a) : Yields (pure a : Except ε α) p := by
  intro b same
  cases same
  exact h

theorem yields_error (e : ε) : Yields (.error e : Except ε α) p := by
  intro b same
  cases same

theorem yields_throw (e : ε) : Yields (throw e : Except ε α) p := yields_error e

theorem yields_throw_bind (e : ε) (f : β → Except ε α) : Yields (throw e >>= f) p := by
  intro a same
  cases same

theorem yields_bind {f : α → Except ε β} {r : β → Prop} (hx : Yields x q)
    (hf : ∀ a, q a → Yields (f a) r) : Yields (x >>= f) r := by
  intro b same
  cases h : x with
  | error e => rw [h] at same; cases same
  | ok a => rw [h] at same; exact hf a (hx a h) b same

theorem yields_map {f : α → β} {r : β → Prop} (hx : Yields x q) (hf : ∀ a, q a → r (f a)) :
    Yields (f <$> x) r := by
  rw [map_eq_pure_bind]
  exact yields_bind hx fun a h => yields_pure (hf a h)

end Yields

theorem fail_gives (fault : SyntaxFault) (p : α → Prop) : (fail fault : Reader α).Gives p :=
  gives_bind_any fun _ => gives_throw _

theorem failAhead_gives (fault : SyntaxFault) (p : α → Prop) :
    (failAhead fault : Reader α).Gives p :=
  gives_bind_any fun _ => gives_throw _

theorem failData_gives (error : DataError) (p : α → Prop) : (failData error : Reader α).Gives p :=
  gives_bind_any fun _ => gives_throw _

/-- A number as read fits what its kind promises: a negative integer fits in 64 signed bits. -/
def ReadNumber.Fits : ReadNumber → Prop
  | .negative i => FitsInt64 i
  | _ => True

theorem readNumberTail_fits (positive : Bool) (s : Nat) :
    (readNumberTail positive s).Gives ReadNumber.Fits := by
  unfold readNumberTail
  refine gives_bind_any fun _ => ?_
  split
  case h_1 | h_2 | h_3 => exact gives_map (gives_true _) fun _ _ => trivial
  split
  · exact gives_pure trivial
  split
  · exact gives_pure trivial
  split
  next nonzero below =>
    -- only a significand from 1 to 2^63 is kept as a negative integer
    have positive : s ≠ 0 := by simpa using nonzero
    exact gives_pure (show FitsInt64 _ by unfold FitsInt64; omega)
  · exact gives_pure trivial

theorem readSignificand_fits (positive : Bool) (fuel s : Nat) :
    (readSignificand positive fuel s).Gives ReadNumber.Fits := by
  induction fuel generalizing s with
  | zero => exact readNumberTail_fits positive s
  | succ fuel ih =>
    unfold readSignificand
    refine gives_bind_any fun _ => ?_
    split
    · split
      · split
        · exact gives_map (gives_true _) fun _ _ => trivial
        · exact gives_bind_any fun _ => ih _
      · exact readNumberTail_fits positive s
    · exact readNumberTail_fits positive s

theorem readNumber_fits (positive : Bool) : (readNumber positive).Gives ReadNumber.Fits := by
  unfold readNumber
  refine gives_bind_any fun _ => ?_
  split
  · exact fail_gives _ _
  · split
    · refine gives_bind_any fun _ => gives_bind_any fun _ => ?_
      split
      · split
        · exact failAhead_gives _ _
        · exact readNumberTail_fits positive 0
      · exact readNumberTail_fits positive 0
    · split
      · exact gives_bind_any fun _ => gives_bind_any fun _ => readSignificand_fits _ _ _
      · exact failAhead_gives _ _

theorem ReadNumber.Fits.toValue {n : ReadNumber} (fits : n.Fits) : n.toValue.NumbersFit := by
  cases n with
  | natural n => exact .natural n
  | negative i => exact .negative fits
  | double f => exact .double _

theorem readNumber_numbersFit (positive : Bool) :
    (ReadNumber.toValue <$> readNumber positive).Gives Value.NumbersFit :=
  gives_map (readNumber_fits positive) fun _ fits => fits.toValue

theorem readElements_gives {element : Reader α} {p : α → Prop} (each : element.Gives p) :
    ∀ fuel first acc, (∀ a ∈ acc, p a) →
      (readElements element fuel first acc).Gives fun items => ∀ a ∈ items, p a := by
  intro fuel
  induction fuel with
  | zero => intro first acc all; exact gives_pure (by simpa using all)
  | succ fuel ih =>
    intro first acc all
    unfold readElements
    refine gives_bind_any fun more => ?_
    split
    · refine gives_bind each fun a fits => ih false _ ?_
      simpa [fits] using all
    · exact gives_pure (by simpa using all)

theorem readMembers_gives {value : Reader α} {p : α → Prop} (each : value.Gives p) :
    ∀ fuel first acc, (∀ m ∈ acc, p m.2) →
      (readMembers value fuel first acc).Gives fun members => ∀ m ∈ members, p m.2 := by
  intro fuel
  induction fuel with
  | zero => intro first acc all; exact gives_pure (by simpa using all)
  | succ fuel ih =>
    intro first acc all
    unfold readMembers
    refine gives_bind_any fun key => ?_
    split
    · exact gives_pure (by simpa using all)
    · refine gives_bind_any fun _ => gives_bind each fun v fits => ih false _ ?_
      simpa [fits] using all

/-- A container reader gives what its body gives, whatever the closing does. -/
theorem closing_gives {body : Reader α} {close : Reader (Except ReadError Unit)} {p : α → Prop}
    (each : body.Gives p) : (closing body close).Gives p := by
  have caught : (tryCatch (Except.ok <$> body) fun e => pure (Except.error e) :
      Reader (Except ReadError α)).Gives fun r => ∀ a, r = .ok a → p a := by
    intro c r c' run
    change tryCatchThe ReadError ((Except.ok <$> body).run c) _ = _ at run
    rw [StateT.run_map] at run
    cases h : body.run c with
    | ok res =>
      rw [h] at run
      cases run
      intro a same
      cases same
      exact each c _ _ h
    | error e =>
      rw [h] at run
      cases run
      intro a same
      cases same
  unfold closing
  refine gives_bind caught fun result fits => gives_bind_any fun closed => ?_
  split
  · exact gives_pure (fits _ rfl)
  · exact gives_throw _
  · exact gives_throw _

theorem Value.NumbersFit.sortedObject {members : List (String × Value)}
    (all : ∀ m ∈ members, m.2.NumbersFit) : (Value.sortedObject members).NumbersFit := by
  obtain ⟨sorted, eq, -, kept⟩ := Value.sortedObject_members members
  rw [eq]
  exact .object fun m mem => all m (kept m mem)

/-- Every value read from text has numbers that fit. -/
theorem readValue_numbersFit (depth : Nat) : (readValue depth).Gives Value.NumbersFit := by
  induction depth with
  | zero => exact failAhead_gives _ _
  | succ depth ih =>
    unfold readValue
    refine gives_bind_any fun _ => ?_
    split
    · exact failAhead_gives _ _
    · split
      · exact gives_bind_any fun _ => gives_bind_any fun _ => gives_pure .null
      · exact gives_bind_any fun _ => gives_bind_any fun _ => gives_pure (.bool _)
      · exact gives_bind_any fun _ => gives_bind_any fun _ => gives_pure (.bool _)
      · exact gives_bind_any fun _ => readNumber_numbersFit false
      · exact gives_map (gives_true _) fun _ _ => .string _
      · refine gives_bind_any fun _ => gives_bind (closing_gives ?_) fun _ all => gives_pure (.array all)
        exact gives_bind_any fun _ => readElements_gives ih _ _ _ (by simp)
      · refine gives_bind_any fun _ =>
          gives_bind (closing_gives ?_) fun _ all => gives_pure (Value.NumbersFit.sortedObject all)
        exact gives_bind_any fun _ => readMembers_gives ih _ _ _ (by simp)
      · split
        · exact readNumber_numbersFit true
        · exact failAhead_gives _ _

theorem failWrongKind_gives (expected : String) (p : α → Prop) :
    (failWrongKind expected : Reader α).Gives p := by
  unfold failWrongKind
  refine gives_bind_any fun _ => ?_
  split
  case h_1 | h_2 | h_3 => exact gives_bind_any fun _ => gives_bind_any fun _ => failData_gives _ _
  case h_4 => exact gives_bind_any fun _ => gives_bind_any fun _ => failData_gives _ _
  case h_5 => exact gives_bind_any fun _ => failData_gives _ _
  case h_6 | h_7 => exact failData_gives _ _
  case h_8 =>
    split
    · exact gives_bind_any fun _ => failData_gives _ _
    · exact failAhead_gives _ _
  case h_9 => exact failAhead_gives _ _

/-- The datum of a number read for an integer shape is an integer. -/
theorem integerDatum_int {shape : Shape} {n : ReadNumber} {d : Datum}
    (read : integerDatum shape n = .ok d) : ∃ i, d = .int i := by
  unfold integerDatum at read
  split at read
  next k => cases read; exact ⟨k, rfl⟩
  next => cases read
  next k _ =>
    split at read
    · cases read; exact ⟨k, rfl⟩
    · cases read
  next i _ => cases read; exact ⟨i, rfl⟩
  next => cases read

theorem integerDatum_jsonFits {shape : Shape} {n : ReadNumber} {d : Datum}
    (read : integerDatum shape n = .ok d) : d.JsonFits := by
  obtain ⟨i, rfl⟩ := integerDatum_int read
  exact Value.NumbersFit.null

/-- Read from text by any shape, a datum is JSON only when the shape takes any value, and then
its numbers fit. -/
theorem readShaped_jsonFits (budget : Nat) (shape : Shape) (depth : Nat) :
    (readShaped budget shape depth).Gives Datum.JsonFits := by
  cases budget with
  | zero => rw [readShaped.eq_def]; exact failAhead_gives _ _
  | succ budget =>
    rw [readShaped.eq_def]
    simp only
    split
    case h_1 | h_2 =>
      refine gives_bind_any fun _ => ?_
      split
      · exact failAhead_gives _ _
      · split
        · split
          · -- a minus sign is taken before the digits
            refine gives_bind_any fun _ => gives_bind_any fun _ => ?_
            split
            next read => exact gives_pure (integerDatum_jsonFits read)
            next => exact failData_gives _ _
          · refine gives_bind_any fun _ => ?_
            split
            next read => exact gives_pure (integerDatum_jsonFits read)
            next => exact failData_gives _ _
        · exact failWrongKind_gives _ _
    next =>
      refine gives_bind_any fun _ => ?_
      split
      · exact failAhead_gives _ _
      · exact gives_map (gives_true _) fun _ _ => Value.NumbersFit.null
      · exact failWrongKind_gives _ _
    next => exact gives_map (readValue_numbersFit depth) fun _ fits => fits
    next =>
      refine gives_bind_any fun _ => ?_
      split
      · exact gives_bind_any fun _ => gives_bind_any fun _ => gives_pure Value.NumbersFit.null
      · exact gives_map (gives_true _) fun _ _ => Value.NumbersFit.null
    next =>
      refine gives_bind_any fun _ => ?_
      split
      · exact failAhead_gives _ _
      · refine gives_bind_any fun _ => gives_bind_any fun _ => gives_bind_any fun _ =>
          gives_bind_any fun _ => ?_
        split
        · exact gives_pure Value.NumbersFit.null
        · exact gives_throw _
      · exact failWrongKind_gives _ _
    next =>
      refine gives_bind_any fun _ => ?_
      split
      · refine gives_bind_any fun _ => ?_
        split
        · exact gives_pure Value.NumbersFit.null
        · exact failData_gives _ _
      · exact failAhead_gives _ _
      · exact failAhead_gives _ _
    next =>
      refine gives_bind_any fun _ => ?_
      split
      · exact failAhead_gives _ _
      · refine gives_bind_any fun _ => gives_bind_any fun _ => gives_bind_any fun _ => ?_
        split
        · exact failData_gives _ _
        · exact gives_throw _
        · exact gives_pure Value.NumbersFit.null
      · refine gives_bind_any fun _ => gives_bind_any fun _ => gives_bind_any fun _ =>
          gives_bind_any fun _ => ?_
        split
        · exact failData_gives _ _
        · exact gives_throw _
        · exact gives_pure Value.NumbersFit.null
      · exact failWrongKind_gives _ _

theorem field_record {P : Datum → Prop} {ds : List Datum} (absent : P .absent)
    (all : ∀ d ∈ ds, P d) (i : Nat) : P ((Datum.record ds).field i) := by
  show P (ds.getD i .absent)
  rw [List.getD_eq_getElem?_getD]
  cases h : ds[i]? with
  | none => exact absent
  | some d => exact all d (List.mem_of_getElem? h)

/-- The fields completed from the slots filled and the fallbacks satisfy what they all do. -/
theorem completeFields_all {P : Datum → Prop} {fields : List (String × Shape × Option Datum)}
    (fallbacks : ∀ f ∈ fields, ∀ d ∈ f.2.2, P d) {slots : List (Option Datum)}
    (filled : ∀ s ∈ slots, ∀ d ∈ s, P d) :
    Yields (completeFields fields slots) fun ds => ∀ d ∈ ds, P d := by
  induction fields generalizing slots with
  | nil => exact yields_pure (by simp)
  | cons field rest ih =>
    obtain ⟨key, shape, fallback⟩ := field
    have own : ∀ d ∈ fallback, P d := fallbacks _ List.mem_cons_self
    have others : ∀ f ∈ rest, ∀ d ∈ f.2.2, P d := fun f mem => fallbacks f (.tail _ mem)
    have next : ∀ {slots}, (∀ s ∈ slots, ∀ d ∈ s, P d) → ∀ d, P d →
        Yields (do let ds ← completeFields rest slots; pure (d :: ds)) fun ds => ∀ d ∈ ds, P d :=
      fun filled d fits => yields_bind (ih others filled) fun ds all =>
        yields_pure (List.forall_mem_cons.2 ⟨fits, all⟩)
    cases slots with
    | nil =>
      unfold completeFields
      dsimp only
      split
      next f => exact yields_bind (yields_pure (own f rfl)) (next (by simp))
      next => exact yields_bind (yields_throw _) (next (by simp))
    | cons slot slots =>
      have tail : ∀ s ∈ slots, ∀ d ∈ s, P d := fun s mem => filled s (.tail _ mem)
      unfold completeFields
      dsimp only
      split
      next d => exact yields_bind (yields_pure (filled _ List.mem_cons_self d rfl)) (next tail)
      next f => exact yields_bind (yields_pure (own f rfl)) (next tail)
      next => exact yields_bind (yields_throw _) (next tail)

theorem slots_set_all {P : Datum → Prop} {slots : List (Option Datum)}
    (filled : ∀ s ∈ slots, ∀ d ∈ s, P d) {d : Datum} (fits : P d) (i : Nat) :
    ∀ s ∈ slots.set i (some d), ∀ x ∈ s, P x := by
  intro s mem
  rcases List.mem_or_eq_of_mem_set mem with old | rfl
  · exact filled s old
  · intro x same; cases same; exact fits

theorem empty_slots {P : Datum → Prop} {fields : List (String × Shape × Option Datum)} :
    ∀ s ∈ fields.map (fun _ => (none : Option Datum)), ∀ d ∈ s, P d := by
  intro s mem d same
  obtain ⟨_, _, rfl⟩ := List.mem_map.1 mem
  cases same

section Fields

variable {budget depth : Nat} {fields : List (String × Shape × Option Datum)}

theorem readMembersOf_jsonFits (fallbacks : ∀ f ∈ fields, ∀ d ∈ f.2.2, d.JsonFits) :
    ∀ fuel first slots, (∀ s ∈ slots, ∀ d ∈ s, d.JsonFits) →
      (readMembersOf budget fields depth fuel first slots).Gives
        fun outcome => Yields outcome fun ds => ∀ d ∈ ds, d.JsonFits := by
  intro fuel
  induction fuel with
  | zero =>
    intro first slots filled
    rw [readMembersOf.eq_def]
    exact gives_pure (completeFields_all fallbacks filled)
  | succ fuel ih =>
    intro first slots filled
    rw [readMembersOf.eq_def]
    simp only
    refine gives_bind_any fun _ => ?_
    split
    · exact gives_pure (completeFields_all fallbacks filled)
    · split
      · split
        · exact gives_pure (yields_error _)
        · exact gives_bind_any fun _ => gives_bind (readShaped_jsonFits _ _ _) fun d fits =>
            ih _ _ (slots_set_all filled fits _)
      · exact gives_bind_any fun _ => gives_bind_any fun _ => ih _ _ filled

theorem readFieldsInOrder_jsonFits (name : String) (count : Nat) :
    ∀ fields : List (String × Shape × Option Datum), (∀ f ∈ fields, ∀ d ∈ f.2.2, d.JsonFits) →
      ∀ first acc, (∀ d ∈ acc, d.JsonFits) →
        (readFieldsInOrder budget name count fields depth first acc).Gives
          fun outcome => Yields outcome fun ds => ∀ d ∈ ds, d.JsonFits := by
  intro fields
  induction fields with
  | nil =>
    intro _ first acc all
    rw [readFieldsInOrder.eq_def]
    exact gives_pure (yields_pure (by simpa using all))
  | cons field rest ih =>
    intro fallbacks first acc all
    obtain ⟨key, shape, fallback⟩ := field
    have others : ∀ f ∈ rest, ∀ d ∈ f.2.2, d.JsonFits := fun f mem => fallbacks f (.tail _ mem)
    rw [readFieldsInOrder.eq_def]
    simp only
    refine gives_bind_any fun _ => ?_
    split
    · exact gives_bind (readShaped_jsonFits _ _ _) fun d fits =>
        ih others _ _ (List.forall_mem_cons.2 ⟨fits, all⟩)
    · split
      next f =>
        have fits : f.JsonFits := fallbacks _ List.mem_cons_self f rfl
        exact ih others _ _ (List.forall_mem_cons.2 ⟨fits, all⟩)
      next => exact gives_pure (yields_error _)

/-- A record read from text whose fallbacks are not JSON with numbers out of range has fields
that are not either. -/
theorem readShaped_record_jsonFits (name : String)
    (fallbacks : ∀ f ∈ fields, ∀ d ∈ f.2.2, d.JsonFits) :
    (readShaped (budget + 1) (.record name fields) depth).Gives
      fun d => ∀ i, (d.field i).JsonFits := by
  have record : ∀ outcome : Except DataError (List Datum),
      Yields outcome (fun ds => ∀ d ∈ ds, d.JsonFits) → ∀ ds, outcome = .ok ds →
        ∀ i, ((Datum.record ds).field i).JsonFits :=
    fun _ fits ds same => field_record Value.NumbersFit.null (fits ds same)
  rw [readShaped.eq_def]
  simp only
  refine gives_bind_any fun _ => ?_
  split
  · exact failAhead_gives _ _
  · refine gives_bind_any fun _ => gives_bind
      (readFieldsInOrder_jsonFits name _ fields fallbacks _ _ (by simp)) fun outcome fits =>
        gives_bind_any fun _ => ?_
    split
    · exact failData_gives _ _
    · exact gives_throw _
    next ds => exact gives_pure (record _ fits ds rfl)
  · refine gives_bind_any fun _ => gives_bind_any fun _ => gives_bind
      (readMembersOf_jsonFits fallbacks _ _ _ empty_slots) fun outcome fits =>
        gives_bind_any fun _ => ?_
    split
    · exact failData_gives _ _
    · exact gives_throw _
    next ds => exact gives_pure (record _ fits ds rfl)
  · exact failWrongKind_gives _ _

end Fields

/-- Every field of a record read from a whole text is, as JSON, a value whose numbers fit. -/
theorem readTextAs_record_jsonFits {name : String} {fields : List (String × Shape × Option Datum)}
    (fallbacks : ∀ f ∈ fields, ∀ d ∈ f.2.2, d.JsonFits) {text : String} {d : Datum}
    (read : readTextAs (.record name fields) text = .ok d) : ∀ i, (d.field i).JsonFits := by
  unfold readTextAs at read
  exact (gives_bind (readShaped_record_jsonFits name fallbacks) fun _ fits =>
    gives_bind_any fun _ => gives_pure fits).run' read

theorem numberDatum_intFits {n : Number} (fits : (Value.number n).NumbersFit) :
    Yields (numberDatum .int64 n) Datum.IntFits := by
  cases n with
  | natural k =>
    simp only [numberDatum, integerDatum]
    split
    next small =>
      exact yields_pure ⟨show FitsInt64 (k : Int) by unfold FitsInt64; omega, by simp [Datum.asOption]⟩
    next => exact yields_error _
  | negative i =>
    cases fits with
    | negative fits => exact yields_pure ⟨fits, by simp [Datum.asOption]⟩
  | double x => exact yields_error _

/-- Read by a signed shape from a value whose numbers fit, a datum's integers fit in 64 bits. -/
theorem ofValueAs_intFits : ∀ (budget : Nat) (shape : Shape) (v : Value), shape.Signed →
    v.NumbersFit → Yields (ofValueAs budget shape v) Datum.IntFits := by
  intro budget
  induction budget with
  | zero => intro shape v _ _; rw [ofValueAs.eq_def]; exact yields_error _
  | succ budget ih =>
    intro shape v signed fits
    rw [ofValueAs.eq_def]
    simp only
    split
    case h_1 => exact numberDatum_intFits fits
    case h_2 => exact False.elim signed
    case h_3 | h_4 | h_5 => exact yields_pure (Datum.intFits_of_plain rfl rfl)
    case h_6 => exact yields_map (ih _ v signed fits) fun _ inner => inner.present
    case h_7 | h_8 | h_13 => exact yields_map (yields_true _) fun _ _ => Datum.intFits_of_plain rfl rfl
    case h_9 | h_12 =>
      refine yields_bind (yields_true _) fun _ _ => ?_
      split
      · exact yields_pure (Datum.intFits_of_plain rfl rfl)
      · exact yields_throw _
    case h_10 | h_11 | h_14 => exact yields_error _

/-- What the fields of a record promise: signed shapes, and fallbacks whose integers fit. -/
def FieldsSigned (fields : List (String × Shape × Option Datum)) : Prop :=
  ∀ f ∈ fields, f.2.1.Signed ∧ ∀ d ∈ f.2.2, d.IntFits

instance (fields : List (String × Shape × Option Datum)) : Decidable (FieldsSigned fields) :=
  @List.decidableBAll _
    (fun f : String × Shape × Option Datum => f.2.1.Signed ∧ ∀ d ∈ f.2.2, d.IntFits)
    (fun f => @instDecidableAnd _ _ (Shape.decidableSigned f.2.1) (Option.decidableForallMem f.2.2))
    fields

section SignedFields

variable {budget : Nat} {fields : List (String × Shape × Option Datum)}

theorem FieldsSigned.getD (signed : FieldsSigned fields) (i : Nat) :
    (fields.getD i ("", .any, none)).2.1.Signed := by
  rw [List.getD_eq_getElem?_getD]
  cases h : fields[i]? with
  | none => trivial
  | some f => exact (signed f (List.mem_of_getElem? h)).1

theorem membersAs_intFits (signed : FieldsSigned fields) :
    ∀ (members : List (String × Value)) (slots : List (Option Datum)),
      (∀ m ∈ members, m.2.NumbersFit) → (∀ s ∈ slots, ∀ d ∈ s, d.IntFits) →
        Yields (membersAs budget fields members slots) fun ds => ∀ d ∈ ds, d.IntFits := by
  intro members
  induction members with
  | nil =>
    intro slots _ filled
    rw [membersAs.eq_def]
    exact completeFields_all (fun f mem => (signed f mem).2) filled
  | cons member rest ih =>
    intro slots fits filled
    obtain ⟨key, v⟩ := member
    have others : ∀ m ∈ rest, m.2.NumbersFit := fun m mem => fits m (.tail _ mem)
    rw [membersAs.eq_def]
    simp only
    split
    next i _ =>
      split
      · exact yields_error _
      · exact yields_bind (ofValueAs_intFits budget _ v (signed.getD i) (fits _ List.mem_cons_self))
          fun d read => ih _ others (slots_set_all filled read i)
    next => exact ih slots others filled

theorem fieldsInOrderAs_intFits (name : String) (count : Nat) :
    ∀ fields : List (String × Shape × Option Datum), FieldsSigned fields →
      ∀ (items : List Value) (acc : List Datum), (∀ v ∈ items, v.NumbersFit) →
        (∀ d ∈ acc, d.IntFits) →
          Yields (fieldsInOrderAs budget name count fields items acc) fun r => ∀ d ∈ r.1, d.IntFits := by
  intro fields
  induction fields with
  | nil =>
    intro _ items acc _ all
    rw [fieldsInOrderAs.eq_def]
    exact yields_pure (by simpa using all)
  | cons field rest ih =>
    intro signed items acc fits all
    obtain ⟨key, shape, fallback⟩ := field
    have own := signed _ List.mem_cons_self
    have others : FieldsSigned rest := fun f mem => signed f (.tail _ mem)
    rw [fieldsInOrderAs.eq_def]
    simp only
    split
    next v more =>
      exact yields_bind (ofValueAs_intFits budget shape v own.1 (fits v List.mem_cons_self))
        fun d read => ih others more _ (fun w mem => fits w (.tail _ mem))
          (List.forall_mem_cons.2 ⟨read, all⟩)
    next =>
      split
      next f => exact ih others [] _ (by simp) (List.forall_mem_cons.2 ⟨own.2 f rfl, all⟩)
      next => exact yields_error _

/-- Read from a value whose numbers fit, by a record shape whose fields are signed, every field
of the record has integers that fit in 64 bits. -/
theorem ofValueAs_record_intFits (name : String) (signed : FieldsSigned fields) {v : Value}
    (fits : v.NumbersFit) :
    Yields (ofValueAs (budget + 1) (.record name fields) v) fun d => ∀ i, (d.field i).IntFits := by
  have absent : Datum.absent.IntFits := Datum.intFits_of_plain rfl rfl
  rw [ofValueAs.eq_def]
  cases fits with
  | array all =>
    refine yields_bind (fieldsInOrderAs_intFits name _ fields signed _ [] all (by simp))
      fun ds read => ?_
    split
    · exact yields_pure (field_record absent read)
    · exact yields_throw _
  | object all =>
    exact yields_map (membersAs_intFits signed _ _ all empty_slots) fun _ read =>
      field_record absent read
  | _ => exact yields_error _

end SignedFields

end FleetIssues.Json
