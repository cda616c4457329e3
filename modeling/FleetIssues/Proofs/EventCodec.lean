import FleetIssues.Fleet.Codec
import FleetIssues.Proofs.CompactText
import FleetIssues.Proofs.ReadBounds
import Mathlib.Data.String.Basic
/-! Encoding and decoding fleet events. -/

namespace FleetIssues.Json

open Schema

theorem readsBack_ofInt {i : Int} (fits : FitsInt64 i) (depth : Nat) :
    (Value.ofInt i).ReadsBack (depth + 1) := by
  unfold FitsInt64 at fits
  unfold Value.ofInt
  split <;> simp only [Value.ReadsBack, natural64Max] <;> omega

theorem readsBack_ofIntOption {o : Option Int} (fits : ∀ i ∈ o, FitsInt64 i) (depth : Nat) :
    (Value.ofIntOption o).ReadsBack (depth + 1) := by
  cases o with
  | none => trivial
  | some i => exact readsBack_ofInt (fits i rfl) depth

theorem ofValueAs_ofInt {i : Int} (fits : FitsInt64 i) (budget : Nat) :
    ofValueAs (budget + 1) .int64 (Value.ofInt i) = .ok (.int i) := by
  unfold Value.ofInt
  split
  · rw [ofValueAs]
    simp only [numberDatum, integerDatum]
    rw [if_pos (by unfold FitsInt64 at fits; omega)]
    congr 2
    omega
  · rw [ofValueAs]
    rfl

theorem ofValueAs_text (s : String) (budget : Nat) :
    ofValueAs (budget + 1) .text (.string s) = .ok (.text s) := by
  rw [ofValueAs.eq_def]

theorem ofValueAs_null_optional (inner : Shape) (budget : Nat) :
    ofValueAs (budget + 1) (.optional inner) .null = .ok .absent := by
  rw [ofValueAs.eq_def]

theorem ofValueAs_optional_present {inner : Shape} {v : Value} {d : Datum} {budget : Nat}
    (present : v ≠ .null) (read : ofValueAs budget inner v = .ok d) :
    ofValueAs (budget + 1) (.optional inner) v = .ok (.present d) := by
  cases v
  case null => exact absurd rfl present
  all_goals rw [ofValueAs.eq_def]; simp only [read]; rfl

theorem ofValueAs_ofIntOption {o : Option Int} (fits : ∀ i ∈ o, FitsInt64 i) (budget : Nat) :
    ofValueAs (budget + 2) (.optional .int64) (Value.ofIntOption o) =
      .ok ((o.map fun i => Datum.present (.int i)).getD .absent) := by
  cases o with
  | none => exact ofValueAs_null_optional _ _
  | some i =>
    have present : Value.ofInt i ≠ .null := by unfold Value.ofInt; split <;> simp
    exact ofValueAs_optional_present present (ofValueAs_ofInt (fits i rfl) budget)

theorem itemsAs_strings (budget : Nat) (texts : List String) :
    itemsAs (budget + 1) .text (texts.map .string) = .ok (texts.map .text) := by
  induction texts with
  | nil => rw [List.map_nil, itemsAs.eq_def]; rfl
  | cons s rest ih =>
    rw [List.map_cons, itemsAs.eq_def]
    simp only [ofValueAs_text, ih]
    rfl

theorem ofValueAs_strings (budget : Nat) (texts : List String) :
    ofValueAs (budget + 2) (.list .text) (.array (texts.map .string)) =
      .ok (.list (texts.map .text)) := by
  rw [ofValueAs.eq_def]
  simp only [itemsAs_strings]
  rfl

theorem ofValueAs_record_object (budget : Nat) (name : String)
    (fields : List (String × Shape × Option Datum)) (members : List (String × Value)) :
    ofValueAs (budget + 1) (.record name fields) (.object members) =
      Datum.record <$> membersAs budget fields members (fields.map fun _ => none) := by
  rw [ofValueAs.eq_def]

section Members

variable {budget : Nat} {fields : List (String × Shape × Option Datum)} {key : String}
  {rest : List (String × Value)} {slots : List (Option Datum)} {i : Nat}

theorem membersAs_nil : membersAs budget fields [] slots = completeFields fields slots := by
  rw [membersAs.eq_def]

/-- A member of a known key whose slot is free fills it with its value read by the field's
shape. -/
theorem membersAs_cons_field {v : Value} {d : Datum} (index : fieldIndex fields key = some i)
    (free : slots.getD i none = none)
    (read : ofValueAs budget (fields.getD i ("", .any, none)).2.1 v = .ok d) :
    membersAs budget fields ((key, v) :: rest) slots =
      membersAs budget fields rest (slots.set i (some d)) := by
  rw [membersAs, index]
  simp only [free, Option.isSome_none, Bool.false_eq_true, if_false, read]
  rfl

/-- The member of an optional field: one member when present, none when absent. -/
def optionalMember {α : Type} (key : String) (toValue : α → Value) (o : Option α) :
    List (String × Value) :=
  (o.map fun x => (key, toValue x)).toList

theorem set_none_of_getD (free : slots.getD i none = none) : slots.set i none = slots := by
  apply List.ext_getElem?
  intro j
  rw [List.getElem?_set]
  split
  next same =>
    subst same
    rw [List.getD_eq_getElem?_getD] at free
    cases h : slots[i]? with
    | none => simp [List.getElem?_eq_none_iff.mp h]
    | some x =>
      obtain ⟨inside, -⟩ := List.getElem?_eq_some_iff.mp h
      rw [h, Option.getD_some] at free
      simp [inside, free]
  next => rfl

/-- An optional member fills its slot when present and leaves it empty when absent. -/
theorem membersAs_optionalMember {α : Type} (toValue : α → Value) (toDatum : α → Datum)
    (o : Option α) (index : fieldIndex fields key = some i) (free : slots.getD i none = none)
    (read : ∀ x, ofValueAs budget (fields.getD i ("", .any, none)).2.1 (toValue x) = .ok (toDatum x)) :
    membersAs budget fields (optionalMember key toValue o ++ rest) slots =
      membersAs budget fields rest (slots.set i (o.map toDatum)) := by
  cases o with
  | none => simp [optionalMember, set_none_of_getD free]
  | some x => exact membersAs_cons_field index free (read x)

end Members

theorem completeFields_cons_some (key : String) (shape : Shape) (fallback : Option Datum)
    (rest : List (String × Shape × Option Datum)) (d : Datum) (slots : List (Option Datum)) :
    completeFields ((key, shape, fallback) :: rest) (some d :: slots) =
      (d :: ·) <$> completeFields rest slots := by
  rw [completeFields]
  cases completeFields rest slots <;> rfl

theorem completeFields_cons_fallback (key : String) (shape : Shape) (fallback : Datum)
    (rest : List (String × Shape × Option Datum)) (slot : Option Datum)
    (slots : List (Option Datum)) :
    completeFields ((key, shape, some fallback) :: rest) (slot :: slots) =
      (slot.getD fallback :: ·) <$> completeFields rest slots := by
  cases slot <;> rw [completeFields] <;> cases completeFields rest slots <;> rfl

@[simp] theorem asOption_present_getD {α : Type} (o : Option α) (g : α → Datum) :
    ((o.map fun x => Datum.present (g x)).getD .absent).asOption = o.map g := by
  cases o <;> rfl

end FleetIssues.Json

namespace FleetIssues.Fleet

open Json Schema

/-- Every id an event carries fits in 64 signed bits. -/
def DomainEvent.IdsFit : DomainEvent → Prop
  | .vehicleCreated e => FitsInt64 e.vehicle ∧ FitsInt64 e.manager
  | .vehicleUpdated e => FitsInt64 e.vehicle ∧ ∀ i ∈ e.carrier, FitsInt64 i
  | .userCreated e => FitsInt64 e.user
  | .userUpdated e => FitsInt64 e.user

instance : DecidablePred DomainEvent.IdsFit
  | .vehicleCreated _ => instDecidableAnd
  | .vehicleUpdated e => @instDecidableAnd _ _ _ (Option.decidableForallMem e.carrier)
  | .userCreated e => inferInstanceAs (Decidable (FitsInt64 e.user))
  | .userUpdated e => inferInstanceAs (Decidable (FitsInt64 e.user))

theorem readsBack_optionalText (o : Option String) (depth : Nat) :
    (optionalText o).ReadsBack (depth + 1) := by
  cases o <;> trivial

/-- The payload of an event whose ids fit reads back from its compact text. -/
theorem wire_readsBack {e : DomainEvent} (fits : e.IdsFit) : e.wire.2.ReadsBack 127 := by
  cases e with
  | vehicleCreated e =>
    obtain ⟨vehicle, manager⟩ := fits
    refine sortedObject_readsBack (by decide) ?_
    simp only [List.mem_cons, List.not_mem_nil, or_false, forall_eq_or_imp, forall_eq]
    exact ⟨readsBack_ofInt vehicle _, readsBack_ofInt manager _, trivial, trivial, trivial, trivial⟩
  | vehicleUpdated e =>
    obtain ⟨vehicle, carrier⟩ := fits
    refine sortedObject_readsBack (by decide) ?_
    intro m mem
    simp only [List.mem_append, List.mem_cons, List.not_mem_nil, or_false, Option.mem_toList,
      Option.map_eq_some_iff] at mem
    rcases mem with ((((rfl | rfl) | ⟨_, -, rfl⟩) | ⟨_, -, rfl⟩) | ⟨_, -, rfl⟩) | ⟨_, -, rfl⟩
    · exact readsBack_ofInt vehicle _
    · exact readsBack_ofIntOption carrier _
    all_goals trivial
  | userCreated e =>
    refine sortedObject_readsBack (by decide) ?_
    simp only [List.mem_cons, List.not_mem_nil, or_false, forall_eq_or_imp, forall_eq]
    exact ⟨readsBack_ofInt fits _, trivial, readsBack_strings _ _⟩
  | userUpdated e =>
    refine sortedObject_readsBack (by decide) ?_
    simp only [List.mem_cons, List.not_mem_nil, or_false, forall_eq_or_imp, forall_eq]
    refine ⟨readsBack_ofInt fits _, readsBack_optionalText _ _, ?_⟩
    cases e.roles with
    | some roles => exact readsBack_strings _ _
    | none => trivial

theorem encode_eq (e : DomainEvent) :
    encode e = (Value.object [("type", .string e.wire.1), ("payload", e.wire.2)]).compact := rfl

theorem wire_isNull (e : DomainEvent) : e.wire.2.isNull = false := by
  cases e <;> rfl

theorem envelope_toList (kind : String) (payload : Value) :
    (Value.object [("type", .string kind), ("payload", payload)]).compact.toList =
      '{' :: ((quote "type").toList ++ ':' :: ((quote kind).toList ++ ',' ::
        ((quote "payload").toList ++ ':' :: (payload.compact.toList ++ ['}'])))) := by
  simp [Value.compact, compactMembers]

theorem readShaped_envelope (kind : String) {payload : Value} (fits : payload.ReadsBack 127)
    {c : Cursor}
    (h : c.rest = (Value.object [("type", .string kind), ("payload", payload)]).compact.toList) :
    ∃ c', (readShaped 64 envelopeShape nestingLimit).run c =
      .ok (.record [.text kind, .json payload], c') ∧ c'.rest = [] := by
  rw [envelope_toList] at h
  have inside : c.advance.rest = (quote "type").toList ++ ':' :: ((quote kind).toList ++ ',' ::
      ((quote "payload").toList ++ ':' :: (payload.compact.toList ++ ['}']))) := by simp [h]
  obtain ⟨c1, typeKey, afterType⟩ := nextKey_first "type" inside
  have kindText : c1.advance.rest = (quote kind).toList ++ ',' ::
      ((quote "payload").toList ++ ':' :: (payload.compact.toList ++ ['}'])) := by simp [afterType]
  obtain ⟨c2, kindRead, afterKind⟩ := readShaped_text 62 127 kind kindText
  obtain ⟨c3, payloadKey, afterPayloadKey⟩ := nextKey_comma "payload" afterKind
  have payloadText : c3.advance.rest = payload.compact.toList ++ ['}'] := by simp [afterPayloadKey]
  obtain ⟨c4, payloadRead, closed⟩ := readShaped_any 62 127 fits payloadText
    (by intro ch head; simp at head; subst head; decide)
  -- three rounds of the member loop: the type, the payload and the closing brace
  obtain ⟨fuel, long⟩ : ∃ f, c.advance.rest.length = f + 3 :=
    ⟨c.advance.rest.length - 3, by rw [inside, quote_toList]; simp; omega⟩
  have members : (readMembersOf 63 [Shape.required "type" .text,
      Shape.withFallback "payload" .any (.json .null)] 127 (c.advance.rest.length + 1) true
      [none, none]).run c.advance = .ok (.ok [.text kind, .json payload], c4) := by
    rw [long, readMembersOf_field typeKey rfl rfl (expectColon_run afterType) kindRead,
      readMembersOf_field payloadKey rfl rfl (expectColon_run afterPayloadKey) payloadRead,
      readMembersOf_end (nextKey_close false closed)]
    rfl
  refine ⟨c4.advance, ?_, by simp [closed]⟩
  rw [readShaped.eq_def]
  simp only [envelopeShape]
  rw [run_bind_of_ok (skipBlanks_run h (by decide))]
  simp only
  rw [run_bind_of_ok (enter_run (by decide) c), run_bind_of_ok (fuelLeft_run _)]
  refine (run_bind_of_ok members).trans ?_
  rw [run_bind_of_ok (closeObject_run closed)]
  rfl

/-- The envelope of a payload that reads back is read as its type name and its payload. -/
theorem readTextAs_envelope (kind : String) {payload : Value} (fits : payload.ReadsBack 127) :
    readTextAs envelopeShape (Value.object [("type", .string kind), ("payload", payload)]).compact =
      .ok (.record [.text kind, .json payload]) := by
  obtain ⟨c, run, done⟩ := readShaped_envelope kind fits (Cursor.start_rest _)
  have finish : expectEnd.run c = .ok ((), c) := by
    rw [expectEnd, run_bind_of_ok (skipBlanks_run_nil done)]
    rfl
  rw [readTextAs, StateT.run'_eq, run_bind_of_ok run, run_bind_of_ok finish]
  rfl

/-- An envelope whose payload reads back is decoded by reading the payload by the shape that its
type names. -/
theorem decode_envelope (kind : String) {payload : Value} (fits : payload.ReadsBack 127)
    (present : payload.isNull = false) :
    decode (Value.object [("type", .string kind), ("payload", payload)]).compact =
      if kind == vehicleCreatedType then
        do return .vehicleCreated (vehicleCreatedOf (← readPayload vehicleCreatedShape payload))
      else if kind == vehicleUpdatedType then
        do return .vehicleUpdated (vehicleUpdatedOf (← readPayload vehicleUpdatedShape payload))
      else if kind == userCreatedType then
        do return .userCreated (userCreatedOf (← readPayload userCreatedShape payload))
      else if kind == userUpdatedType then
        do return .userUpdated (userUpdatedOf (← readPayload userUpdatedShape payload))
      else throw (.unknownType kind) := by
  rw [decode, readTextAs_envelope _ fits]
  simp only [pure_bind, Datum.field, List.getD_cons_zero, List.getD_cons_succ, Datum.asText,
    Datum.asJson, present, Bool.false_eq_true, if_false]

theorem readPayload_of_ok {shape : Shape} {payload : Value} {d : Datum}
    (read : ofValueAs 64 shape payload = .ok d) : readPayload shape payload = .ok d := by
  simp [readPayload, Value.readAs, read]

theorem ofValueAs_status (s : VehicleStatus) (budget : Nat) :
    ofValueAs (budget + 1) statusShape (.string s.name) =
      .ok (.variant (VehicleStatus.all.idxOf s)) := by
  cases s <;> rw [ofValueAs.eq_def] <;> rfl

theorem statusOfIndex_idxOf (s : VehicleStatus) :
    statusOfIndex (VehicleStatus.all.idxOf s) = s := by
  cases s <;> rfl

theorem vehicleCreated_wire (e : VehicleCreated) : (DomainEvent.vehicleCreated e).wire.2 = .object
    [("brand", .string e.brand), ("licensePlate", .string e.licensePlate),
     ("managerId", Value.ofInt e.manager), ("model", .string e.model),
     ("status", .string e.status.name), ("vehicleId", Value.ofInt e.vehicle)] := by
  simp [DomainEvent.wire, Value.sortedObject, Value.insertSorted, -String.lt_iff_ltb]

theorem readPayload_vehicleCreated {e : VehicleCreated} (vehicle : FitsInt64 e.vehicle)
    (manager : FitsInt64 e.manager) :
    readPayload vehicleCreatedShape (DomainEvent.vehicleCreated e).wire.2 =
      .ok (.record [.int e.vehicle, .int e.manager, .text e.licensePlate, .text e.brand,
        .text e.model, .variant (VehicleStatus.all.idxOf e.status)]) := by
  apply readPayload_of_ok
  rw [vehicleCreated_wire, vehicleCreatedShape, ofValueAs_record_object,
    membersAs_cons_field (show fieldIndex _ "brand" = some 3 by rfl) rfl (ofValueAs_text _ _),
    membersAs_cons_field (show fieldIndex _ "licensePlate" = some 2 by rfl) rfl (ofValueAs_text _ _),
    membersAs_cons_field (show fieldIndex _ "managerId" = some 1 by rfl) rfl
      (ofValueAs_ofInt manager _),
    membersAs_cons_field (show fieldIndex _ "model" = some 4 by rfl) rfl (ofValueAs_text _ _),
    membersAs_cons_field (show fieldIndex _ "status" = some 5 by rfl) rfl (ofValueAs_status _ _),
    membersAs_cons_field (show fieldIndex _ "vehicleId" = some 0 by rfl) rfl
      (ofValueAs_ofInt vehicle _), membersAs_nil]
  rfl

theorem vehicleCreatedOf_record (e : VehicleCreated) :
    vehicleCreatedOf (.record [.int e.vehicle, .int e.manager, .text e.licensePlate, .text e.brand,
      .text e.model, .variant (VehicleStatus.all.idxOf e.status)]) = e := by
  simp [vehicleCreatedOf, Datum.field, Datum.asInt, Datum.asText, Datum.asVariant,
    statusOfIndex_idxOf]

theorem vehicleUpdated_wire (e : VehicleUpdated) : (DomainEvent.vehicleUpdated e).wire.2 = .object
    (optionalMember "brand" Value.string e.brand ++ [("carrierId", Value.ofIntOption e.carrier)] ++
     optionalMember "licensePlate" Value.string e.licensePlate ++
     optionalMember "model" Value.string e.model ++
     optionalMember "status" (fun s => Value.string s.name) e.status ++
     [("vehicleId", Value.ofInt e.vehicle)]) := by
  obtain ⟨vehicle, carrier, plate, brand, model, status⟩ := e
  cases plate <;> cases brand <;> cases model <;> cases status <;>
    simp [DomainEvent.wire, optionalMember, Value.sortedObject, Value.insertSorted, -String.lt_iff_ltb]

theorem readPayload_vehicleUpdated {e : VehicleUpdated} (vehicle : FitsInt64 e.vehicle)
    (carrier : ∀ i ∈ e.carrier, FitsInt64 i) :
    readPayload vehicleUpdatedShape (DomainEvent.vehicleUpdated e).wire.2 =
      .ok (.record [.int e.vehicle, (e.carrier.map fun i => .present (.int i)).getD .absent,
        (e.licensePlate.map fun s => .present (.text s)).getD .absent,
        (e.brand.map fun s => .present (.text s)).getD .absent,
        (e.model.map fun s => .present (.text s)).getD .absent,
        (e.status.map fun s => .present (.variant (VehicleStatus.all.idxOf s))).getD .absent]) := by
  have text : ∀ s, ofValueAs 63 (.optional .text) (.string s) = .ok (.present (.text s)) :=
    fun s => ofValueAs_optional_present (by simp) (ofValueAs_text s 61)
  have status : ∀ s : VehicleStatus, ofValueAs 63 (.optional statusShape) (.string s.name) =
      .ok (.present (.variant (VehicleStatus.all.idxOf s))) :=
    fun s => ofValueAs_optional_present (by simp) (ofValueAs_status s 61)
  apply readPayload_of_ok
  rw [vehicleUpdated_wire, vehicleUpdatedShape, ofValueAs_record_object, List.append_assoc,
    List.append_assoc, List.append_assoc, List.append_assoc,
    membersAs_optionalMember _ (fun s => .present (.text s)) e.brand
      (show fieldIndex _ "brand" = some 3 by rfl) rfl text,
    List.singleton_append,
    membersAs_cons_field (show fieldIndex _ "carrierId" = some 1 by rfl) rfl
      (ofValueAs_ofIntOption carrier 61),
    membersAs_optionalMember _ (fun s => .present (.text s)) e.licensePlate
      (show fieldIndex _ "licensePlate" = some 2 by rfl) rfl text,
    membersAs_optionalMember _ (fun s => .present (.text s)) e.model
      (show fieldIndex _ "model" = some 4 by rfl) rfl text,
    membersAs_optionalMember _ (fun s => .present (.variant (VehicleStatus.all.idxOf s))) e.status
      (show fieldIndex _ "status" = some 5 by rfl) rfl status,
    membersAs_cons_field (show fieldIndex _ "vehicleId" = some 0 by rfl) rfl
      (ofValueAs_ofInt vehicle 62), membersAs_nil]
  simp only [List.map_cons, List.map_nil, List.set_cons_zero, List.set_cons_succ, Shape.required,
    Shape.optionalField, completeFields_cons_some, completeFields_cons_fallback]
  rfl

theorem vehicleUpdatedOf_record (e : VehicleUpdated) :
    vehicleUpdatedOf (.record [.int e.vehicle, (e.carrier.map fun i => .present (.int i)).getD .absent,
      (e.licensePlate.map fun s => .present (.text s)).getD .absent,
      (e.brand.map fun s => .present (.text s)).getD .absent,
      (e.model.map fun s => .present (.text s)).getD .absent,
      (e.status.map fun s => .present (.variant (VehicleStatus.all.idxOf s))).getD .absent]) = e := by
  simp [vehicleUpdatedOf, Datum.field, Datum.asInt, Datum.asText, Datum.asVariant, Option.map_map,
    Function.comp_def, statusOfIndex_idxOf]

theorem userCreated_wire (e : UserCreated) : (DomainEvent.userCreated e).wire.2 = .object
    [("email", .string e.email), ("roles", .array (e.roles.map .string)),
     ("userId", Value.ofInt e.user)] := by
  simp [DomainEvent.wire, Value.sortedObject, Value.insertSorted, -String.lt_iff_ltb]

theorem readPayload_userCreated {e : UserCreated} (user : FitsInt64 e.user) :
    readPayload userCreatedShape (DomainEvent.userCreated e).wire.2 =
      .ok (.record [.int e.user, .text e.email, .list (e.roles.map .text)]) := by
  apply readPayload_of_ok
  rw [userCreated_wire, userCreatedShape, ofValueAs_record_object,
    membersAs_cons_field (show fieldIndex _ "email" = some 1 by rfl) rfl (ofValueAs_text _ _),
    membersAs_cons_field (show fieldIndex _ "roles" = some 2 by rfl) rfl (ofValueAs_strings _ _),
    membersAs_cons_field (show fieldIndex _ "userId" = some 0 by rfl) rfl (ofValueAs_ofInt user _),
    membersAs_nil]
  rfl

theorem userCreatedOf_record (e : UserCreated) :
    userCreatedOf (.record [.int e.user, .text e.email, .list (e.roles.map .text)]) = e := by
  simp [userCreatedOf, Datum.field, Datum.asInt, Datum.asText, Datum.asList, Function.comp_def]

theorem userUpdated_wire (e : UserUpdated) : (DomainEvent.userUpdated e).wire.2 = .object
    [("email", optionalText e.email),
     ("roles", (e.roles.map fun roles => .array (roles.map Value.string)).getD .null),
     ("userId", Value.ofInt e.user)] := by
  obtain ⟨user, email, roles⟩ := e
  cases roles <;> simp [DomainEvent.wire, Value.sortedObject, Value.insertSorted, -String.lt_iff_ltb]

theorem ofValueAs_optionalText (budget : Nat) (o : Option String) :
    ofValueAs (budget + 2) (.optional .text) (optionalText o) =
      .ok ((o.map fun s => .present (.text s)).getD .absent) := by
  cases o with
  | none => exact ofValueAs_null_optional _ _
  | some s => exact ofValueAs_optional_present (by simp [optionalText]) (ofValueAs_text s _)

theorem ofValueAs_optionalStrings (budget : Nat) (o : Option (List String)) :
    ofValueAs (budget + 3) (.optional (.list .text))
      ((o.map fun roles => .array (roles.map Value.string)).getD .null) =
      .ok ((o.map fun texts => .present (.list (texts.map .text))).getD .absent) := by
  cases o with
  | none => exact ofValueAs_null_optional _ _
  | some texts => exact ofValueAs_optional_present (by simp) (ofValueAs_strings _ texts)

theorem readPayload_userUpdated {e : UserUpdated} (user : FitsInt64 e.user) :
    readPayload userUpdatedShape (DomainEvent.userUpdated e).wire.2 =
      .ok (.record [.int e.user, (e.email.map fun s => .present (.text s)).getD .absent,
        (e.roles.map fun texts => .present (.list (texts.map .text))).getD .absent]) := by
  apply readPayload_of_ok
  rw [userUpdated_wire, userUpdatedShape, ofValueAs_record_object,
    membersAs_cons_field (show fieldIndex _ "email" = some 1 by rfl) rfl
      (ofValueAs_optionalText _ _),
    membersAs_cons_field (show fieldIndex _ "roles" = some 2 by rfl) rfl
      (ofValueAs_optionalStrings _ _),
    membersAs_cons_field (show fieldIndex _ "userId" = some 0 by rfl) rfl (ofValueAs_ofInt user _),
    membersAs_nil]
  rfl

theorem userUpdatedOf_record (e : UserUpdated) :
    userUpdatedOf (.record [.int e.user, (e.email.map fun s => .present (.text s)).getD .absent,
      (e.roles.map fun texts => .present (.list (texts.map .text))).getD .absent]) = e := by
  obtain ⟨user, email, roles⟩ := e
  cases email <;> cases roles <;>
    simp [userUpdatedOf, Datum.field, Datum.asInt, Datum.asText, Datum.asList, Datum.asOption,
      Function.comp_def]

/-- The message of an event whose ids fit in 64 signed bits decodes to the event. -/
theorem decode_encode {e : DomainEvent} (fits : e.IdsFit) : decode (encode e) = .ok e := by
  rw [encode_eq, decode_envelope _ (wire_readsBack fits) (wire_isNull e)]
  have updated : (vehicleUpdatedType == vehicleCreatedType) = false := by decide
  have created : (userCreatedType == vehicleCreatedType) = false ∧
      (userCreatedType == vehicleUpdatedType) = false := by decide
  have userUpdated : (userUpdatedType == vehicleCreatedType) = false ∧
      (userUpdatedType == vehicleUpdatedType) = false ∧
      (userUpdatedType == userCreatedType) = false := by decide
  cases e with
  | vehicleCreated e =>
    rw [readPayload_vehicleCreated fits.1 fits.2]
    simp only [show (DomainEvent.vehicleCreated e).wire.1 = vehicleCreatedType from rfl,
      beq_self_eq_true, if_true]
    exact congrArg (fun e => Except.ok (DomainEvent.vehicleCreated e)) (vehicleCreatedOf_record e)
  | vehicleUpdated e =>
    rw [readPayload_vehicleUpdated fits.1 fits.2]
    simp only [show (DomainEvent.vehicleUpdated e).wire.1 = vehicleUpdatedType from rfl,
      updated, beq_self_eq_true, Bool.false_eq_true, if_true, if_false]
    exact congrArg (fun e => Except.ok (DomainEvent.vehicleUpdated e)) (vehicleUpdatedOf_record e)
  | userCreated e =>
    rw [readPayload_userCreated fits]
    simp only [show (DomainEvent.userCreated e).wire.1 = userCreatedType from rfl,
      created, beq_self_eq_true, Bool.false_eq_true, if_true, if_false]
    exact congrArg (fun e => Except.ok (DomainEvent.userCreated e)) (userCreatedOf_record e)
  | userUpdated e =>
    rw [readPayload_userUpdated fits]
    simp only [show (DomainEvent.userUpdated e).wire.1 = userUpdatedType from rfl,
      userUpdated, beq_self_eq_true, Bool.false_eq_true, if_true, if_false]
    exact congrArg (fun e => Except.ok (DomainEvent.userUpdated e)) (userUpdatedOf_record e)

theorem readPayload_intFits {name : String} {fields : List (String × Shape × Option Datum)}
    (signed : FieldsSigned fields) {payload : Value} (fits : payload.NumbersFit) :
    Yields (readPayload (.record name fields) payload) fun d => ∀ i, (d.field i).IntFits := by
  unfold readPayload Value.readAs
  split
  next read => exact yields_pure (ofValueAs_record_intFits name signed fits _ read)
  next => exact yields_error _

/-- The ids of every decoded event fit in 64 signed bits: the payload was read from text, so its
negative numbers fit, and its ids were read by signed shapes, which refuse larger naturals. -/
theorem decode_idsFit (m : String) : Yields (decode m) DomainEvent.IdsFit := by
  have envelope : ∀ f ∈ [Shape.required "type" .text,
      Shape.withFallback "payload" .any (.json .null)], ∀ d ∈ f.2.2, d.JsonFits := by
    intro f mem d same
    simp only [List.mem_cons, List.not_mem_nil, or_false] at mem
    rcases mem with rfl | rfl
    · cases same
    · cases same; exact Value.NumbersFit.null
  unfold decode
  dsimp only
  split
  next env read =>
    have fits : ∀ i, (env.field i).JsonFits := readTextAs_record_jsonFits envelope read
    have payload : (env.field 1).asJson.NumbersFit := fits 1
    simp only [pure_bind]
    split
    · exact yields_throw_bind _ _
    -- one case per type name, each reading the payload by its record shape
    split
    · exact yields_bind (readPayload_intFits (by decide) payload) fun d ids =>
        yields_pure ⟨(ids 0).1, (ids 1).1⟩
    split
    · refine yields_bind (readPayload_intFits (by decide) payload) fun d ids =>
        yields_pure ⟨(ids 0).1, fun i mem => ?_⟩
      obtain ⟨x, present, rfl⟩ := Option.map_eq_some_iff.1 mem
      exact (ids 1).2 x present
    split
    · exact yields_bind (readPayload_intFits (by decide) payload) fun d ids =>
        yields_pure (ids 0).1
    split
    · exact yields_bind (readPayload_intFits (by decide) payload) fun d ids =>
        yields_pure (ids 0).1
    · exact yields_throw _
  next => exact yields_throw_bind _ _

/-- The event codec round-trips: the message of every event whose ids fit in 64 signed bits
decodes to the event, every decoded event is such an event, and so decoding and encoding again
change nothing. -/
theorem event_codec_round_trips :
    (∀ e : DomainEvent, e.IdsFit → decode (encode e) = .ok e) ∧
    (∀ (m : String) (e : DomainEvent), decode m = .ok e →
      decode (encode e) = .ok e ∧ encode <$> decode (encode e) = .ok (encode e)) := by
  refine ⟨fun e fits => decode_encode fits, fun m e decoded => ?_⟩
  have fits : e.IdsFit := decode_idsFit m e decoded
  have again : decode (encode e) = .ok e := decode_encode fits
  refine ⟨again, ?_⟩
  rw [again]
  rfl

/-- A vehicle update with its carrier, brand and model absent goes through the codec and back. -/
theorem vehicle_update_round_trips :
    let e := DomainEvent.vehicleUpdated ⟨7, none, some "AB-123", none, none, some .maintenance⟩
    decode (encode e) = .ok e ∧ encode <$> decode (encode e) = .ok (encode e) :=
  event_codec_round_trips.2 _ _ (event_codec_round_trips.1 _ (by decide))

end FleetIssues.Fleet
