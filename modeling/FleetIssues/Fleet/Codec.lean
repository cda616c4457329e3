import FleetIssues.Fleet.Event
import FleetIssues.Json.FromValue
import FleetIssues.Json.Value
/-! The wire form of fleet events. -/

namespace FleetIssues.Fleet

open Json Schema

/-- Why a message is not an event. -/
inductive DecodeError where
  | malformed (error : ReadError)
  | unknownType (kind : String)
  | nullPayload (kind : String)
  deriving DecidableEq, Repr

namespace DecodeError

/-- The sentence of a decoding error. -/
def message : DecodeError → String
  | .malformed error => "Malformed message: " ++ error.message
  | .unknownType kind => "Unknown event type: " ++ kind
  | .nullPayload kind => "Null " ++ kind ++ " event"

/-- The name of the kind of decoding error. -/
def kind : DecodeError → String
  | .malformed _ => "Json"
  | .unknownType _ => "UnknownType"
  | .nullPayload _ => "NullPayload"

end DecodeError

/-- The wire name of a vehicle creation. -/
def vehicleCreatedType : String := "vehicleCreatedEvent"

/-- The wire name of a vehicle update. -/
def vehicleUpdatedType : String := "vehicleUpdatedEvent"

/-- The wire name of a user creation. -/
def userCreatedType : String := "userCreatedEvent"

/-- The wire name of a user update. -/
def userUpdatedType : String := "userUpdatedEvent"

/-- The envelope: a type name and an optional payload. -/
def envelopeShape : Shape :=
  .record "Envelope" [Shape.required "type" .text, Shape.withFallback "payload" .any (.json .null)]

/-- The shape of a vehicle status. -/
def statusShape : Shape :=
  .unitEnum "VehicleStatusDto" (VehicleStatus.all.map VehicleStatus.name)

/-- The payload of a vehicle creation. -/
def vehicleCreatedShape : Shape :=
  .record "VehicleCreatedEvent"
    [Shape.required "vehicleId" .int64, Shape.required "managerId" .int64,
     Shape.withFallback "licensePlate" .text (.text ""), Shape.withFallback "brand" .text (.text ""),
     Shape.withFallback "model" .text (.text ""), Shape.required "status" statusShape]

/-- The payload of a vehicle update. -/
def vehicleUpdatedShape : Shape :=
  .record "VehicleUpdatedEvent"
    [Shape.required "vehicleId" .int64, Shape.optionalField "carrierId" .int64,
     Shape.optionalField "licensePlate" .text, Shape.optionalField "brand" .text,
     Shape.optionalField "model" .text, Shape.optionalField "status" statusShape]

/-- The payload of a user creation. -/
def userCreatedShape : Shape :=
  .record "UserCreatedEvent"
    [Shape.required "userId" .int64, Shape.withFallback "email" .text (.text ""),
     Shape.withFallback "roles" (.list .text) (.list [])]

/-- The payload of a user update. -/
def userUpdatedShape : Shape :=
  .record "UserUpdatedEvent"
    [Shape.required "userId" .int64, Shape.optionalField "email" .text,
     Shape.optionalField "roles" (.list .text)]

/-- The vehicle status at a position of the wire order. -/
def statusOfIndex (i : Nat) : VehicleStatus := VehicleStatus.all.getD i .active

/-- The event of a read vehicle creation. -/
def vehicleCreatedOf (d : Datum) : VehicleCreated :=
  ⟨(d.field 0).asInt, (d.field 1).asInt, (d.field 2).asText, (d.field 3).asText,
   (d.field 4).asText, statusOfIndex (d.field 5).asVariant⟩

/-- The event of a read vehicle update. -/
def vehicleUpdatedOf (d : Datum) : VehicleUpdated :=
  ⟨(d.field 0).asInt, (d.field 1).asOption.map Datum.asInt, (d.field 2).asOption.map Datum.asText,
   (d.field 3).asOption.map Datum.asText, (d.field 4).asOption.map Datum.asText,
   (d.field 5).asOption.map (fun s => statusOfIndex s.asVariant)⟩

/-- The event of a read user creation. -/
def userCreatedOf (d : Datum) : UserCreated :=
  ⟨(d.field 0).asInt, (d.field 1).asText, (d.field 2).asList.map Datum.asText⟩

/-- The event of a read user update. -/
def userUpdatedOf (d : Datum) : UserUpdated :=
  ⟨(d.field 0).asInt, (d.field 1).asOption.map Datum.asText,
   (d.field 2).asOption.map (fun l => l.asList.map Datum.asText)⟩

/-- Reads a payload by a shape, as a decoding error when it does not fit. -/
def readPayload (shape : Shape) (payload : Value) : Except DecodeError Datum :=
  match payload.readAs shape with
  | .ok d => .ok d
  | .error e => .error (.malformed ⟨.data e, none⟩)

/-- Decodes a message into an event. The envelope is read first, then a null payload is
refused, then the type is looked up and the payload read by its shape. -/
def decode (message : String) : Except DecodeError DomainEvent := do
  let envelope ← match readTextAs envelopeShape message with
    | .ok d => pure d
    | .error e => throw (.malformed e)
  let kind := (envelope.field 0).asText
  let payload := (envelope.field 1).asJson
  if payload.isNull then throw (.nullPayload kind)
  if kind == vehicleCreatedType then
    return .vehicleCreated (vehicleCreatedOf (← readPayload vehicleCreatedShape payload))
  else if kind == vehicleUpdatedType then
    return .vehicleUpdated (vehicleUpdatedOf (← readPayload vehicleUpdatedShape payload))
  else if kind == userCreatedType then
    return .userCreated (userCreatedOf (← readPayload userCreatedShape payload))
  else if kind == userUpdatedType then
    return .userUpdated (userUpdatedOf (← readPayload userUpdatedShape payload))
  else throw (.unknownType kind)

/-- The wire value of optional text. -/
def optionalText : Option String → Value
  | some s => .string s
  | none => .null

/-- The type name and payload of an event. -/
def DomainEvent.wire : DomainEvent → String × Value
  | .vehicleCreated e =>
    (vehicleCreatedType, Value.sortedObject
      [("vehicleId", Value.ofInt e.vehicle), ("managerId", Value.ofInt e.manager),
       ("licensePlate", .string e.licensePlate), ("brand", .string e.brand),
       ("model", .string e.model), ("status", .string e.status.name)])
  | .vehicleUpdated e =>
    (vehicleUpdatedType, Value.sortedObject
      ([("vehicleId", Value.ofInt e.vehicle), ("carrierId", Value.ofIntOption e.carrier)] ++
       (e.licensePlate.map (fun s => ("licensePlate", Value.string s))).toList ++
       (e.brand.map (fun s => ("brand", Value.string s))).toList ++
       (e.model.map (fun s => ("model", Value.string s))).toList ++
       (e.status.map (fun s => ("status", Value.string s.name))).toList))
  | .userCreated e =>
    (userCreatedType, Value.sortedObject
      [("userId", Value.ofInt e.user), ("email", .string e.email),
       ("roles", .array (e.roles.map Value.string))])
  | .userUpdated e =>
    (userUpdatedType, Value.sortedObject
      [("userId", Value.ofInt e.user), ("email", optionalText e.email),
       ("roles", match e.roles with
         | some roles => .array (roles.map Value.string)
         | none => .null)])

/-- Encodes an event as its message: the envelope with the type first. -/
def encode (event : DomainEvent) : String :=
  let (kind, payload) := event.wire
  (Value.object [("type", .string kind), ("payload", payload)]).compact

end FleetIssues.Fleet
