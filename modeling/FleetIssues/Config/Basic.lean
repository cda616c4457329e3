import FleetIssues.Json.Cursor
import FleetIssues.Auth.Gateway
import FleetIssues.Schema.Shape
/-! The configuration of the issues service, and the errors of its files. -/

namespace FleetIssues

/-- Why a configuration or an event file cannot be used. -/
inductive ServiceError where
  | unsupportedConfigFormat (path extension : String)
  | config (reason : String)
  | io (reason : String)
  | json (error : Json.ReadError)
  | yaml (reason : String)
  deriving DecidableEq, Repr

namespace ServiceError

/-- The sentence of a service error. -/
def message : ServiceError → String
  | .unsupportedConfigFormat path extension =>
    "Unsupported config format '" ++ extension ++ "' for " ++ path ++
      ". Expected one of: json, yaml, yml"
  | .config reason => "Configuration error: " ++ reason
  | .io reason => "IO error: " ++ reason
  | .json error => "JSON error: " ++ error.message
  | .yaml reason => "YAML error: " ++ reason

/-- The name of the kind of error. -/
def kind : ServiceError → String
  | .unsupportedConfigFormat _ _ => "UnsupportedConfigFormat"
  | .config _ => "Config"
  | .io _ => "Io"
  | .json _ => "Json"
  | .yaml _ => "Yaml"

/-- The error beneath a service error, whose sentence it repeats, if any. -/
def cause : ServiceError → Option String
  | .unsupportedConfigFormat _ _ => none
  | .config _ => none
  | .io reason => some reason
  | .json error => some error.message
  | .yaml reason => some reason

end ServiceError

/-- The reason given when text read from a stream is not UTF-8. -/
def invalidUtf8Reason : String := "stream did not contain valid UTF-8"

/-- The reason given when a file does not exist. -/
def missingFileReason : String := "No such file or directory (os error 2)"

end FleetIssues

namespace FleetIssues.Config

open Auth Schema Json

/-- The gateway's section: its route rules. -/
structure GatewayConfig where
  routes : List RouteRuleConfig
  deriving DecidableEq, Repr

/-- The logging section: the filter used when none is set in the environment. -/
structure LoggingConfig where
  filter : String
  deriving DecidableEq, Repr

/-- The consumer section: the bound of the channel between the transport and the index. -/
structure ConsumerConfig where
  channelCapacity : Nat
  deriving DecidableEq, Repr

/-- The whole configuration. -/
structure ServiceConfig where
  gateway : GatewayConfig
  logging : LoggingConfig
  consumer : ConsumerConfig
  deriving DecidableEq, Repr

/-- The route rules used when none are configured. -/
def defaultRoutes : List RouteRuleConfig :=
  [⟨"/api/v1/issues/**", ["CARRIER", "MANAGER", "ADMIN"]⟩,
   ⟨"/api/v1/vehicles/**", ["MANAGER", "ADMIN"]⟩,
   ⟨"/api/v1/shipments/**", ["CARRIER", "MANAGER", "ADMIN"]⟩,
   ⟨"/api/v1/payments/**", ["MANAGER", "ADMIN"]⟩,
   ⟨"/api/v1/users/**", ["ADMIN"]⟩]

/-- The logging filter used when none is configured. -/
def defaultLogFilter : String := "info"

/-- The channel capacity used when none is configured. -/
def defaultChannelCapacity : Nat := 1024

/-- The configuration with every default. -/
def ServiceConfig.default : ServiceConfig :=
  ⟨⟨defaultRoutes⟩, ⟨defaultLogFilter⟩, ⟨defaultChannelCapacity⟩⟩

/-- The datum of a route rule. -/
def RouteRuleConfig.toDatum (rule : RouteRuleConfig) : Datum :=
  .record [.text rule.pattern, .list (rule.roles.map Datum.text)]

/-- The shape of a route rule: both fields required. -/
def routeShape : Shape :=
  .record "RouteRuleConfig" [Shape.required "pattern" .text, Shape.required "roles" (.list .text)]

/-- The shape of the gateway section. -/
def gatewayShape : Shape :=
  .record "GatewayConfig"
    [Shape.withFallback "routes" (.list routeShape) (.list (defaultRoutes.map RouteRuleConfig.toDatum))]

/-- The shape of the logging section. -/
def loggingShape : Shape :=
  .record "LoggingConfig" [Shape.withFallback "filter" .text (.text defaultLogFilter)]

/-- The shape of the consumer section. -/
def consumerShape : Shape :=
  .record "ConsumerConfig" [Shape.withFallback "channelCapacity" .size (.int defaultChannelCapacity)]

/-- The shape of a configuration file; a missing section takes its defaults. -/
def serviceShape : Shape :=
  .record "ServiceConfig"
    [Shape.withFallback "gateway" gatewayShape (.record [.list (defaultRoutes.map RouteRuleConfig.toDatum)]),
     Shape.withFallback "logging" loggingShape (.record [.text defaultLogFilter]),
     Shape.withFallback "consumer" consumerShape (.record [.int defaultChannelCapacity])]

/-- The route rule of a datum read by its shape. -/
def routeOf (d : Datum) : RouteRuleConfig :=
  ⟨(d.field 0).asText, (d.field 1).asList.map Datum.asText⟩

/-- The configuration of a datum read by its shape. -/
def ServiceConfig.ofDatum (d : Datum) : ServiceConfig :=
  ⟨⟨((d.field 0).field 0).asList.map routeOf⟩, ⟨((d.field 1).field 0).asText⟩,
   ⟨((d.field 2).field 0).asInt.toNat⟩⟩

/-- Checks the rules a configuration must keep: a positive capacity, then roles on every route. -/
def ServiceConfig.validate (c : ServiceConfig) : Except ServiceError Unit :=
  if c.consumer.channelCapacity == 0 then
    .error (.config "consumer.channelCapacity must be greater than zero")
  else match c.gateway.routes.find? (·.roles.isEmpty) with
    | some rule => .error (.config ("route '" ++ rule.pattern ++ "' lists no roles"))
    | none => .ok ()

/-- The configuration as a JSON value, fields in declaration order. -/
def ServiceConfig.toValue (c : ServiceConfig) : Value :=
  .object [
    ("gateway", .object [("routes", .array (c.gateway.routes.map fun r =>
      .object [("pattern", .string r.pattern), ("roles", .array (r.roles.map Value.string))]))]),
    ("logging", .object [("filter", .string c.logging.filter)]),
    ("consumer", .object [("channelCapacity", .number (.natural c.consumer.channelCapacity))])]

end FleetIssues.Config
