import FleetIssues.Caller
import FleetIssues.Route.Pattern
import FleetIssues.Text.Basic
/-! The gateway: why it turns a request away, the route rules it applies, and bearer tokens. -/

namespace FleetIssues.Auth

/-- Why the gateway refuses a request, or why a route table cannot be built. -/
inductive AuthError where
  | missingToken
  | invalidToken (reason : String)
  | missingRoles
  | forbidden (path : String) (required : List String)
  | invalidRoute (pattern : String) (reason : String)
  deriving DecidableEq, Repr

namespace AuthError

/-- The sentence that describes a refusal. -/
def message : AuthError → String
  | .missingToken => "Missing bearer token"
  | .invalidToken reason => s!"Invalid token: {reason}"
  | .missingRoles => "Missing roles"
  | .forbidden path required =>
    "Access to '" ++ path ++ "' requires one of: " ++ ", ".intercalate required
  | .invalidRoute pattern reason => s!"Invalid route pattern '{pattern}': {reason}"

/-- The HTTP status of a refusal: 401 without a usable token, 403 without a fitting role, 500
for a broken route table. -/
def status : AuthError → Nat
  | .missingToken | .invalidToken _ => 401
  | .missingRoles | .forbidden _ _ => 403
  | .invalidRoute _ _ => 500

/-- The name of the kind of refusal. -/
def kind : AuthError → String
  | .missingToken => "MissingToken"
  | .invalidToken _ => "InvalidToken"
  | .missingRoles => "MissingRoles"
  | .forbidden _ _ => "Forbidden"
  | .invalidRoute _ _ => "InvalidRoute"

end AuthError

end FleetIssues.Auth

namespace FleetIssues.Auth

open Route

/-- A route rule as configured: a pattern text and the roles allowed through. -/
structure RouteRuleConfig where
  pattern : String
  roles : List String
  deriving DecidableEq, Repr, Inhabited

/-- A route rule with its compiled pattern. -/
structure RouteRule where
  pattern : Pattern
  roles : List String
  deriving DecidableEq, Repr

/-- Removes every trailing slash of a path. -/
def trimTrailingSlashes (path : String) : String :=
  String.ofList ((path.toList.reverse.dropWhile (· == '/')).reverse)

namespace RouteRule

/-- Compiles a configured rule; a broken pattern names the pattern and the fault. -/
def compile (config : RouteRuleConfig) : Except AuthError RouteRule :=
  match Pattern.compile config.pattern with
  | .ok pattern => .ok ⟨pattern, config.roles⟩
  | .error e => .error (.invalidRoute config.pattern e.message)

/-- Whether a rule covers a path, with or without trailing slashes. -/
def covers (rule : RouteRule) (path : String) : Bool :=
  let trimmed := trimTrailingSlashes path
  rule.pattern.accepts trimmed || rule.pattern.accepts (trimmed ++ "/")

end RouteRule

/-- The ordered rules that guard request paths. -/
structure RouteGuard where
  rules : List RouteRule
  deriving DecidableEq, Repr

namespace RouteGuard

/-- Compiles configured rules in order; the first broken pattern stops the table. -/
def ofConfig (configs : List RouteRuleConfig) : Except AuthError RouteGuard :=
  (configs.mapM RouteRule.compile).map RouteGuard.mk

/-- The first rule that covers a path. -/
def ruleFor (guard : RouteGuard) (path : String) : Option RouteRule :=
  guard.rules.find? (·.covers path)

/-- Admits a request to a path for a caller with the given roles, if any were sent. -/
def authorize (guard : RouteGuard) (path : String) (roles : Option RoleSet) :
    Except AuthError Unit :=
  match guard.ruleFor path with
  | none => .ok ()
  | some rule =>
    match roles with
    | none => .error .missingRoles
    | some held => if held.hasAny rule.roles then .ok () else .error (.forbidden path rule.roles)

end RouteGuard

end FleetIssues.Auth

namespace FleetIssues.Auth

open Text

/-- What a token stands for: a subject and its roles. -/
structure Claims where
  subject : Int
  roles : RoleSet
  deriving DecidableEq, Repr

/-- Reads the token of an authorization header: it must start with `Bearer `, and the rest,
trimmed, must not be empty. -/
def bearerToken (header : Option String) : Except AuthError String :=
  match header with
  | none => .error .missingToken
  | some text =>
    if text.startsWith "Bearer " then
      let token := trimBlank (String.ofList (text.toList.drop 7))
      if token.isEmpty then .error .missingToken else .ok token
    else .error (.invalidToken "expected Bearer scheme")

/-- A fixed table of tokens and their claims. -/
structure TokenTable where
  entries : List (String × Claims)
  deriving DecidableEq, Repr

namespace TokenTable

/-- The table with no token. -/
def empty : TokenTable := ⟨[]⟩

/-- Adds a token; a token already in the table takes the new claims. -/
def insert (table : TokenTable) (token : String) (claims : Claims) : TokenTable :=
  ⟨table.entries.filter (·.1 != token) ++ [(token, claims)]⟩

/-- The claims of a known token. -/
def verify (table : TokenTable) (token : String) : Except AuthError Claims :=
  match table.entries.find? (·.1 == token) with
  | some entry => .ok entry.2
  | none => .error (.invalidToken "unknown token")

end TokenTable

/-- The identity the gateway forwards for an admitted request. -/
structure ForwardedIdentity where
  userId : Int
  roles : RoleSet
  deriving DecidableEq, Repr

/-- The headers that carry a forwarded identity: the user id, then the roles. -/
def ForwardedIdentity.headers (identity : ForwardedIdentity) : List (String × String) :=
  [(userIdHeader, toString identity.userId), (userRolesHeader, identity.roles.toHeader)]

/-- A token table in front of a route guard. -/
structure Gateway where
  tokens : TokenTable
  guard : RouteGuard

/-- Admits a request to a path: reads the bearer token, looks it up, and asks the guard. -/
def Gateway.admit (gateway : Gateway) (path : String) (authorization : Option String) :
    Except AuthError ForwardedIdentity := do
  let token ← bearerToken authorization
  let claims ← gateway.tokens.verify token
  gateway.guard.authorize path (some claims.roles)
  return ⟨claims.subject, claims.roles⟩

end FleetIssues.Auth
