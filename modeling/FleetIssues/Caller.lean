import FleetIssues.Text.Basic
/-! Roles and role sets, request headers, and the caller they name. -/

namespace FleetIssues

open Text

/-- Upper-cases the ASCII letters of a text and leaves every other character alone. -/
def asciiUpper (s : String) : String :=
  String.ofList (s.toList.map Char.toUpper)

/-- Two texts are equal up to the case of their ASCII letters. -/
def equalsIgnoringAsciiCase (a b : String) : Bool :=
  asciiUpper a == asciiUpper b

/-- The prefix that a role may carry in a header. -/
def rolePrefix : String := "ROLE_"

/-- The canonical form of a role name: trimmed, ASCII letters upper-cased, then one leading
`ROLE_` removed. -/
def normalizeRole (role : String) : String :=
  let upper := asciiUpper (trimBlank role)
  if upper.startsWith rolePrefix then String.ofList (upper.toList.drop 5) else upper

/-- The administrator role. -/
def adminRole : String := "ADMIN"

/-- The role of a fleet manager. -/
def managerRole : String := "MANAGER"

/-- The role of a carrier, who drives vehicles and files issues. -/
def carrierRole : String := "CARRIER"

/-- The header that carries a caller's user id. -/
def userIdHeader : String := "X-User-Id"

/-- The header that carries a caller's roles. -/
def userRolesHeader : String := "X-User-Roles"

/-- Drops every element equal to the one before it, so that runs collapse to one element. -/
def collapseRuns : List String → List String
  | [] => []
  | [a] => [a]
  | a :: b :: rest => if a == b then collapseRuns (b :: rest) else a :: collapseRuns (b :: rest)

/-- The roles a caller holds, in canonical form, in the order given, with runs collapsed. -/
structure RoleSet where
  roles : List String
  deriving DecidableEq, Repr, Inhabited

namespace RoleSet

/-- The empty role set. -/
def empty : RoleSet := ⟨[]⟩

/-- Builds a role set from names: each is normalised, empty names are dropped and runs of one
name collapse. -/
def ofNames (names : List String) : RoleSet :=
  ⟨collapseRuns ((names.map normalizeRole).filter (fun r => !r.isEmpty))⟩

/-- Reads a roles header: its comma-separated entries are names. -/
def parse (header : String) : RoleSet :=
  ofNames ((header.toList.splitOn ',').map String.ofList)

/-- Whether the set holds a role, given in any written form. -/
def has (set : RoleSet) (role : String) : Bool :=
  let wanted := normalizeRole role
  set.roles.any (· == wanted)

/-- Whether the set holds one of the roles given. -/
def hasAny (set : RoleSet) (wanted : List String) : Bool :=
  wanted.any set.has

/-- Whether the set holds no role. -/
def isEmpty (set : RoleSet) : Bool :=
  set.roles.isEmpty

/-- The header text of a role set: each role with the `ROLE_` prefix, joined by commas. -/
def toHeader (set : RoleSet) : String :=
  ",".intercalate (set.roles.map (rolePrefix ++ ·))

end RoleSet

end FleetIssues

namespace FleetIssues

open Text

/-- Request headers as name and value pairs, in the order received. -/
structure Headers where
  entries : List (String × String)
  deriving DecidableEq, Repr, Inhabited

namespace Headers

/-- The value of the first header whose name matches, ignoring ASCII case. -/
def get (headers : Headers) (name : String) : Option String :=
  (headers.entries.find? (fun entry => equalsIgnoringAsciiCase entry.1 name)).map Prod.snd

/-- Adds a header after the others. -/
def add (headers : Headers) (name value : String) : Headers :=
  ⟨headers.entries ++ [(name, value)]⟩

end Headers

/-- The identity behind a request. -/
structure Caller where
  userId : Option Int
  roles : RoleSet
  deriving DecidableEq, Repr, Inhabited

namespace Caller

/-- Reads a caller from the values of the id and roles headers. -/
def ofHeaderValues (userId roles : Option String) : Caller :=
  { userId := userId.bind (fun value => parseInt64? (trimBlank value))
    roles := (roles.map RoleSet.parse).getD RoleSet.empty }

/-- Reads the caller of a request from its headers. -/
def ofHeaders (headers : Headers) : Caller :=
  ofHeaderValues (headers.get userIdHeader) (headers.get userRolesHeader)

/-- Whether the caller holds a role. -/
def hasRole (caller : Caller) (role : String) : Bool :=
  caller.roles.has role

/-- Whether the caller is an administrator. -/
def isAdmin (caller : Caller) : Bool :=
  caller.hasRole adminRole

/-- The caller's id when it acts as a carrier. -/
def asCarrier (caller : Caller) : Option Int :=
  if caller.hasRole carrierRole then caller.userId else none

/-- The caller's id when it acts as a manager. -/
def asManager (caller : Caller) : Option Int :=
  if caller.hasRole managerRole then caller.userId else none

end Caller

end FleetIssues
