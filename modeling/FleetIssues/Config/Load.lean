import FleetIssues.Config.Basic
import FleetIssues.Json.Typed
import FleetIssues.Text.Basic
import FleetIssues.Text.Utf8
import FleetIssues.Yaml.Read
/-! Loading a configuration file, and the rules every loaded configuration keeps. -/

namespace FleetIssues.Config

open Text Json

/-- The formats a configuration file can be written in. -/
inductive ConfigFormat where
  | json
  | yaml
  deriving DecidableEq, Repr

/-- The format named by a path's extension. -/
def formatOf (path : String) : Except ServiceError ConfigFormat :=
  let ext := asciiLower ((extension path).getD "")
  if ext == "json" then .ok .json
  else if ext == "yaml" || ext == "yml" then .ok .yaml
  else .error (.unsupportedConfigFormat path ext)

/-- Reads a configuration from text in a format. -/
def ServiceConfig.parse (format : ConfigFormat) (text : String) : Except ServiceError ServiceConfig :=
  match format with
  | .json =>
    match readTextAs serviceShape text with
    | .ok d => .ok (ServiceConfig.ofDatum d)
    | .error e => .error (.json e)
  | .yaml =>
    match Yaml.readTextAs serviceShape text with
    | .ok d => .ok (ServiceConfig.ofDatum d)
    | .error e => .error (.yaml e.message)

/-- Loads a configuration file from its path and what reading it gave: its bytes, or the reason
it could not be read. -/
def ServiceConfig.fromRead (path : String) (contents : Except String (List UInt8)) :
    Except ServiceError ServiceConfig :=
  match contents with
  | .error reason => .error (.io reason)
  | .ok bytes =>
    match decodeUtf8 bytes with
    | .error _ => .error (.io invalidUtf8Reason)
    | .ok text =>
      match formatOf path with
      | .error e => .error e
      | .ok format =>
        match ServiceConfig.parse format text with
        | .error e => .error e
        | .ok config =>
          match config.validate with
          | .error e => .error e
          | .ok () => .ok config

/-- Loads a configuration file from its path and contents, none when there is no such file. -/
def ServiceConfig.fromFile (path : String) (contents : Option (List UInt8)) :
    Except ServiceError ServiceConfig :=
  ServiceConfig.fromRead path (match contents with
    | some bytes => .ok bytes
    | none => .error missingFileReason)

/-- Loads the configuration file at a path, read whole by `read`, or gives the defaults when no
path is given. -/
def ServiceConfig.load (path : Option String) (read : String → Except String (List UInt8)) :
    Except ServiceError ServiceConfig :=
  match path with
  | none => .ok ServiceConfig.default
  | some p => ServiceConfig.fromRead p (read p)

end FleetIssues.Config

namespace FleetIssues.Config

open Text

/-- The rules a loaded configuration keeps: a positive channel capacity and a role on every
route. -/
def ServiceConfig.Valid (c : ServiceConfig) : Prop :=
  1 ≤ c.consumer.channelCapacity ∧ ∀ r ∈ c.gateway.routes, r.roles ≠ []

theorem validate_ok_valid (c : ServiceConfig) (h : c.validate = .ok ()) : c.Valid := by
  unfold ServiceConfig.validate at h
  split at h
  · cases h
  · rename_i hcap
    split at h
    · cases h
    · rename_i hfind
      refine ⟨?_, ?_⟩
      · simp only [beq_iff_eq] at hcap
        omega
      · intro r hr hnil
        have hnot := List.find?_eq_none.mp hfind r hr
        simp [hnil] at hnot

theorem default_valid : ServiceConfig.default.Valid := by
  refine ⟨by decide, ?_⟩
  intro r hr
  simp only [ServiceConfig.default, defaultRoutes, List.mem_cons, List.not_mem_nil,
    or_false] at hr
  rcases hr with rfl | rfl | rfl | rfl | rfl <;> simp

theorem fromRead_ok_valid (path : String) (contents : Except String (List UInt8))
    (c : ServiceConfig) (h : ServiceConfig.fromRead path contents = .ok c) : c.Valid := by
  unfold ServiceConfig.fromRead at h
  split at h
  · cases h
  · split at h
    · cases h
    · split at h
      · cases h
      · split at h
        · cases h
        · split at h
          · cases h
          · rename_i hv
            cases h
            exact validate_ok_valid _ hv

theorem fromRead_unreadable (path reason : String) :
    ServiceConfig.fromRead path (.error reason) = .error (.io reason) := rfl

theorem fromRead_not_utf8 (path : String) (bytes : List UInt8) (e : Utf8Error)
    (h : decodeUtf8 bytes = .error e) :
    ServiceConfig.fromRead path (.ok bytes) = .error (.io invalidUtf8Reason) := by
  simp [ServiceConfig.fromRead, h]

/-- Whatever loads is valid: the defaults, or a file that `validate` passed. -/
theorem load_ok_valid {path : Option String} {read : String → Except String (List UInt8)}
    {c : ServiceConfig} (loaded : ServiceConfig.load path read = .ok c) : c.Valid := by
  cases path with
  | none =>
    simp only [ServiceConfig.load, Except.ok.injEq] at loaded
    subst loaded
    exact default_valid
  | some p => exact fromRead_ok_valid p (read p) c loaded

theorem load_accepts_only_valid :
    (∀ (path : Option String) (read : String → Except String (List UInt8)) (c : ServiceConfig),
        ServiceConfig.load path read = .ok c → c.Valid) ∧
    (∀ read : String → Except String (List UInt8),
        ServiceConfig.load none read = .ok ServiceConfig.default) ∧
    ServiceConfig.default.Valid ∧
    (∀ (path : String) (read : String → Except String (List UInt8)) (reason : String),
        read path = .error reason → ServiceConfig.load (some path) read = .error (.io reason)) ∧
    (∀ (path : String) (read : String → Except String (List UInt8)) (bytes : List UInt8)
        (e : Utf8Error), read path = .ok bytes → decodeUtf8 bytes = .error e →
        ServiceConfig.load (some path) read = .error (.io invalidUtf8Reason)) := by
  refine ⟨fun _ _ _ => load_ok_valid, fun _ => rfl, default_valid, ?_, ?_⟩
  · intro path read reason h
    simp only [ServiceConfig.load, h]
    exact fromRead_unreadable path reason
  · intro path read bytes e h hdecode
    simp only [ServiceConfig.load, h]
    exact fromRead_not_utf8 path bytes e hdecode

end FleetIssues.Config
