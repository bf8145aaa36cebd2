import Hypeman.EgressProxy.Domains
import Hypeman.Tags.Validation

/-!
# The policies of a create request

Models of the normalisation of the policies that a create request carries: automatic standby
(`lib/autostandby/policy.go`), health checks (`lib/healthcheck/policy.go`), restarts
(`lib/restart-policy/policy.go`) and snapshot compression
(`lib/instances/snapshot_compression.go`). Each returns the normalised policy or the text of its
error.
-/

namespace Hypeman

open Foundations Foundations.Strings

/-- The functions of Go's standard library that request validation calls. -/
structure StdLib extends EgressProxy.GoLib where
  /-- `time.ParseDuration`, in nanoseconds. -/
  parseDuration : String → Except String Int
  /-- `time.Duration.String`. -/
  durationString : Int → String
  /-- `netip.ParsePrefix` followed by `Masked().String()`. -/
  parsePrefix : String → Except String String
  /-- `filepath.Clean`. -/
  cleanPath : String → String
  /-- The number `strconv.Atoi` returns, with an error or without. -/
  atoi : String → Int

/-- The first occurrences of the elements of a list, in order. -/
def firstOccurrences {α : Type} [DecidableEq α] (xs : List α) : List α :=
  xs.foldl (fun out x => if x ∈ out then out else out ++ [x]) []

variable (lib : StdLib)

/-! ## Automatic standby -/

namespace AutoStandby

structure Policy where
  enabled : Bool
  idleTimeout : String
  ignoreSourceCIDRs : List String
  ignoreDestinationPorts : List (Fin 65536)
deriving DecidableEq, Repr

/-- The source prefixes of `NormalizePolicy`, blank ones dropped. -/
def normalizeCIDRs (raws : List String) : Except String (List String) := do
  let cidrs := (raws.map trimSpace).filter (· != "")
  let canonical ← cidrs.mapM fun cidr =>
    match lib.parsePrefix cidr with
    | .ok p => .ok p
    | .error err => .error
        s!"auto_standby.ignore_source_cidrs contains invalid CIDR {lib.quote cidr}: {err}"
  return (firstOccurrences canonical).insertionSort (· ≤ ·)

/-- The destination ports of `NormalizePolicy`. -/
def normalizePorts (ports : List (Fin 65536)) : Except String (List (Fin 65536)) :=
  if ports.contains 0 then .error "auto_standby.ignore_destination_ports must not contain 0"
  else .ok ((firstOccurrences ports).insertionSort (· ≤ ·))

def NormalizePolicy : Option Policy → Except String (Option Policy)
  | none => .ok none
  | some policy =>
    if !policy.enabled then .ok (some ⟨false, "", [], []⟩)
    else
      let idleTimeout := trimSpace policy.idleTimeout
      if idleTimeout = "" then .error "auto_standby.idle_timeout is required when enabled"
      else match lib.parseDuration idleTimeout with
        | .error err => .error s!"auto_standby.idle_timeout must be a valid duration: {err}"
        | .ok parsed =>
          if parsed ≤ 0 then .error "auto_standby.idle_timeout must be positive"
          else do
            let cidrs ← normalizeCIDRs lib policy.ignoreSourceCIDRs
            let ports ← normalizePorts policy.ignoreDestinationPorts
            return some ⟨true, lib.durationString parsed, cidrs, ports⟩

end AutoStandby

/-! ## Health checks -/

namespace HealthCheck

/-- `Type`; `unset` is the empty text, `other` any text that names no kind of check. -/
inductive CheckType
  | unset
  | none
  | http
  | tcp
  | exec
  | other (text : String)
deriving DecidableEq, Repr

def CheckType.text : CheckType → String
  | .unset => ""
  | .none => "none"
  | .http => "http"
  | .tcp => "tcp"
  | .exec => "exec"
  | .other text => text

structure HTTPCheck where
  port : Fin 65536
  path : String
  scheme : String
  expectedStatus : Int
deriving DecidableEq, Repr

structure ExecCheck where
  command : List String
  workingDir : String
deriving DecidableEq, Repr

/-- `Policy`; a TCP check is its port. -/
structure Policy where
  type : CheckType
  interval : String
  timeout : String
  startPeriod : String
  failureThreshold : Int
  successThreshold : Int
  http : Option HTTPCheck
  tcp : Option (Fin 65536)
  exec : Option ExecCheck
deriving DecidableEq, Repr

def Enabled (policy : Option Policy) : Bool :=
  match policy with
  | Option.none => false
  | some p => p.type != .unset && p.type != .none

def inferType (policy : Policy) : Except String CheckType :=
  match policy.http, policy.tcp, policy.exec with
  | Option.none, Option.none, Option.none => .ok .none
  | some _, Option.none, Option.none => .ok .http
  | Option.none, some _, Option.none => .ok .tcp
  | Option.none, Option.none, some _ => .ok .exec
  | _, _, _ =>
    .error "health_check must include exactly one of http, tcp, or exec when type is omitted"

def parsePositiveDuration (name value : String) : Except String Int :=
  match lib.parseDuration value with
  | .error err => .error s!"{name} is invalid: {err}"
  | .ok parsed => if parsed ≤ 0 then .error s!"{name} must be positive" else .ok parsed

def parseNonNegativeDuration (name value : String) : Except String Int :=
  match lib.parseDuration value with
  | .error err => .error s!"{name} is invalid: {err}"
  | .ok parsed => if parsed < 0 then .error s!"{name} must not be negative" else .ok parsed

def withDefaults (p : Policy) : Policy := { p with
  interval := if p.interval = "" then lib.durationString 10000000000 else p.interval
  timeout := if p.timeout = "" then lib.durationString 2000000000 else p.timeout
  startPeriod := if p.startPeriod = "" then lib.durationString 30000000000 else p.startPeriod
  failureThreshold := if p.failureThreshold = 0 then 3 else p.failureThreshold
  successThreshold := if p.successThreshold = 0 then 1 else p.successThreshold }

/-- The HTTP check of `NormalizePolicy`, with its defaults. -/
def normalizeHTTP (c : HTTPCheck) : Except String HTTPCheck :=
  if c.port = 0 then .error "health_check.http.port must be between 1 and 65535"
  else
    let c := if c.path = "" then { c with path := "/" } else c
    if !hasPrefix c.path "/" then .error "health_check.http.path must start with /"
    else
      let c := if c.scheme = "" then { c with scheme := "http" } else c
      if c.scheme ≠ "http" ∧ c.scheme ≠ "https" then
        .error "health_check.http.scheme must be http or https"
      else
        let c := if c.expectedStatus = 0 then { c with expectedStatus := 200 } else c
        if c.expectedStatus < 100 ∨ 599 < c.expectedStatus then
          .error "health_check.http.expected_status must be between 100 and 599"
        else .ok c

/-- The switch on the type at the end of `NormalizePolicy`. -/
def normalizeCheck (p : Policy) : Except String Policy :=
  match p.type with
  | .http =>
    match p.http with
    | Option.none => .error "health_check.http is required when type is http"
    | some c =>
      if p.tcp.isSome || p.exec.isSome then
        .error "health_check type http cannot include tcp or exec checks"
      else (normalizeHTTP c).map fun c => { p with http := some c }
  | .tcp =>
    match p.tcp with
    | Option.none => .error "health_check.tcp is required when type is tcp"
    | some port =>
      if p.http.isSome || p.exec.isSome then
        .error "health_check type tcp cannot include http or exec checks"
      else if port = 0 then .error "health_check.tcp.port must be between 1 and 65535"
      else .ok p
  | .exec =>
    match p.exec with
    | Option.none => .error "health_check.exec is required when type is exec"
    | some c =>
      if p.http.isSome || p.tcp.isSome then
        .error "health_check type exec cannot include http or tcp checks"
      else if c.command.isEmpty then .error "health_check.exec.command must not be empty"
      else .ok p
  | _ => .error "health_check.type must be one of none, http, tcp, exec"

def NormalizePolicy : Option Policy → Except String (Option Policy)
  | Option.none => .ok Option.none
  | some policy => do
    let type ← if policy.type = .unset then inferType policy else .ok policy.type
    let p := { policy with type := type }
    if type = .none then
      return some { p with http := Option.none, tcp := Option.none, exec := Option.none }
    let p := withDefaults lib p
    let interval ← parsePositiveDuration lib "health_check.interval" p.interval
    let timeout ← parsePositiveDuration lib "health_check.timeout" p.timeout
    if interval < timeout then
      .error "health_check.timeout must be less than or equal to health_check.interval"
    let _ ← parseNonNegativeDuration lib "health_check.start_period" p.startPeriod
    if p.failureThreshold < 1 then .error "health_check.failure_threshold must be at least 1"
    if p.successThreshold < 1 then .error "health_check.success_threshold must be at least 1"
    (normalizeCheck p).map some

end HealthCheck

/-! ## Restarts -/

namespace RestartPolicy

/-- `PolicyMode`; `unset` is the empty text, `other` any text that names no mode. -/
inductive PolicyMode
  | unset
  | never
  | always
  | onFailure
  | other (text : String)
deriving DecidableEq, Repr

structure Policy where
  policy : PolicyMode
  backoff : String
  maxAttempts : Int
  stableAfter : String
deriving DecidableEq, Repr

def normalizeDuration (raw : String) (fallback : Int) (field : String) : Except String Int :=
  if trimSpace raw = "" then .ok fallback
  else match lib.parseDuration (trimSpace raw) with
    | .error err => .error s!"{field} must be a valid duration: {err}"
    | .ok parsed => if parsed ≤ 0 then .error s!"{field} must be positive" else .ok parsed

def NormalizePolicy : Option Policy → Except String (Option Policy)
  | none => .ok none
  | some policy =>
    match policy.policy with
    | .unset | .never => .ok none
    | .other _ => .error "restart_policy.policy must be one of never, always, on_failure"
    | mode => do
      let backoff ← normalizeDuration lib policy.backoff 5000000000 "restart_policy.backoff"
      let stableAfter ←
        normalizeDuration lib policy.stableAfter 600000000000 "restart_policy.stable_after"
      if policy.maxAttempts < 0 then .error "restart_policy.max_attempts must be >= 0"
      return some ⟨mode, lib.durationString backoff, policy.maxAttempts,
        lib.durationString stableAfter⟩

end RestartPolicy

end Hypeman
