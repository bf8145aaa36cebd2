import Mathlib.Algebra.Ring.Nat
import Hypeman.Foundations.Results
import Hypeman.Instances.Policies

/-!
# Create requests

Model of `validateCreateRequest` (`lib/instances/create.go`) with the normalisation of credential
policies (`lib/instances/egress_proxy.go`) and the checks of volume attachments. A request is
accepted with its policies normalised, or refused with the text of the first error.

* `normalizeCredentialPolicies_spec`: the credentials of an accepted request are those given, with
  their names and source variables trimmed.
* `validateCreateRequest_spec`: the environment has no part in the decision beyond the values of
  the source variables, which must not be blank.
-/

namespace Hypeman.Instances

open Foundations Foundations.Strings

/-! ## Requests -/

structure CredentialInjectRule where
  hosts : List String
  header : String
  format : String
deriving DecidableEq, Repr

/-- `CredentialPolicy`; `sourceEnv` is `Source.Env`. -/
structure CredentialPolicy where
  sourceEnv : String
  inject : List CredentialInjectRule
deriving DecidableEq, Repr

/-- `EgressEnforcementMode`; `unset` is blank text, `other` any text that names no mode. -/
inductive EgressEnforcementMode
  | unset
  | all
  | httpHTTPSOnly
  | other (text : String)
deriving DecidableEq, Repr

structure NetworkEgressPolicy where
  enabled : Bool
  enforcementMode : EgressEnforcementMode
deriving DecidableEq, Repr

structure VolumeAttachment where
  volumeID : String
  mountPath : String
  readonly : Bool
  overlay : Bool
  overlaySize : Int
deriving DecidableEq, Repr

structure SnapshotCompressionConfig where
  enabled : Bool
  algorithm : String
  level : Option Int
deriving DecidableEq, Repr

structure SnapshotPolicy where
  compression : Option SnapshotCompressionConfig
  standbyCompressionDelay : Option Int
deriving DecidableEq, Repr

/-- The fields of `CreateInstanceRequest` that validation reads or that reach the guest. -/
structure CreateInstanceRequest where
  name : String
  image : String
  size : Int
  hotplugSize : Int
  overlaySize : Int
  vcpus : Int
  env : Table String String
  tags : Table String String
  networkEnabled : Bool
  networkEgress : Option NetworkEgressPolicy
  credentials : Table String CredentialPolicy
  volumes : List VolumeAttachment
  entrypoint : List String
  cmd : List String
  skipKernelHeaders : Bool
  skipGuestAgent : Bool
  snapshotPolicy : Option SnapshotPolicy
  autoStandby : Option AutoStandby.Policy
  healthCheck : Option HealthCheck.Policy
  restartPolicy : Option RestartPolicy.Policy
  ttl : Option Int
  expiresAt : Option Int
  allowSystemVolumeMounts : Bool
  systemVolumeMountPaths : List String

/-- An error that wraps `ErrInvalidRequest`. -/
def invalidRequest (text : String) : String := "invalid request: " ++ text

def validateInstanceName (name : String) : Except String Unit :=
  let alnum := fun c : Char => ('a' ≤ c && c ≤ 'z') || ('0' ≤ c && c ≤ '9')
  if name = "" then .error "name is required"
  else if 63 < name.utf8ByteSize then .error "name must be 63 characters or less"
  else if !(name.toList.all (fun c => alnum c || c == '-') &&
      name.toList.head?.all alnum && name.toList.getLast?.all alnum) then
    .error ("name must contain only lowercase letters, digits, and dashes; " ++
      "cannot start or end with a dash")
  else .ok ()

variable (lib : StdLib)

/-! ## Credentials -/

def normalizeEgressEnforcementMode : EgressEnforcementMode → Except String EgressEnforcementMode
  | .unset | .all => .ok .all
  | .httpHTTPSOnly => .ok .httpHTTPSOnly
  | .other text => .error (invalidRequest
      s!"invalid network.egress.enforcement.mode {lib.quote (trimSpace text)}")

/-- One pattern of `normalizeCredentialHosts`. -/
def normalizeCredentialHost (raw : String) : Except String String :=
  match EgressProxy.NormalizeAllowedDomainPattern lib.toGoLib raw with
  | .ok normalized => .ok normalized
  | .error err => .error s!"invalid host pattern {lib.quote raw}: {err}"

def normalizeCredentialHosts (patterns : List String) : Except String (List String) :=
  (patterns.mapM (normalizeCredentialHost lib)).map firstOccurrences

/-- The checks of one inject rule in `normalizeCredentialPolicies`; `path` names the rule. -/
def normalizeInjectRule (path : String) (raw : CredentialInjectRule) :
    Except String CredentialInjectRule :=
  let header := trimSpace raw.header
  let format := trimSpace raw.format
  if header = "" then .error (invalidRequest s!"{path}.as.header is required")
  else if format = "" then .error (invalidRequest s!"{path}.as.format is required")
  else if !contains format "$\x7bvalue\x7d" then
    .error (invalidRequest (path ++ ".as.format must include $\x7bvalue\x7d"))
  else match normalizeCredentialHosts lib raw.hosts with
    | .error err => .error (invalidRequest s!"{path}.hosts: {err}")
    | .ok hosts => .ok ⟨hosts, header, format⟩

/-- The inject rules of one credential, the first of which has index `idx`. -/
def normalizeInjectRules (name : String) :
    Nat → List CredentialInjectRule → Except String (List CredentialInjectRule)
  | _, [] => .ok []
  | idx, raw :: raws =>
    match normalizeInjectRule lib s!"credentials[{lib.quote name}].inject[{idx}]" raw with
    | .error err => .error err
    | .ok rule => (normalizeInjectRules name (idx + 1) raws).map (rule :: ·)

/-- The policy of one credential in `normalizeCredentialPolicies`. -/
def normalizeCredentialPolicy (name : String) (raw : CredentialPolicy) :
    Except String CredentialPolicy :=
  let sourceEnv := trimSpace raw.sourceEnv
  if sourceEnv = "" then
    .error (invalidRequest s!"credentials[{lib.quote name}].source.env is required")
  else if raw.inject.isEmpty then
    .error (invalidRequest s!"credentials[{lib.quote name}].inject must have at least one rule")
  else (normalizeInjectRules lib name 0 raw.inject).map fun rules => ⟨sourceEnv, rules⟩

/-- One round of the loop of `normalizeCredentialPolicies`. -/
def addCredential (out : Table String CredentialPolicy) (rawName : String)
    (raw : CredentialPolicy) : Except String (Table String CredentialPolicy) :=
  let name := trimSpace rawName
  if name = "" then .error (invalidRequest "credentials key must be non-empty")
  else if (out.lookup name).isSome then
    .error (invalidRequest s!"duplicate credentials key {lib.quote name} after normalization")
  else (normalizeCredentialPolicy lib name raw).map fun policy => out.insert name policy

def normalizeCredentialPolicies (credentials : Table String CredentialPolicy) :
    Except String (Table String CredentialPolicy) :=
  credentials.entries.foldlM (fun out e => addCredential lib out e.1 e.2) ∅

/-- The check of one credential in `validateCredentialEnvBindings`. -/
def validateBinding (env : Table String String) (name : String) (policy : CredentialPolicy) :
    Except String Unit :=
  match env.lookup policy.sourceEnv with
  | none => .error (invalidRequest (s!"credentials[{lib.quote name}].source.env " ++
      s!"{lib.quote policy.sourceEnv} must be present in env"))
  | some real =>
    if trimSpace real = "" then
      .error (invalidRequest (s!"env var {lib.quote policy.sourceEnv} must be non-empty when " ++
        s!"referenced by credentials[{lib.quote name}]"))
    else .ok ()

def validateCredentialEnvBindings (credentials : Table String CredentialPolicy)
    (env : Table String String) : Except String Unit :=
  credentials.entries.forM fun e => validateBinding lib env e.1 e.2

/-! ## Snapshot policies and volumes -/

/-- The level check of `normalizeCompressionConfig` for one algorithm. -/
def compressionLevel (algorithm : String) (fallback low high : Int) (level : Option Int) :
    Except String Int :=
  let level := level.getD fallback
  if level < low ∨ high < level then
    .error (invalidRequest
      s!"invalid {algorithm} level {level} (must be between {low} and {high})")
  else .ok level

def normalizeCompressionConfig (cfg : Option SnapshotCompressionConfig) :
    Except String SnapshotCompressionConfig :=
  match cfg with
  | none => .ok ⟨false, "", none⟩
  | some c =>
    if !c.enabled then .ok ⟨false, "", none⟩
    else if toLower c.algorithm = "" ∨ toLower c.algorithm = "zstd" then
      (compressionLevel "zstd" 1 1 19 c.level).map fun level => ⟨true, "zstd", some level⟩
    else if toLower c.algorithm = "lz4" then
      (compressionLevel "lz4" 0 0 9 c.level).map fun level => ⟨true, "lz4", some level⟩
    else .error (invalidRequest s!"unsupported compression algorithm {lib.quote c.algorithm}")

/-- The checks of the snapshot policy in `validateCreateRequest`. -/
def validateSnapshotPolicy (policy : Option SnapshotPolicy) : Except String Unit :=
  match policy with
  | none => .ok ()
  | some p => do
    let _ ← normalizeCompressionConfig lib p.compression
    match p.standbyCompressionDelay with
    | some delay =>
      if delay < 0 then
        .error (invalidRequest "standby compression delay cannot be negative")
    | none => pure ()

def systemDirectories : List String :=
  ["/", "/bin", "/boot", "/dev", "/etc", "/lib", "/lib64", "/proc", "/root", "/run", "/sbin",
   "/sys", "/tmp", "/usr", "/var"]

def isSystemDirectory (path : String) : Bool :=
  let cleanPath := lib.cleanPath path
  systemDirectories.any fun sysDir =>
    cleanPath == sysDir || (sysDir != "/" && hasPrefix cleanPath (sysDir ++ "/"))

def ReservedVolumeIDPrefix (id : String) : String :=
  if hasPrefix id "builder-disk-" then "builder-disk-" else ""

/-- The checks of one attachment; `seenPaths` are the mount paths of those before it. -/
def validateVolumeAttachment (allowSystemVolumes : Bool) (allowedSystemMountPaths : List String)
    (seenPaths : List String) (vol : VolumeAttachment) : Except String String :=
  if !hasPrefix vol.mountPath "/" then
    .error s!"volume {vol.volumeID}: mount path {lib.quote vol.mountPath} must be absolute"
  else
    let cleanPath := lib.cleanPath vol.mountPath
    if isSystemDirectory lib cleanPath &&
        !(allowSystemVolumes && allowedSystemMountPaths.contains cleanPath) then
      .error s!"volume {vol.volumeID}: cannot mount to system directory {lib.quote cleanPath}"
    else if !allowSystemVolumes && ReservedVolumeIDPrefix vol.volumeID != "" then
      .error (s!"volume {vol.volumeID}: volume IDs with the prefix " ++
        s!"{lib.quote (ReservedVolumeIDPrefix vol.volumeID)} are reserved for internal use")
    else if seenPaths.contains cleanPath then
      .error s!"duplicate mount path {lib.quote cleanPath}"
    else if vol.overlay && !vol.readonly then
      .error s!"volume {vol.volumeID}: overlay mode requires readonly=true"
    else if vol.overlay && vol.overlaySize ≤ 0 then
      .error s!"volume {vol.volumeID}: overlay_size is required when overlay=true"
    else .ok cleanPath

/-- The devices that the attachments need: an overlay volume needs two. -/
def totalDevices (attachments : List VolumeAttachment) : Nat :=
  (attachments.map fun vol => if vol.overlay then 2 else 1).sum

/-- `validateVolumeAttachmentsWithSystemPaths`. -/
def validateVolumeAttachments (attachments : List VolumeAttachment) (allowSystemVolumes : Bool)
    (allowedSystemMountPaths : List String) : Except String Unit :=
  if 23 < totalDevices attachments then
    .error ("cannot attach more than 23 volume devices per instance " ++
      "(overlay volumes count as 2)")
  else
    (attachments.foldlM (fun seenPaths vol =>
      (validateVolumeAttachment lib allowSystemVolumes allowedSystemMountPaths seenPaths vol).map
        (· :: seenPaths)) []).map fun _ => ()

def validateHealthCheckCompatibility (policy : Option HealthCheck.Policy)
    (networkEnabled skipGuestAgent : Bool) : Except String Unit :=
  match policy with
  | none => .ok ()
  | some p =>
    match p.type with
    | .http | .tcp =>
      if !networkEnabled then
        .error (invalidRequest s!"{p.type.text} health checks require network.enabled=true")
      else .ok ()
    | .exec =>
      if skipGuestAgent then
        .error (invalidRequest "exec health checks require skip_guest_agent=false")
      else .ok ()
    | _ => .ok ()

/-! ## The request as a whole -/

/-- The checks of `validateCreateRequest` before the egress policy. -/
def validateBasics (req : CreateInstanceRequest) : Except String Unit :=
  match validateInstanceName req.name with
  | .error err => .error err
  | .ok _ =>
    if req.image = "" then .error "image is required"
    else if req.size < 0 then .error "size cannot be negative"
    else if req.hotplugSize < 0 then .error "hotplug_size cannot be negative"
    else if req.overlaySize < 0 then .error "overlay_size cannot be negative"
    else if req.vcpus < 0 then .error "vcpus cannot be negative"
    else if req.ttl.any (· < 0) then .error (invalidRequest "ttl cannot be negative")
    else if req.ttl.isSome && req.expiresAt.isSome then
      .error (invalidRequest "ttl and expires_at are mutually exclusive")
    else .ok ()

def egressEnabled (policy : Option NetworkEgressPolicy) : Bool := policy.any (·.enabled)

/-- The egress policy of `validateCreateRequest`. -/
def validateEgress (networkEnabled : Bool) (policy : Option NetworkEgressPolicy) :
    Except String (Option NetworkEgressPolicy) :=
  match policy with
  | none => .ok none
  | some p =>
    if !p.enabled then .ok (some p)
    else if !networkEnabled then
      .error (invalidRequest "network.egress requires network.enabled=true")
    else (normalizeEgressEnforcementMode lib p.enforcementMode).map fun mode =>
      some { p with enforcementMode := mode }

/-- The checks of the normalised credentials in `validateCreateRequest`. -/
def validateCredentials (egress : Option NetworkEgressPolicy)
    (credentials : Table String CredentialPolicy) (env : Table String String) :
    Except String Unit :=
  if credentials.entries.isEmpty then .ok ()
  else if !egressEnabled egress then
    .error (invalidRequest "credentials require network.egress.enabled=true")
  else validateCredentialEnvBindings lib credentials env

/-- A validation error of another package. -/
def wrapInvalid {α : Type} (r : Except String α) : Except String α := r.mapError invalidRequest

/-- `validateCreateRequest`: the request with its policies normalised. -/
def validateCreateRequest (req : CreateInstanceRequest) : Except String CreateInstanceRequest := do
  validateBasics req
  let egress ← validateEgress lib req.networkEnabled req.networkEgress
  let credentials ← normalizeCredentialPolicies lib req.credentials
  validateCredentials lib egress credentials req.env
  wrapInvalid (Tags.Validate lib.quote req.tags)
  validateSnapshotPolicy lib req.snapshotPolicy
  let autoStandby ← wrapInvalid (AutoStandby.NormalizePolicy lib req.autoStandby)
  let healthCheck ← wrapInvalid (HealthCheck.NormalizePolicy lib req.healthCheck)
  validateHealthCheckCompatibility healthCheck req.networkEnabled req.skipGuestAgent
  let restartPolicy ← wrapInvalid (RestartPolicy.NormalizePolicy lib req.restartPolicy)
  validateVolumeAttachments lib req.volumes req.allowSystemVolumeMounts req.systemVolumeMountPaths
  return { req with
    networkEgress := egress
    credentials := credentials
    autoStandby := autoStandby
    healthCheck := healthCheck
    restartPolicy := restartPolicy }

variable {lib} {req r : CreateInstanceRequest}

theorem validateBinding_eq_ok {env : Table String String} {name : String}
    {policy : CredentialPolicy} : validateBinding lib env name policy = .ok () ↔
      ∃ real, env.lookup policy.sourceEnv = some real ∧ trimSpace real ≠ "" := by
  unfold validateBinding
  cases env.lookup policy.sourceEnv with
  | none => simp
  | some real => by_cases h : trimSpace real = "" <;> simp [h]

/-- The bindings of the credentials hold when every source variable has a value that is not
blank. -/
theorem validateCredentialEnvBindings_eq_ok {credentials : Table String CredentialPolicy}
    {env : Table String String} : validateCredentialEnvBindings lib credentials env = .ok () ↔
      ∀ e ∈ credentials.entries,
        ∃ real, env.lookup e.2.sourceEnv = some real ∧ trimSpace real ≠ "" := by
  unfold validateCredentialEnvBindings
  rw [forM_eq_ok]
  simp only [validateBinding_eq_ok]

theorem normalizeCredentialPolicy_sourceEnv {name : String} {raw policy : CredentialPolicy}
    (h : normalizeCredentialPolicy lib name raw = .ok policy) :
    policy.sourceEnv = trimSpace raw.sourceEnv := by
  unfold normalizeCredentialPolicy at h
  dsimp only at h
  split at h
  · cases h
  split at h
  · cases h
  obtain ⟨rules, -, rfl⟩ := map_eq_ok.mp h
  rfl

theorem addCredential_eq_ok {out out' : Table String CredentialPolicy} {rawName : String}
    {raw : CredentialPolicy} (h : addCredential lib out rawName raw = .ok out') :
    ∃ policy, policy.sourceEnv = trimSpace raw.sourceEnv ∧ out.lookup (trimSpace rawName) = none ∧
      out' = out.insert (trimSpace rawName) policy := by
  unfold addCredential at h
  dsimp only at h
  split at h
  · cases h
  split at h
  · cases h
  next hnew =>
  obtain ⟨policy, hp, rfl⟩ := map_eq_ok.mp h
  exact ⟨policy, normalizeCredentialPolicy_sourceEnv hp, by simpa using hnew, rfl⟩

/-- Names and source variables of the table the loop builds from the entries `es`. -/
theorem addCredentials_spec {es : List (Sigma fun _ : String => CredentialPolicy)} :
    ∀ {acc out : Table String CredentialPolicy},
      es.foldlM (fun out e => addCredential lib out e.1 e.2) acc = .ok out → ∀ name env,
        (∃ p, out.lookup name = some p ∧ p.sourceEnv = env) ↔
          (∃ p, acc.lookup name = some p ∧ p.sourceEnv = env) ∨
            ∃ e ∈ es, name = trimSpace e.1 ∧ env = trimSpace e.2.sourceEnv := by
  induction es with
  | nil =>
    intro acc out h name env
    cases h
    simp
  | cons e es ih =>
    intro acc out h name env
    rw [List.foldlM_cons, bind_eq_ok] at h
    obtain ⟨acc', hadd, hrest⟩ := h
    obtain ⟨policy, hsrc, hnew, rfl⟩ := addCredential_eq_ok hadd
    rw [ih hrest name env, List.exists_mem_cons_iff, ← or_assoc]
    refine or_congr_left ?_
    rw [Table.lookup_insert]
    by_cases hname : name = trimSpace e.1
    · rw [if_pos hname, hname, hnew]
      simp [hsrc, eq_comm]
    · rw [if_neg hname]
      simp [hname]

/-- The normalised credentials are the given ones, with names and source variables trimmed. -/
theorem normalizeCredentialPolicies_spec {credentials out : Table String CredentialPolicy}
    (h : normalizeCredentialPolicies lib credentials = .ok out) (name env : String) :
    (∃ p, out.lookup name = some p ∧ p.sourceEnv = env) ↔
      ∃ e ∈ credentials.entries, name = trimSpace e.1 ∧ env = trimSpace e.2.sourceEnv := by
  rw [addCredentials_spec h name env]
  simp

/-- **An accepted request.** Its credentials are the normalised ones, its other fields that reach
the guest are those given, and it stays accepted under every environment that passes the check of
the credentials. -/
theorem validateCreateRequest_spec (h : validateCreateRequest lib req = .ok r) :
    normalizeCredentialPolicies lib req.credentials = .ok r.credentials ∧
      validateCredentials lib r.networkEgress r.credentials req.env = .ok () ∧
      r = { req with
        networkEgress := r.networkEgress
        credentials := r.credentials
        autoStandby := r.autoStandby
        healthCheck := r.healthCheck
        restartPolicy := r.restartPolicy } ∧
      ∀ env, validateCredentials lib r.networkEgress r.credentials env = .ok () →
        validateCreateRequest lib { req with env := env } = .ok { r with env := env } := by
  unfold validateCreateRequest at h
  simp only [bind_eq_ok] at h
  obtain ⟨_, hbasics, egress, hegress, credentials, hcred, _, hbind, _, htags, _, hsnap, auto,
    hauto, health, hhealth, _, hcompat, restart, hrestart, _, hvol, hr⟩ := h
  cases hr
  refine ⟨hcred, hbind, rfl, fun env henv => ?_⟩
  unfold validateCreateRequest
  simp only [bind_eq_ok]
  exact ⟨_, hbasics, egress, hegress, credentials, hcred, _, henv, _, htags, _, hsnap, auto, hauto,
    health, hhealth, _, hcompat, restart, hrestart, _, hvol, rfl⟩

end Hypeman.Instances
