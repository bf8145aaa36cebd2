import Hypeman.EgressProxy.Service
import Hypeman.Instances.Request
import Hypeman.Network.Allocation

/-!
# The configuration given to a guest

Model of `buildGuestConfig` (`lib/instances/configdisk.go`), which assembles the configuration
that is written to the config disk of an instance. With the egress proxy enabled, the variable
named after a credential gets a mock value instead of whatever the environment says, and the proxy
variables point to the proxy.

The real value of a credential is in the environment under the name of its *source*, and it is the
credential's name that is overwritten. So the source value stays in the configuration unless its
name is also the name of a credential, or of a proxy variable.

* `guestConfig_noninterference_iff`: an accepted request shows the guest nothing about the source
  values exactly when that is so for every credential.
* `source_value_reaches_guest`: two requests told apart by the configuration.
-/

namespace Hypeman.Instances

open Foundations Foundations.Strings

/-! ## Building the configuration -/

/-- The part of an `Image` the configuration is built from. -/
structure Image where
  entrypoint : List String
  cmd : List String
  workingDir : String
  env : Table String String

/-- The part of the stored metadata of an instance the configuration is built from. -/
structure GuestInstance where
  entrypoint : List String
  cmd : List String
  env : Table String String
  networkEnabled : Bool
  credentials : Table String CredentialPolicy
  volumes : List VolumeAttachment
  skipKernelHeaders : Bool
  skipGuestAgent : Bool
  enableRosetta : Bool

/-- The metadata `createInstance` stores for a validated request. -/
def storedInstance (req : CreateInstanceRequest) (enableRosetta : Bool) : GuestInstance where
  entrypoint := req.entrypoint
  cmd := req.cmd
  env := req.env
  networkEnabled := req.networkEnabled
  credentials := req.credentials
  volumes := req.volumes
  skipKernelHeaders := req.skipKernelHeaders
  skipGuestAgent := req.skipGuestAgent
  enableRosetta := enableRosetta

/-- `VolumeMount.Mode`. -/
inductive MountMode
  | ro
  | rw
  | overlay
deriving DecidableEq, Repr

/-- `VolumeMount`; devices are named by their letter. -/
structure VolumeMount where
  device : Char
  path : String
  mode : MountMode
  overlayDevice : Option Char
deriving DecidableEq, Repr

inductive InitMode
  | exec
  | systemd
deriving DecidableEq, Repr

/-- `vmconfig.Config`; the environment is the map from variables to values. -/
structure Config where
  entrypoint : List String
  cmd : List String
  workdir : String
  env : String → Option String
  networkEnabled : Bool
  guestIP : String
  guestCIDR : Nat
  guestGW : String
  guestDNS : String
  volumeMounts : List VolumeMount
  initMode : InitMode
  skipKernelHeaders : Bool
  skipGuestAgent : Bool
  enableRosetta : Bool
  egressProxy : Option EgressProxy.GuestConfig

/-- `mergeEnv`: the image's variables, overridden by the instance's. -/
def mergeEnv (imageEnv instEnv : Table String String) : String → Option String :=
  fun name => (instEnv.lookup name).or (imageEnv.lookup name)

def mockValueForCredential (name : String) : String := "mock-" ++ name

/-- The variables that are set to the address of the proxy. -/
def proxyVariables : List String := ["HTTP_PROXY", "HTTPS_PROXY", "http_proxy", "https_proxy"]

def setVariables (value : String → String) (names : List String)
    (env : String → Option String) : String → Option String :=
  names.foldl (fun env name => Function.update env name (some (value name))) env

variable (lib : StdLib)

def netmaskBits (part : String) : Nat :=
  if 0 < lib.atoi part then (List.range 64).countP (lib.atoi part).toNat.testBit else 0

def netmaskToCIDR (netmask : String) : Nat :=
  let parts := split netmask '.'
  if parts.length ≠ 4 then 24 else (parts.map (netmaskBits lib)).sum

/-- The letter of the volume device with index `i`; the first three devices are the root, the
overlay and the config disk. -/
def deviceLetter (i : Nat) : Char := Char.ofNat ('d'.toNat + i)

/-- The mounts of the volumes from device index `deviceIdx` on. -/
def volumeMounts : Nat → List VolumeAttachment → List VolumeMount
  | _, [] => []
  | deviceIdx, vol :: vols =>
    if vol.overlay then
      ⟨deviceLetter deviceIdx, vol.mountPath, .overlay, some (deviceLetter (deviceIdx + 1))⟩ ::
        volumeMounts (deviceIdx + 2) vols
    else
      ⟨deviceLetter deviceIdx, vol.mountPath, if vol.readonly then .ro else .rw, none⟩ ::
        volumeMounts (deviceIdx + 1) vols

def IsSystemdImage (entrypoint cmd : List String) : Bool :=
  match (entrypoint ++ cmd).head? with
  | none => false
  | some first =>
    ["/sbin/init", "/lib/systemd/systemd", "/usr/lib/systemd/systemd"].contains first

def guestEnv (inst : GuestInstance) (image : Image) (proxyCfg : Option EgressProxy.GuestConfig) :
    String → Option String :=
  let env := mergeEnv image.env inst.env
  match proxyCfg with
  | none => env
  | some proxy =>
    if proxy.enabled then
      setVariables (fun _ => proxy.proxyURL) proxyVariables
        (setVariables mockValueForCredential inst.credentials.keys env)
    else env

def buildGuestConfig (inst : GuestInstance) (image : Image)
    (netConfig : Option Network.NetworkConfig) (proxyCfg : Option EgressProxy.GuestConfig) :
    Config where
  entrypoint := if inst.entrypoint.isEmpty then image.entrypoint else inst.entrypoint
  cmd := if inst.cmd.isEmpty then image.cmd else inst.cmd
  workdir := if image.workingDir = "" then "/" else image.workingDir
  env := guestEnv inst image proxyCfg
  networkEnabled := inst.networkEnabled && netConfig.isSome
  guestIP := if inst.networkEnabled then (netConfig.map (·.ip)).getD "" else ""
  guestCIDR := if inst.networkEnabled then
    (netConfig.map fun c => netmaskToCIDR lib c.netmask).getD 0 else 0
  guestGW := if inst.networkEnabled then (netConfig.map (·.gateway)).getD "" else ""
  guestDNS := if inst.networkEnabled then (netConfig.map (·.dns)).getD "" else ""
  volumeMounts := volumeMounts 0 inst.volumes
  initMode := if IsSystemdImage image.entrypoint image.cmd then .systemd else .exec
  skipKernelHeaders := inst.skipKernelHeaders
  skipGuestAgent := inst.skipGuestAgent
  enableRosetta := inst.enableRosetta
  egressProxy := proxyCfg.bind fun proxy => if proxy.enabled then some proxy else none

theorem setVariables_apply (value : String → String) (name : String) :
    ∀ (names : List String) (env : String → Option String),
      setVariables value names env name = if name ∈ names then some (value name) else env name := by
  intro names
  induction names with
  | nil => intro env; rfl
  | cons n names ih =>
    intro env
    have hcons : setVariables value (n :: names) env =
        setVariables value names (Function.update env n (some (value n))) := rfl
    rw [hcons, ih]
    by_cases hmem : name ∈ names
    · rw [if_pos hmem, if_pos (List.mem_cons_of_mem n hmem)]
    · rw [if_neg hmem]
      by_cases hn : name = n
      · rw [hn, Function.update_self, if_pos List.mem_cons_self]
      · rw [Function.update_of_ne hn, if_neg (by simp [hn, hmem])]

/-- The environment under an enabled proxy: proxy variables, mock values, and the merged
environment for every other name. -/
theorem guestEnv_apply {inst : GuestInstance} {image : Image} {proxy : EgressProxy.GuestConfig}
    (h : proxy.enabled = true) (name : String) :
    guestEnv inst image (some proxy) name =
      if name ∈ proxyVariables then some proxy.proxyURL
      else if name ∈ inst.credentials.keys then some (mockValueForCredential name)
      else mergeEnv image.env inst.env name := by
  simp only [guestEnv, h, if_true, setVariables_apply]

/-! ## What the configuration shows of the source values -/

def sourceVariables (req : CreateInstanceRequest) : List String :=
  req.credentials.entries.map fun e => trimSpace e.2.sourceEnv

/-- Two requests that differ in nothing but the values of the source variables of `q`. -/
structure SameButSources (q q' : CreateInstanceRequest) : Prop where
  rest : q' = { q with env := q'.env }
  others : ∀ name ∉ sourceVariables q, q'.env.lookup name = q.env.lookup name
  present : ∀ name, (q'.env.lookup name).isSome = (q.env.lookup name).isSome

/-- No guest configuration built under an enabled proxy tells an accepted request from `q`, which is
accepted as `r`, when it differs from `q` only in the source values. -/
def NonInterfering (q r : CreateInstanceRequest) : Prop :=
  ∀ q' r', SameButSources q q' → validateCreateRequest lib q' = .ok r' →
    ∀ image netConfig proxy enableRosetta, proxy.enabled = true →
      buildGuestConfig lib (storedInstance r' enableRosetta) image netConfig (some proxy) =
        buildGuestConfig lib (storedInstance r enableRosetta) image netConfig (some proxy)

/-- The guest's value of this variable is a mock value or the address of the proxy: it is named
after a credential, or is a proxy variable. -/
def Masked (q : CreateInstanceRequest) (name : String) : Prop :=
  name ∈ q.credentials.keys.map trimSpace ∨ name ∈ proxyVariables

instance (q : CreateInstanceRequest) (name : String) : Decidable (Masked q name) :=
  inferInstanceAs (Decidable (_ ∨ _))

variable {lib} {q r : CreateInstanceRequest}

/-- The names of the stored credentials are the trimmed names of the request. -/
theorem mem_keys_iff (h : validateCreateRequest lib q = .ok r) (name : String) :
    name ∈ r.credentials.keys ↔ name ∈ q.credentials.keys.map trimSpace := by
  have hspec := normalizeCredentialPolicies_spec (validateCreateRequest_spec h).1 name
  rw [← AList.mem_keys, ← AList.lookup_isSome, Option.isSome_iff_exists, AList.keys, List.keys,
    List.map_map, List.mem_map]
  constructor
  · rintro ⟨p, hp⟩
    obtain ⟨e, he, hname, -⟩ := (hspec p.sourceEnv).mp ⟨p, hp, rfl⟩
    exact ⟨e, he, hname.symm⟩
  · rintro ⟨e, he, hname⟩
    obtain ⟨p, hp, -⟩ := (hspec _).mpr ⟨e, he, hname.symm, rfl⟩
    exact ⟨p, hp⟩

/-- The variables under an enabled proxy, by the request. -/
theorem guestEnv_accepted (h : validateCreateRequest lib q = .ok r) {image : Image}
    {proxy : EgressProxy.GuestConfig} {enableRosetta : Bool} (hp : proxy.enabled = true)
    (name : String) :
    guestEnv (storedInstance r enableRosetta) image (some proxy) name =
      if name ∈ proxyVariables then some proxy.proxyURL
      else if name ∈ q.credentials.keys.map trimSpace then some (mockValueForCredential name)
      else mergeEnv image.env q.env name := by
  have henv : r.env = q.env := by rw [(validateCreateRequest_spec h).2.2.1]
  rw [guestEnv_apply hp]
  simp only [storedInstance, mem_keys_iff h, henv]

/-- Masked sources are enough: the environments agree at every name. -/
theorem guestEnv_eq_of_masked {q' r' : CreateInstanceRequest}
    (h : validateCreateRequest lib q = .ok r) (h' : validateCreateRequest lib q' = .ok r')
    (hsame : SameButSources q q') (hmasked : ∀ name ∈ sourceVariables q, Masked q name)
    (image : Image) {proxy : EgressProxy.GuestConfig} (enableRosetta : Bool)
    (hp : proxy.enabled = true) :
    guestEnv (storedInstance r' enableRosetta) image (some proxy) =
      guestEnv (storedInstance r enableRosetta) image (some proxy) := by
  funext name
  have hcred : q'.credentials = q.credentials := by rw [hsame.rest]
  rw [guestEnv_accepted h hp, guestEnv_accepted h' hp, hcred]
  by_cases hproxy : name ∈ proxyVariables
  · rw [if_pos hproxy, if_pos hproxy]
  rw [if_neg hproxy, if_neg hproxy]
  by_cases hname : name ∈ q.credentials.keys.map trimSpace
  · rw [if_pos hname, if_pos hname]
  rw [if_neg hname, if_neg hname]
  have hsrc : name ∉ sourceVariables q := fun hsrc =>
    (hmasked name hsrc).elim hname hproxy
  rw [mergeEnv, mergeEnv, hsame.others name hsrc]

/-- What `createInstance` stores of an accepted request is the request with other credentials. -/
theorem storedInstance_accepted (h : validateCreateRequest lib q = .ok r) (enableRosetta : Bool) :
    storedInstance r enableRosetta =
      { storedInstance q enableRosetta with credentials := r.credentials } := by
  conv_lhs => rw [(validateCreateRequest_spec h).2.2.1]
  rfl

/-- The environment is all the configuration takes from variables and credentials. -/
theorem buildGuestConfig_congr {i j : GuestInstance} {image : Image}
    {netConfig : Option Network.NetworkConfig} {proxyCfg : Option EgressProxy.GuestConfig}
    (hrest : { i with env := j.env, credentials := j.credentials } = j)
    (henv : guestEnv i image proxyCfg = guestEnv j image proxyCfg) :
    buildGuestConfig lib i image netConfig proxyCfg =
      buildGuestConfig lib j image netConfig proxyCfg := by
  cases i
  cases j
  simp only [GuestInstance.mk.injEq, true_and] at hrest
  obtain ⟨rfl, rfl, rfl, rfl, rfl, rfl, rfl⟩ := hrest
  simp only [buildGuestConfig, henv]

def setSource (q : CreateInstanceRequest) (name value : String) : CreateInstanceRequest :=
  { q with env := q.env.insert name value }

theorem sameButSources_setSource {name value real : String} (hsrc : name ∈ sourceVariables q)
    (hreal : q.env.lookup name = some real) : SameButSources q (setSource q name value) where
  rest := rfl
  others := by
    intro n hn
    refine (Table.lookup_insert ..).trans (if_neg ?_)
    rintro rfl
    exact hn hsrc
  present := by
    intro n
    rw [setSource, Table.lookup_insert]
    split
    · next hn => rw [hn, hreal]; rfl
    · rfl

/-- Changing the value of a source variable to another one that is not blank keeps a request
accepted. -/
theorem validateCreateRequest_setSource (h : validateCreateRequest lib q = .ok r)
    (name : String) {value : String} (hvalue : trimSpace value ≠ "") :
    validateCreateRequest lib (setSource q name value) =
      .ok { r with env := q.env.insert name value } := by
  obtain ⟨-, hcred, -, henv⟩ := validateCreateRequest_spec h
  refine henv _ ?_
  unfold validateCredentials at hcred ⊢
  split at hcred
  · next hempty => rw [if_pos hempty]
  next hempty =>
  rw [if_neg hempty]
  split at hcred
  · cases hcred
  next hegress =>
  rw [if_neg hegress]
  rw [validateCredentialEnvBindings_eq_ok] at hcred ⊢
  intro e he
  obtain ⟨real, hreal, hblank⟩ := hcred e he
  rw [Table.lookup_insert]
  split
  · exact ⟨value, rfl, hvalue⟩
  · exact ⟨real, hreal, hblank⟩

/-- A source variable of an accepted request has a value. -/
theorem lookup_sourceVariable (h : validateCreateRequest lib q = .ok r) {name : String}
    (hsrc : name ∈ sourceVariables q) : ∃ real, q.env.lookup name = some real := by
  obtain ⟨hnorm, hcred, -, -⟩ := validateCreateRequest_spec h
  obtain ⟨e, he, rfl⟩ := List.mem_map.mp hsrc
  obtain ⟨p, hp, hpe⟩ := (normalizeCredentialPolicies_spec hnorm _ _).mpr ⟨e, he, rfl, rfl⟩
  have hmem := AList.mem_lookup_iff.mp hp
  unfold validateCredentials at hcred
  rw [if_neg (by
    rw [List.isEmpty_iff]
    exact List.ne_nil_of_mem hmem)] at hcred
  split at hcred
  · cases hcred
  obtain ⟨real, hreal, -⟩ := validateCredentialEnvBindings_eq_ok.mp hcred _ hmem
  exact ⟨real, hpe ▸ hreal⟩

def bareImage : Image := ⟨[], [], "", ∅⟩

/-- A source that is not masked shows in the configuration. -/
theorem not_nonInterfering_of_unmasked (h : validateCreateRequest lib q = .ok r) {name : String}
    (hsrc : name ∈ sourceVariables q) (hm : ¬ Masked q name) : ¬ NonInterfering lib q r := by
  intro hni
  obtain ⟨real, hreal⟩ := lookup_sourceVariable h hsrc
  -- another value that is not blank
  obtain ⟨value, hvalue, hne⟩ : ∃ value, trimSpace value ≠ "" ∧ value ≠ real := by
    by_cases hx : real = "x"
    · exact ⟨"y", by decide, by rw [hx]; decide⟩
    · exact ⟨"x", by decide, Ne.symm hx⟩
  have h' := validateCreateRequest_setSource h name hvalue
  have hcfg := hni _ _ (sameButSources_setSource hsrc hreal) h' bareImage none ⟨true, "", ""⟩ false
    rfl
  have henv := congrFun (congrArg Config.env hcfg) name
  obtain ⟨hname, hproxy⟩ := not_or.mp hm
  simp only [buildGuestConfig] at henv
  have hcred : (setSource q name value).credentials = q.credentials := rfl
  rw [guestEnv_accepted h rfl, guestEnv_accepted h' rfl, hcred, if_neg hproxy, if_neg hproxy,
    if_neg hname, if_neg hname, mergeEnv, mergeEnv, hreal, setSource, Table.lookup_insert,
    if_pos rfl] at henv
  exact hne (Option.some.inj henv)

/-- **Secrets and the guest.** The guest configurations of an accepted request say nothing about
the values of its source variables exactly when each of these variables is named after some
credential of the request or is a proxy variable. -/
theorem guestConfig_noninterference_iff (h : validateCreateRequest lib q = .ok r) :
    NonInterfering lib q r ↔ ∀ name ∈ sourceVariables q, Masked q name := by
  constructor
  · intro hni name hsrc
    by_contra hm
    exact not_nonInterfering_of_unmasked h hsrc hm hni
  · intro hmasked q' r' hsame h' image netConfig proxy enableRosetta hp
    refine buildGuestConfig_congr ?_ (guestEnv_eq_of_masked h h' hsame hmasked image _ hp)
    rw [storedInstance_accepted h, storedInstance_accepted h', hsame.rest]
    rfl

/-- A library that reads no durations, ports or addresses: the requests below hold none. -/
def plainStd : StdLib where
  splitHostPort _ := none
  parseIP _ := none
  toLower := id
  canonicalMIMEHeaderKey := id
  quote := id
  parseDuration _ := .error "invalid duration"
  durationString _ := ""
  parsePrefix := .ok
  cleanPath := id
  atoi _ := 0

/-- A request for one instance with the credential `name`, whose real value is in `source`. -/
def tokenRequest (name source value : String) : CreateInstanceRequest where
  name := "web"
  image := "docker.io/library/nginx:latest"
  size := 0
  hotplugSize := 0
  overlaySize := 0
  vcpus := 0
  env := (∅ : Table String String).insert source value
  tags := ∅
  networkEnabled := true
  networkEgress := some ⟨true, .unset⟩
  credentials := (∅ : Table String CredentialPolicy).insert name
    ⟨source, [⟨["api.example.com"], "Authorization", "Bearer $\x7bvalue\x7d"⟩]⟩
  volumes := []
  entrypoint := []
  cmd := []
  skipKernelHeaders := false
  skipGuestAgent := false
  snapshotPolicy := none
  autoStandby := none
  healthCheck := none
  restartPolicy := none
  ttl := none
  expiresAt := none
  allowSystemVolumeMounts := false
  systemVolumeMountPaths := []

theorem guestConfig_noninterference_sameName :
    ∃ r, validateCreateRequest plainStd (tokenRequest "API_TOKEN" "API_TOKEN" "s3cret") = .ok r ∧
      NonInterfering plainStd (tokenRequest "API_TOKEN" "API_TOKEN" "s3cret") r := by
  obtain ⟨r, hr⟩ : ∃ r,
      validateCreateRequest plainStd (tokenRequest "API_TOKEN" "API_TOKEN" "s3cret") = .ok r :=
    exists_of_isOk (by decide)
  exact ⟨r, hr, (guestConfig_noninterference_iff hr).mpr (by decide)⟩

/-- **The real value reaches the guest.** With the credential `API_TOKEN` read from `REAL_TOKEN`,
the guest configuration carries the value of `REAL_TOKEN`. -/
theorem source_value_reaches_guest :
    ¬ ∀ q r, validateCreateRequest plainStd q = .ok r → NonInterfering plainStd q r := by
  intro h
  obtain ⟨r, hr⟩ : ∃ r,
      validateCreateRequest plainStd (tokenRequest "API_TOKEN" "REAL_TOKEN" "s3cret") = .ok r :=
    exists_of_isOk (by decide)
  exact not_nonInterfering_of_unmasked hr (show "REAL_TOKEN" ∈ sourceVariables _ by decide)
    (by decide) (h _ r hr)

end Hypeman.Instances
