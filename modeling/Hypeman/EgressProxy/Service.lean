import Hypeman.Foundations.Table
import Hypeman.EgressProxy.Domains

/-!
# The control plane of the egress proxy

Model of `lib/egressproxy/service.go`: which header inject rules apply to a source address, and
the three calls that change them. The service keeps two maps, from source addresses to policies
and from instances to the address they registered last. The outcome of listening on the gateway
and of installing or removing the firewall rules is an input of each call (`none` for success,
otherwise the error).
-/

namespace Hypeman.EgressProxy

open Hypeman.Foundations Hypeman.Foundations.Strings

structure HeaderInjectRuleConfig where
  headerName : String
  headerValue : String
  allowedDomains : List String
deriving DecidableEq, Repr

/-- `InstanceConfig`, without the TAP device and the blocking mode, which only
`applyEgressEnforcement` reads. -/
structure InstanceConfig where
  instanceID : String
  sourceIP : String
  headerInjectRules : List HeaderInjectRuleConfig
deriving DecidableEq, Repr

/-- `headerInjectRule`, a compiled rule. -/
structure HeaderInjectRule where
  headerName : String
  headerValue : String
  domainMatchers : List DomainMatcher
deriving DecidableEq, Repr

structure SourcePolicy where
  headerInjectRules : List HeaderInjectRule
deriving DecidableEq, Repr

structure GuestConfig where
  enabled : Bool
  proxyURL : String
  caCertPEM : String
deriving DecidableEq, Repr

/-- The fields of `Service` that the control plane reads and writes. -/
structure Service where
  listenPort : Nat
  caPEM : String
  gatewayIP : String
  /-- `s.listener != nil`. -/
  listening : Bool
  policiesBySourceIP : Table String SourcePolicy
  sourceIPByInstance : Table String String

/-- `NewService`: `DefaultListenPort` stands in for a port that is not positive. -/
def NewService (listenPort : Int) (caPEM : String) : Service where
  listenPort := if listenPort ≤ 0 then 18080 else listenPort.toNat
  caPEM := caPEM
  gatewayIP := ""
  listening := false
  policiesBySourceIP := ∅
  sourceIPByInstance := ∅

variable (lib : GoLib)

/-- The compiled form of one rule, `none` for a rule that is skipped. -/
def compileHeaderInjectRule (cfg : HeaderInjectRuleConfig) :
    Except String (Option HeaderInjectRule) :=
  if trimSpace cfg.headerName = "" ∨ cfg.headerValue = "" then .ok none
  else (compileDomainMatchers lib cfg.allowedDomains).map fun matchers => some {
    headerName := lib.canonicalMIMEHeaderKey (trimSpace cfg.headerName)
    headerValue := cfg.headerValue
    domainMatchers := matchers }

/-- `compileHeaderInjectRules`: rules without a name or a value are dropped, a rule with a domain
pattern that is refused fails the call. -/
def compileHeaderInjectRules (cfgRules : List HeaderInjectRuleConfig) :
    Except String (List HeaderInjectRule) :=
  (cfgRules.mapM (compileHeaderInjectRule lib)).map fun rules => rules.filterMap id

namespace Service

def proxyURLLocked (s : Service) : String :=
  if s.gatewayIP = "" then "" else s!"http://{s.gatewayIP}:{s.listenPort}"

/-- `net.JoinHostPort`. -/
def joinHostPort (host : String) (port : Nat) : String :=
  if containsAny host ":%" then s!"[{host}]:{port}" else s!"{host}:{port}"

/-- `EnsureStarted`; the gateway is recorded before the listener is opened. -/
def EnsureStarted (s : Service) (gatewayIP : String) (listen : Option String) :
    Except String Unit × Service :=
  if s.listening then
    if gatewayIP ≠ "" ∧ gatewayIP ≠ s.gatewayIP then
      (.error ("egress proxy already initialized with different gateway: current=" ++
        s.gatewayIP ++ " requested=" ++ gatewayIP), s)
    else (.ok (), s)
  else
    let s := { s with gatewayIP := gatewayIP }
    match listen with
    | some err =>
      (.error s!"listen egress proxy on {joinHostPort gatewayIP s.listenPort}: {err}", s)
    | none => (.ok (), { s with listening := true })

/-- The part of `RegisterInstance` under the lock. The policy of the address recorded for the
instance goes before the new rules are compiled. -/
def registerLocked (s : Service) (cfg : InstanceConfig) : Except String GuestConfig × Service :=
  let s := match s.sourceIPByInstance.lookup cfg.instanceID with
    | some prevIP => { s with policiesBySourceIP := s.policiesBySourceIP.erase prevIP }
    | none => s
  match compileHeaderInjectRules lib cfg.headerInjectRules with
  | .error err => (.error err, s)
  | .ok injectRules =>
    let s := { s with
      sourceIPByInstance := s.sourceIPByInstance.insert cfg.instanceID cfg.sourceIP
      policiesBySourceIP := s.policiesBySourceIP.insert cfg.sourceIP ⟨injectRules⟩ }
    (.ok { enabled := true, proxyURL := s.proxyURLLocked, caCertPEM := s.caPEM }, s)

/-- `RegisterInstance`; `listen` and `enforce` are the outcomes of `net.Listen` and of
`applyEgressEnforcement`. -/
def RegisterInstance (s : Service) (gatewayIP : String) (cfg : InstanceConfig)
    (listen enforce : Option String) : Except String GuestConfig × Service :=
  match s.EnsureStarted gatewayIP listen with
  | (.error err, s) => (.error err, s)
  | (.ok _, s) =>
    match enforce with
    | some err => (.error err, s)
    | none => s.registerLocked lib cfg

def UpdateInstanceRules (s : Service) (instanceID : String)
    (rules : List HeaderInjectRuleConfig) : Except String Unit × Service :=
  match s.sourceIPByInstance.lookup instanceID with
  | none => (.error s!"instance {instanceID} is not registered with egress proxy", s)
  | some sourceIP =>
    match compileHeaderInjectRules lib rules with
    | .error err => (.error s!"compile header inject rules: {err}", s)
    | .ok compiled =>
      (.ok (), { s with policiesBySourceIP := s.policiesBySourceIP.insert sourceIP ⟨compiled⟩ })

/-- `UnregisterInstance`; `remove` is the outcome of `removeEgressEnforcement`, which runs after
the two maps have been changed. -/
def UnregisterInstance (s : Service) (instanceID : String) (remove : Option String) :
    Except String Unit × Service :=
  let s := match s.sourceIPByInstance.lookup instanceID with
    | some sourceIP => { s with
        sourceIPByInstance := s.sourceIPByInstance.erase instanceID
        policiesBySourceIP := s.policiesBySourceIP.erase sourceIP }
    | none => s
  match remove with
  | some err => (.error err, s)
  | none => (.ok (), s)

end Service

end Hypeman.EgressProxy
