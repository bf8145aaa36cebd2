import Mathlib.Data.Finset.Image
import Hypeman.Foundations.Results
import Hypeman.Instances.Policies
import Hypeman.Instances.State

/-!
# Inbound connections of an instance

The connections that keep an instance awake (`lib/autostandby/types.go`, `classifier.go`,
`policy.go` and the classification functions of `controller.go`): a policy is compiled to an idle
timeout and two filters, and a connection of the connection tracking table counts when it goes to
the address of the instance in an active TCP state and passes the filters.
-/

namespace Hypeman.AutoStandby

open Foundations
open Instances (State)

/-- The functions of Go's `net/netip` that classification calls, over the valid addresses `A`. A
prefix is given by its canonical text. -/
structure NetLib (A : Type) extends StdLib where
  /-- `netip.ParseAddr`. -/
  parseAddr : String → Except String A
  /-- `netip.Prefix.Contains`. -/
  prefixContains : String → A → Bool

/-- `Runtime`. Times are in nanoseconds. -/
structure Runtime where
  idleSince : Option Int
  lastInboundActivityAt : Option Int
deriving DecidableEq, Repr

structure Instance where
  id : String
  name : String
  state : State
  networkEnabled : Bool
  ip : String
  hasVGPU : Bool
  autoStandby : Option Policy
  runtime : Option Runtime
deriving DecidableEq, Repr

def eligible (inst : Instance) : Bool :=
  if inst.state ≠ .running then false
  else if !inst.networkEnabled || inst.ip = "" || inst.hasVGPU then false
  else inst.autoStandby.any (·.enabled)

/-- `TCPState`; `other` stands for the numbers without a name. -/
inductive TCPState
  | none
  | synSent
  | synRecv
  | established
  | finWait
  | closeWait
  | lastAck
  | timeWait
  | close
  | listen
  | ignore
  | retrans
  | other (number : Nat)
deriving DecidableEq, Repr

def TCPState.Active : TCPState → Bool
  | .synSent | .synRecv | .established | .finWait | .closeWait | .lastAck => true
  | _ => false

/-- `ConnectionKey`. An invalid address is `none`. -/
structure ConnectionKey (A : Type) where
  originalSourceIP : Option A
  originalSourcePort : Fin 65536
  originalDestinationIP : Option A
  originalDestinationPort : Fin 65536
deriving DecidableEq, Repr

structure Connection (A : Type) extends ConnectionKey A where
  tcpState : TCPState
deriving DecidableEq, Repr

def connectionKey {A : Type} (conn : Connection A) : ConnectionKey A := conn.toConnectionKey

structure CompiledPolicy where
  idleTimeout : Int
  ignoreSourceCIDRs : List String
  ignorePorts : List (Fin 65536)
deriving DecidableEq, Repr

variable {A : Type} [DecidableEq A] (lib : NetLib A)

def compilePolicy (policy : Option Policy) : Except String (Option CompiledPolicy) := do
  match ← NormalizePolicy lib.toStdLib policy with
  | none => return none
  | some normalized =>
    if !normalized.enabled then return none
    else match lib.parseDuration normalized.idleTimeout with
      | .error err => .error s!"parse normalized auto-standby idle timeout: {err}"
      | .ok idleTimeout => do
        let prefixes ← normalized.ignoreSourceCIDRs.mapM fun raw =>
          match lib.parsePrefix raw with
          | .ok p => .ok p
          | .error err => .error
              s!"parse normalized auto-standby source CIDR {lib.quote raw}: {err}"
        return some ⟨idleTimeout, prefixes, normalized.ignoreDestinationPorts⟩

/-- The test of `matchesInboundConnection` and `matchesInboundConnectionForEvent` on the addresses
and ports of a connection. -/
def passesFilters (instanceIP : A) (policy : CompiledPolicy) (conn : Connection A) : Bool :=
  match conn.originalDestinationIP, conn.originalSourceIP with
  | some destination, some source =>
    destination = instanceIP && !policy.ignorePorts.contains conn.originalDestinationPort &&
      policy.ignoreSourceCIDRs.all fun p => !lib.prefixContains p source
  | _, _ => false

def matchesInboundConnection (instanceIP : A) (policy : Option CompiledPolicy)
    (conn : Connection A) : Bool :=
  match policy with
  | none => false
  | some p => conn.tcpState.Active && passesFilters lib instanceIP p conn

/-- `matchesInboundConnectionForEvent`: the TCP state is left to the caller. -/
def matchesInboundConnectionForEvent (inst : Instance) (policy : CompiledPolicy)
    (conn : Connection A) : Bool :=
  match lib.parseAddr inst.ip with
  | .error _ => false
  | .ok instanceIP => passesFilters lib instanceIP policy conn

def matchingConnections (inst : Instance) (compiled : CompiledPolicy)
    (conns : List (Connection A)) : Except String (Finset (ConnectionKey A)) :=
  match lib.parseAddr inst.ip with
  | .error err => .error s!"parse instance IP {lib.quote inst.ip}: {err}"
  | .ok instanceIP =>
    .ok ((conns.filter (matchesInboundConnection lib instanceIP (some compiled))).map
      connectionKey).toFinset

end Hypeman.AutoStandby
