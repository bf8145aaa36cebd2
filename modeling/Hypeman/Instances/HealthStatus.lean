import Hypeman.Instances.HealthChecks

/-!
# The status of a health check

What the results of a sequence of probes make of the runtime of a health check
(`ApplyProbeResult` of `lib/healthcheck/status.go`). The counters are the lengths of the runs at the
end of the sequence. A status is decided by a success with which a run reaches the success
threshold and by a failure after the start period in a run as long as the failure threshold; between
two such probes it does not change.

* `decision`, `lastDecision`: the status in terms of the results alone.
* `runtimeAfter_spec`: the counters and the status after any sequence of probes.

Sequences have the latest probe first.
-/

namespace Hypeman.HealthCheck

/-- A probe of an instance at `now`, with its result. -/
structure Probe where
  target : Target
  now : Int
  result : ProbeResult
deriving DecidableEq, Repr

section

variable (lib : StdLib) (policy : Policy)

def runtimeAfter : List Probe → Option Runtime
  | [] => none
  | p :: ps => some (ApplyProbeResult lib policy p.target (runtimeAfter ps) p.now p.result)

/-- The number of probes since the last one with the other result. -/
def runLength (success : Bool) (ps : List Probe) : Int :=
  (ps.takeWhile fun p => p.result.success == success).length

/-- The start of the instance, as the first probe sees it. -/
def startOf (p : Probe) (ps : List Probe) : Int :=
  let first := ps.getLastD p
  first.target.startedAt.getD first.now

def startPeriod : Int :=
  match DurationConfig lib policy with
  | .ok (_, _, startPeriod) => startPeriod
  | .error _ => 30000000000

/-- The length of a run of successes that makes an instance healthy. -/
def successThreshold : Int := if policy.successThreshold = 0 then 1 else policy.successThreshold

/-- The length of a run of failures that makes an instance unhealthy. -/
def failureThreshold : Int := if policy.failureThreshold = 0 then 3 else policy.failureThreshold

/-- The status that the probe `p` after `ps` decides. -/
def decision (p : Probe) (ps : List Probe) : Option Status :=
  if p.result.success then
    -- the run reaches the threshold with this probe
    if successThreshold policy ≤ runLength true (p :: ps) ∧
        (runLength true ps = 0 ∨ runLength true ps < successThreshold policy) then
      some .healthy
    else none
  else if ¬ p.now - startOf p ps < startPeriod lib policy ∧
      failureThreshold policy ≤ runLength false (p :: ps) then
    some .unhealthy
  else none

def lastDecision : List Probe → Option Status
  | [] => none
  | p :: ps => (decision lib policy p ps).or (lastDecision ps)

end

variable {lib : StdLib} {policy : Policy} {p : Probe} {ps : List Probe}

theorem runLength_cons_same {success : Bool} (h : p.result.success = success) :
    runLength success (p :: ps) = runLength success ps + 1 := by
  simp [runLength, h]

theorem runLength_cons_other {success : Bool} (h : p.result.success ≠ success) :
    runLength success (p :: ps) = 0 := by
  simp [runLength, h]

theorem runLength_nonneg (success : Bool) (ps : List Probe) : 0 ≤ runLength success ps :=
  Int.natCast_nonneg _

theorem startOf_cons (q : Probe) : startOf p (q :: ps) = startOf q ps := by
  cases ps <;> rfl

/-- While a run of successes lasts that has reached the threshold, no other status is decided. -/
theorem lastDecision_of_run (hrun : 0 < runLength true ps)
    (hlong : successThreshold policy ≤ runLength true ps) :
    lastDecision lib policy ps = some .healthy := by
  induction ps with
  | nil => exact absurd hrun (by simp [runLength])
  | cons p ps ih =>
    by_cases hsuccess : p.result.success = true
    · by_cases hfirst : runLength true ps = 0 ∨ runLength true ps < successThreshold policy
      · rw [lastDecision, decision, if_pos hsuccess, if_pos ⟨hlong, hfirst⟩, Option.some_or]
      · have hbefore : lastDecision lib policy ps = some .healthy := by
          have := runLength_nonneg true ps
          exact ih (by omega) (by omega)
        rw [lastDecision, decision, if_pos hsuccess, if_neg fun h => hfirst h.2, Option.none_or,
          hbefore]
    · rw [runLength_cons_other hsuccess] at hrun
      exact absurd hrun (lt_irrefl 0)

/-- What the runtime says about the probes. -/
structure Runtime.Describes (lib : StdLib) (policy : Policy) (runtime : Runtime) (p : Probe)
    (ps : List Probe) : Prop where
  startedAt : runtime.startedAt = some (startOf p ps)
  successes : runtime.consecutiveSuccesses = runLength true (p :: ps)
  failures : runtime.consecutiveFailures = runLength false (p :: ps)
  status : runtime.status = (lastDecision lib policy (p :: ps)).getD .starting

theorem lastDecision_ne_unset : (lastDecision lib policy ps).getD .starting ≠ .unset := by
  induction ps with
  | nil => exact Status.noConfusion
  | cons p ps ih =>
    rw [lastDecision]
    unfold decision
    split_ifs
    · exact Status.noConfusion
    · exact ih
    · exact Status.noConfusion
    · exact ih

/-- One probe more, where the counters, the start and the status are known before it. -/
theorem ApplyProbeResult_describes {previous : Option Runtime} {runtime : Runtime}
    (hprevious : previous.getD ⟨.unset, none, 0, 0, none, none, none, ""⟩ = runtime)
    (hsuccesses : runtime.consecutiveSuccesses = runLength true ps)
    (hfailures : runtime.consecutiveFailures = runLength false ps)
    (hstart : runtime.startedAt.getD (p.target.startedAt.getD p.now) = startOf p ps)
    (hstatus : (if runtime.status = .unset then .starting else runtime.status) =
      (lastDecision lib policy ps).getD .starting) :
    (ApplyProbeResult lib policy p.target previous p.now p.result).Describes lib policy p ps := by
  unfold ApplyProbeResult
  simp only [hprevious, hstart, hstatus, hsuccesses, hfailures]
  by_cases hsuccess : p.result.success = true
  · have hrun : runLength true (p :: ps) = runLength true ps + 1 := runLength_cons_same hsuccess
    rw [if_pos hsuccess]
    refine ⟨rfl, hrun.symm, (runLength_cons_other (by simp [hsuccess])).symm, ?_⟩
    change (if successThreshold policy ≤ runLength true ps + 1 then _ else _) = _
    rw [← hrun]
    by_cases hlong : successThreshold policy ≤ runLength true (p :: ps)
    · have hnonneg := runLength_nonneg true ps
      rw [if_pos hlong, lastDecision_of_run (by omega) hlong, Option.getD_some]
    · rw [if_neg hlong, lastDecision, decision, if_pos hsuccess, if_neg fun h => hlong h.1,
        Option.none_or]
  · have hrun : runLength false (p :: ps) = runLength false ps + 1 :=
      runLength_cons_same (by simpa using hsuccess)
    rw [if_neg hsuccess]
    refine ⟨rfl, (runLength_cons_other hsuccess).symm, hrun.symm, ?_⟩
    change (if ¬ p.now - startOf p ps < startPeriod lib policy ∧
      failureThreshold policy ≤ runLength false ps + 1 then _ else _) = _
    rw [← hrun, lastDecision, decision, if_neg hsuccess]
    split_ifs
    · rfl
    · rw [Option.none_or]

theorem runtimeAfter_describes (p : Probe) (ps : List Probe) :
    ∃ runtime, runtimeAfter lib policy (p :: ps) = some runtime ∧
      runtime.Describes lib policy p ps := by
  induction ps generalizing p with
  | nil => exact ⟨_, rfl, ApplyProbeResult_describes rfl rfl rfl rfl rfl⟩
  | cons q ps ih =>
    obtain ⟨runtime, hbefore, hd⟩ := ih q
    refine ⟨_, rfl, ApplyProbeResult_describes ?_ hd.successes hd.failures ?_ ?_⟩
    · rw [hbefore, Option.getD_some]
    · rw [hd.startedAt, Option.getD_some, startOf_cons]
    · rw [hd.status, if_neg lastDecision_ne_unset]

/-- After any sequence of probes the counters are the lengths of the runs at its end, and the
status is the last one that was decided. -/
theorem runtimeAfter_spec (lib : StdLib) (policy : Policy) (p : Probe) (ps : List Probe) :
    ∃ runtime, runtimeAfter lib policy (p :: ps) = some runtime ∧
      runtime.consecutiveFailures = runLength false (p :: ps) ∧
      runtime.consecutiveSuccesses = runLength true (p :: ps) ∧
      runtime.status = (lastDecision lib policy (p :: ps)).getD .starting := by
  obtain ⟨runtime, hafter, hd⟩ := runtimeAfter_describes p ps
  exact ⟨runtime, hafter, hd.failures, hd.successes, hd.status⟩

end Hypeman.HealthCheck
