import Hypeman.Instances.Request
import Hypeman.Instances.Restarts

/-!
# The pending compression plan in the metadata

A standby compression job that completes removes its plan from the metadata of the instance
(`clearPendingStandbyCompression` in `lib/instances/snapshot_compression.go`): it loads the
metadata, clears the plan and saves all of it, without the lock of the instance. The operations that
change the metadata otherwise, such as `UpdateInstance` (`lib/instances/update.go`), load and save
it under that lock.

* `updateInstance`: what `UpdateInstance` makes of the metadata it has loaded.
* `metadataSystem`: completions and locked operations in any interleaving of their loads and saves.
* `metadata_reflects`: the fields besides the plan are those of the last successful operation, in
  runs where no operation saves between the load and the save of a completion.
* `completion_reverts_update`: a completion that has loaded the metadata before an update saves it
  after.
-/

namespace Hypeman.Instances.CompressionPlan

open Foundations

structure PendingStandbyCompression where
  policy : SnapshotCompressionConfig
  notBefore : Int
deriving DecidableEq, Repr

/-- The metadata: the pending plan, and all other fields together. -/
structure Metadata (ρ : Type*) where
  pendingStandbyCompression : Option PendingStandbyCompression
  fields : ρ
deriving DecidableEq, Repr

/-! ## Updates -/

/-- `healthcheck.Runtime`; the status is its text, times are in nanoseconds. -/
structure HealthCheckRuntime where
  status : String
  startedAt : Option Int
  consecutiveSuccesses : Int
  consecutiveFailures : Int
  lastCheckedAt : Option Int
  lastSuccessAt : Option Int
  lastFailureAt : Option Int
  lastError : String
deriving DecidableEq, Repr

/-- The fields that `UpdateInstance` reads or writes, for requests without env. -/
structure UpdatableFields where
  autoStandby : Option AutoStandby.Policy
  healthCheck : Option HealthCheck.Policy
  healthCheckRuntime : Option HealthCheckRuntime
  restartPolicy : Option RestartPolicy.Policy
  restartStatus : RestartPolicy.Status
  expiresAt : Option Int
  networkEnabled : Bool
  skipGuestAgent : Bool
deriving DecidableEq, Repr

/-- `UpdateInstanceRequest` without env. -/
structure UpdateInstanceRequest where
  autoStandby : Option AutoStandby.Policy
  healthCheck : Option HealthCheck.Policy
  restartPolicy : Option RestartPolicy.Policy
  restartPolicySet : Bool
  ttl : Option Int
  expiresAt : Option Int
deriving DecidableEq, Repr

def restartStatusAfterPolicyUpdate (status : RestartPolicy.Status) : RestartPolicy.Status :=
  if status.blockedReason = some .manualStop then { blockedReason := some .manualStop } else {}

def validateUpdateInstanceRequest (stored : UpdatableFields) (req : UpdateInstanceRequest) :
    Except String Unit :=
  if req.autoStandby = none ∧ req.healthCheck = none ∧ req.restartPolicySet = false ∧
      req.ttl = none ∧ req.expiresAt = none then
    .error (invalidRequest ("request must include env, auto_standby, health_check, " ++
      "restart_policy, ttl, and/or expires_at"))
  else if req.ttl ≠ none ∧ req.expiresAt ≠ none then
    .error (invalidRequest "ttl and expires_at are mutually exclusive")
  else if req.ttl.any (· < 0) then .error (invalidRequest "ttl cannot be negative")
  else validateHealthCheckCompatibility req.healthCheck stored.networkEnabled stored.skipGuestAgent

def validateExpirationUpdate (stored : UpdatableFields) (req : UpdateInstanceRequest)
    (now : Int) : Except String Unit :=
  if req.ttl = none ∧ req.expiresAt = none then .ok ()
  else if stored.expiresAt.any (· ≤ now) then
    .error "instance expired: expiration deadline has passed"
  else if req.expiresAt.any (· ≤ now) then .error "invalid expires_at: must be in the future"
  else .ok ()

def applyExpirationUpdateAtCommit (stored : UpdatableFields) (req : UpdateInstanceRequest)
    (now : Int) : Except String UpdatableFields := do
  validateExpirationUpdate stored req now
  match req.ttl, req.expiresAt with
  | none, none => return stored
  | some ttl, _ => return { stored with expiresAt := if ttl = 0 then none else some (now + ttl) }
  | none, some expiresAt => return { stored with expiresAt := some expiresAt }

/-- `updateInstance` for a request without env: the metadata to save, from the metadata that was
loaded; the clock is read when the request is checked and again at the commit. -/
def updateInstance (lib : StdLib) (now commit : Int) (req : UpdateInstanceRequest)
    (stored : Metadata UpdatableFields) : Except String (Metadata UpdatableFields) := do
  let autoStandby ← wrapInvalid (AutoStandby.NormalizePolicy lib req.autoStandby)
  let healthCheck ← wrapInvalid (HealthCheck.NormalizePolicy lib req.healthCheck)
  let restartPolicy ←
    if req.restartPolicySet then wrapInvalid (RestartPolicy.NormalizePolicy lib req.restartPolicy)
    else .ok req.restartPolicy
  let req := { req with autoStandby, healthCheck, restartPolicy }
  validateUpdateInstanceRequest stored.fields req
  validateExpirationUpdate stored.fields req now
  let next := stored.fields
  let next := if req.autoStandby.isSome then { next with autoStandby := req.autoStandby } else next
  let next :=
    if req.healthCheck.isSome then
      { next with healthCheck := req.healthCheck, healthCheckRuntime := none }
    else next
  let next :=
    if req.restartPolicySet then
      { next with
        restartPolicy := req.restartPolicy
        restartStatus := restartStatusAfterPolicyUpdate next.restartStatus }
    else next
  let next ← applyExpirationUpdateAtCommit next req commit
  return { stored with fields := next }

/-! ## Loads and saves -/

variable {ρ : Type*}

/-- The stored metadata of an instance, the copy of the operation that holds the lock, and the
copies of the completions between their load and their save. -/
structure MetadataFile (ρ : Type*) where
  stored : Metadata ρ
  holder : Option (Metadata ρ)
  completions : Table ℕ (Metadata ρ)

/-- The steps; completions are numbered. -/
inductive MetadataEvent (ρ : Type*)
  /-- An operation takes the lock and loads the metadata. -/
  | lock
  /-- It loads the metadata once more. -/
  | reload
  /-- It changes its copy and saves it, or returns an error. -/
  | save (change : Metadata ρ → Except String (Metadata ρ)) (fails : Bool)
  | unlock
  /-- `clearPendingStandbyCompression` loads the metadata. -/
  | load (completion : ℕ)
  /-- `clearPendingStandbyCompression` saves its copy without the plan. -/
  | clear (completion : ℕ) (fails : Bool)

def MetadataFile.step (x : MetadataFile ρ) : MetadataEvent ρ → Option (MetadataFile ρ)
  | .lock =>
    match x.holder with
    | none => some { x with holder := some x.stored }
    | some _ => none
  | .reload =>
    match x.holder with
    | some _ => some { x with holder := some x.stored }
    | none => none
  | .save change fails =>
    match x.holder with
    | some copy =>
      match change copy, fails with
      | .ok changed, false => some { x with stored := changed, holder := some changed }
      | _, _ => some { x with holder := none }
    | none => none
  | .unlock =>
    match x.holder with
    | some _ => some { x with holder := none }
    | none => none
  | .load completion =>
    if x.completions.lookup completion ≠ none then none
    else match x.stored.pendingStandbyCompression with
      | none => some x
      | some _ => some { x with completions := x.completions.insert completion x.stored }
  | .clear completion fails =>
    match x.completions.lookup completion with
    | some copy =>
      some { x with
        stored := if fails then x.stored else { copy with pendingStandbyCompression := none }
        completions := x.completions.erase completion }
    | none => none

/-- The fields that the last successful operation has saved. -/
def saved (latest : ρ) (x : MetadataFile ρ) (e : MetadataEvent ρ) (_ : MetadataFile ρ) : ρ :=
  match e with
  | .save change fails =>
    match x.holder.map change, fails with
    | some (.ok changed), false => changed.fields
    | _, _ => latest
  | _ => latest

/-- The metadata with its operations and completions, and the fields saved last. -/
def metadataSystem (initial : Metadata ρ) : System (MetadataFile ρ × ρ) (MetadataEvent ρ) :=
  System.monitored
    { init := { stored := initial, holder := none, completions := ∅ }, step := MetadataFile.step }
    initial.fields saved

/-- No operation saves between the load and the save of a completion. -/
def Separate (x : MetadataFile ρ × ρ) : MetadataEvent ρ → Prop
  | .save _ _ => x.1.completions.entries = []
  | .lock | .reload | .unlock | .load _ | .clear _ _ => True

instance (x : MetadataFile ρ × ρ) : DecidablePred (Separate x)
  | .save _ _ => decidable_of_iff _ List.isEmpty_iff
  | .lock | .reload | .unlock | .load _ | .clear _ _ => inferInstanceAs (Decidable True)

/-! ## The saved fields -/

/-- The stored fields, and those of every copy, are the ones saved last. -/
structure Reflects (x : MetadataFile ρ × ρ) : Prop where
  stored : x.1.stored.fields = x.2
  holder : ∀ copy ∈ x.1.holder, copy.fields = x.2
  completions : ∀ k copy, x.1.completions.lookup k = some copy → copy.fields = x.2

namespace Reflects

variable {x y : MetadataFile ρ × ρ} {initial : Metadata ρ}

/-- An operation loads what was saved last. -/
theorem loads (h : Reflects x) : Reflects ({ x.1 with holder := some x.1.stored }, x.2) := by
  refine ⟨h.stored, ?_, h.completions⟩
  rintro _ ⟨⟩
  exact h.stored

/-- An operation returns. -/
theorem returns (h : Reflects x) : Reflects ({ x.1 with holder := none }, x.2) :=
  ⟨h.stored, nofun, h.completions⟩

/-- What an operation saves is saved last; no completion has an older copy. -/
theorem saves (hnone : x.1.completions.entries = []) (changed : Metadata ρ) :
    Reflects ({ x.1 with stored := changed, holder := some changed }, changed.fields) := by
  refine ⟨rfl, ?_, fun k copy hk => ?_⟩
  · rintro _ ⟨⟩
    rfl
  · cases (Table.lookup_of_entries_eq_nil hnone k).symm.trans hk

theorem save {change : Metadata ρ → Except String (Metadata ρ)} {fails : Bool} (h : Reflects x)
    (hnone : x.1.completions.entries = []) (hstep : x.1.step (.save change fails) = some y.1)
    (hlatest : y.2 = saved x.2 x.1 (.save change fails) y.1) : Reflects y := by
  obtain ⟨x', latest'⟩ := y
  cases hholder : x.1.holder with
  | none =>
    simp only [MetadataFile.step, hholder] at hstep
    cases hstep
  | some copy =>
    simp only [MetadataFile.step, hholder] at hstep
    simp only [saved, hholder, Option.map_some] at hlatest
    cases hchange : change copy with
    | error err =>
      rw [hchange] at hstep hlatest
      cases hstep
      cases hlatest
      exact h.returns
    | ok changed =>
      rw [hchange] at hstep hlatest
      cases fails with
      | true =>
        cases hstep
        cases hlatest
        exact h.returns
      | false =>
        cases hstep
        cases hlatest
        exact saves hnone changed

/-- A completion changes nothing but the plan. -/
theorem clear {completion : ℕ} {fails : Bool} (h : Reflects x)
    (hstep : x.1.step (.clear completion fails) = some y.1) (hlatest : y.2 = x.2) :
    Reflects y := by
  obtain ⟨x', latest'⟩ := y
  cases hlatest
  simp only [MetadataFile.step] at hstep
  split at hstep
  next copy hcopy =>
    cases hstep
    refine ⟨?_, h.holder, Table.Sets.all_erase h.completions completion⟩
    cases fails with
    | true => exact h.stored
    | false => exact h.completions completion copy hcopy
  · cases hstep

/-- Every step that meets the condition keeps the invariant. -/
theorem step {e : MetadataEvent ρ} (h : Reflects x) (hok : Separate x e)
    (hstep : (metadataSystem initial).step x e = some y) : Reflects y := by
  obtain ⟨hstep, hlatest⟩ := System.monitored_step_iff.mp hstep
  obtain ⟨x', latest'⟩ := y
  cases e with
  | save change fails => exact h.save hok hstep hlatest
  | clear completion fails => exact h.clear hstep hlatest
  | lock | reload =>
    cases hlatest
    simp only [MetadataFile.step] at hstep
    split at hstep <;> cases hstep
    exact h.loads
  | unlock =>
    cases hlatest
    simp only [MetadataFile.step] at hstep
    split at hstep <;> cases hstep
    exact h.returns
  | load completion =>
    cases hlatest
    obtain ⟨-, hload⟩ := Option.ite_none_left_eq_some.mp hstep
    split at hload <;> cases hload
    · exact h
    · refine ⟨h.stored, h.holder, (Table.Sets.insert completion _ _).all h.completions ?_⟩
      rintro _ ⟨⟩
      exact h.stored

end Reflects

/-- **No lost update.** The fields of the metadata besides the pending plan are at every time those
that the last successful operation has saved, and every operation starts from them, provided that
no operation saves between the load and the save of a completion. -/
theorem metadata_reflects {initial : Metadata ρ} {x : MetadataFile ρ × ρ}
    (h : (metadataSystem initial).Reachable Separate x) :
    x.1.stored.fields = x.2 ∧ ∀ copy ∈ x.1.holder, copy.fields = x.2 := by
  have hinv : Reflects x := by
    refine System.Reachable.invariant (I := Reflects) ?_ ?_ h
    · exact ⟨rfl, nofun, nofun⟩
    · intro x e y hx hok hstep
      exact hx.step hok hstep
  exact ⟨hinv.stored, hinv.holder⟩

/-- An instance in standby whose snapshot is being compressed. -/
def standby : Metadata UpdatableFields where
  pendingStandbyCompression := some ⟨⟨true, "zstd", some 1⟩, 0⟩
  fields := {
    autoStandby := none
    healthCheck := none
    healthCheckRuntime := none
    restartPolicy := none
    restartStatus := {}
    expiresAt := none
    networkEnabled := true
    skipGuestAgent := false }

def restartUpdate : UpdateInstanceRequest where
  autoStandby := none
  healthCheck := none
  restartPolicy := some (restartAlways 3)
  restartPolicySet := true
  ttl := none
  expiresAt := none

/-- The update before the completion. -/
theorem metadata_reflects_update : ∃ x, (metadataSystem standby).Reachable Separate x ∧
    x.2.restartPolicy = some ⟨.always, "5s", 3, "10m0s"⟩ ∧ x.1.stored.fields = x.2 := by
  obtain ⟨x, hx, hpolicy⟩ := System.exists_reachable_of_replay (metadataSystem standby) Separate
    (fun x => x.2.restartPolicy = some ⟨.always, "5s", 3, "10m0s"⟩)
    [.lock, .save (updateInstance restartLib 1 2 restartUpdate) false, .unlock, .load 0,
      .clear 0 false] (by decide +kernel)
  exact ⟨x, hx, hpolicy, (metadata_reflects hx).1⟩

/-- The completion loads the metadata, `UpdateInstance` sets the restart policy and returns, and the
completion saves the metadata as it was: the restart policy is gone again. -/
theorem completion_reverts_update : ∃ x, (metadataSystem standby).Reachable System.Always x ∧
    x.1.holder = none ∧ x.1.completions.entries = [] ∧
    x.2.restartPolicy = some ⟨.always, "5s", 3, "10m0s"⟩ ∧
    x.1.stored.fields.restartPolicy = none := by
  exact System.exists_reachable_of_replay (metadataSystem standby) System.Always _
    [.load 0, .lock, .save (updateInstance restartLib 1 2 restartUpdate) false, .unlock,
      .clear 0 false] (by decide +kernel)

end Hypeman.Instances.CompressionPlan
