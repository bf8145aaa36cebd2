import Hypeman.GuestMemory.Planner

/-!
# The ballooning controller

Model of `reconcile` in `lib/guestmemory/controller.go`: from a sample of the host's memory and the
balloon targets of the guests to the targets that are set. A planned target passes the minimal
adjustment, the cooldown and the step limit before it is clamped to the guest's floor; a guest whose
target is below its floor is moved there whatever the limit and the cooldown say.

Left out are logging, metrics and the response of the manual call.
-/

namespace Hypeman.GuestMemory

open Foundations

/-- `ActiveBallooningConfig` after `Normalize`. -/
structure Config where
  highWatermark : Int64
  lowWatermark : Int64
  floorPercent : Int64
  floorMinBytes : Int64
  minAdjustmentBytes : Int64
  perVMMaxStepBytes : Int64
  perVMCooldown : Int
  floorMin_pos : 0 < floorMinBytes.toInt
  step_pos : 0 < perVMMaxStepBytes.toInt

inductive HostPressureState
  | healthy
  | pressure
deriving DecidableEq, Repr

structure HostPressureSample where
  totalBytes : Int64
  availableBytes : Int64
  availablePercent : ℚ
  stressed : Bool

structure ReconcileRequest where
  force : Bool
  dryRun : Bool
  requestedReclaim : Int64
  holdFor : Int

/-- `syncState`: the hold is the bytes to reclaim and its end. -/
structure SyncState where
  pressureState : HostPressureState
  manualHold : Option (Int64 × Int)
  lastApplied : Table String Int

/-- A listed guest: the balloon target that was read, if balloon control is there and the read
succeeds, and whether setting another succeeds. -/
structure Listed where
  vm : BalloonVM
  target : Option Int64
  sets : Bool
  assigned_nonneg : 0 ≤ vm.assigned.toInt

def protectedFloorBytes (cfg : Config) (assigned : Int64) : Int64 :=
  maxInt64 cfg.floorMinBytes (assigned * cfg.floorPercent / 100)

def nextPressureState (current : HostPressureState) (cfg : Config) (sample : HostPressureSample) :
    HostPressureState :=
  match current with
  | .pressure =>
    if (cfg.lowWatermark.toInt : ℚ) ≤ sample.availablePercent ∧ sample.stressed = false then
      .healthy
    else .pressure
  | .healthy =>
    if sample.availablePercent < cfg.highWatermark.toInt ∨ sample.stressed then .pressure
    else .healthy

/-- How far the available memory is below the low watermark. -/
def needed (cfg : Config) (sample : HostPressureSample) : Int64 :=
  sample.totalBytes * cfg.lowWatermark / 100 - sample.availableBytes

def automaticTargetBytes (state : HostPressureState) (cfg : Config) (sample : HostPressureSample)
    (currentTotalReclaim : Int64) : Int64 :=
  if state ≠ .pressure ∨ sample.totalBytes ≤ 0 then 0
  else if 0 < needed cfg sample then needed cfg sample
  else if sample.stressed then currentTotalReclaim
  else 0

def Listed.candidate (cfg : Config) (l : Listed) : Option CandidateState :=
  l.target.map fun target =>
    let floor := minInt64 (protectedFloorBytes cfg l.vm.assigned) l.vm.assigned
    ⟨l.vm, clampInt64 target 0 l.vm.assigned, floor, maxInt64 0 (l.vm.assigned - floor)⟩

def currentTotalReclaim (candidates : List CandidateState) : Int64 :=
  candidates.foldl (fun sum c => sum + maxInt64 0 (c.vm.assigned - c.current)) 0

/-- The hold after it may have expired, and after a manual call has set or cleared it. -/
def nextHold (hold : Option (Int64 × Int)) (req : ReconcileRequest) (now : Int) :
    Option (Int64 × Int) :=
  if req.force ∧ req.dryRun = false then
    if req.holdFor ≤ 0 then none else some (req.requestedReclaim, now + req.holdFor)
  else hold.filter fun h => now ≤ h.2

def manualTarget (hold : Option (Int64 × Int)) (req : ReconcileRequest) : Int64 :=
  if req.dryRun ∨ req.force ∧ 0 < req.requestedReclaim then req.requestedReclaim
  else (hold.map (·.1)).getD 0

/-- What all guests together are to give. -/
def totalTarget (cfg : Config) (s : SyncState) (req : ReconcileRequest)
    (sample : HostPressureSample) (candidates : List CandidateState) : Int64 :=
  maxInt64
    (automaticTargetBytes s.pressureState cfg sample (currentTotalReclaim candidates))
    (manualTarget s.manualHold req)

def absInt64 (v : Int64) : Int64 := if v < 0 then -v else v

/-- The change of a target, in steps. -/
def limitStep (cfg : Config) (current target : Int64) : Int64 :=
  let delta := target - current
  if target = current then target
  else if 0 < delta then current + minInt64 delta cfg.perVMMaxStepBytes
  else current - minInt64 (-delta) cfg.perVMMaxStepBytes

/-- The change is applied less than the cooldown ago. -/
def Cooling (cfg : Config) (now : Int) (last : Option Int) : Prop :=
  ∃ at' ∈ last, now - at' < cfg.perVMCooldown

instance (cfg : Config) (now : Int) (last : Option Int) : Decidable (Cooling cfg now last) :=
  inferInstanceAs (Decidable (∃ at' ∈ last, _))

def appliedTarget (cfg : Config) (force : Bool) (now : Int) (last : Option Int)
    (planned : Int64) (c : CandidateState) : Int64 :=
  let target := if absInt64 (planned - c.current) < cfg.minAdjustmentBytes then c.current
    else planned
  let target := if force = false ∧ Cooling cfg now last then c.current else target
  clampInt64 (limitStep cfg c.current target) c.floor c.vm.assigned

/-- A call that sets a balloon target, with the plan and the time of the guest's last change. -/
structure SetCall where
  candidate : CandidateState
  planned : Int64
  last : Option Int
  target : Int64
deriving DecidableEq

/-- One round of the loop that applies the targets. -/
def applyTarget (cfg : Config) (req : ReconcileRequest) (now : Int)
    (plannedTargets : Table String Int64) (s : Table String Int × List SetCall)
    (e : CandidateState × Bool) : Table String Int × List SetCall :=
  let c := e.1
  let planned := (plannedTargets.lookup c.vm.id).getD c.vm.assigned
  let last := s.1.lookup c.vm.id
  let target := appliedTarget cfg req.force now last planned c
  if req.dryRun = false ∧ target ≠ c.current then
    (if e.2 then s.1.insert c.vm.id now else s.1, s.2 ++ [⟨c, planned, last, target⟩])
  else s

/-- `reconcile`, without a sample or a list where reading them fails: the state after it and the
targets that it set. -/
def reconcile (cfg : Config) (s : SyncState) (req : ReconcileRequest) (now : Int)
    (sample : Option HostPressureSample) (vms : Option (List Listed)) : SyncState × List SetCall :=
  match sample with
  | none => (s, [])
  | some sample =>
    let s := { s with manualHold := nextHold s.manualHold req now }
    match vms with
    | none => (s, [])
    | some vms =>
      let rows := vms.filterMap fun l => (l.candidate cfg).map (·, l.sets)
      let candidates := rows.map (·.1)
      let s := { s with pressureState := nextPressureState s.pressureState cfg sample }
      let plannedTargets := planGuestTargets candidates (totalTarget cfg s req sample candidates)
      let applied := rows.foldl (applyTarget cfg req now plannedTargets) (s.lastApplied, [])
      ({ s with lastApplied := applied.1.keys.foldl (fun t id =>
          if id ∈ ids candidates then t else t.erase id) applied.1 }, applied.2)

/-! ## The targets that are set -/

theorem toInt_maxInt64 (a b : Int64) : (maxInt64 a b).toInt = max a.toInt b.toInt := by
  unfold maxInt64
  split
  next h => rw [max_eq_left (Int64.lt_iff_toInt_lt.mp h).le]
  next h => rw [max_eq_right (not_lt.mp fun hlt => h (Int64.lt_iff_toInt_lt.mpr hlt))]

/-- A candidate's floor and current target are within its assigned size. -/
structure CandidateState.Within (c : CandidateState) : Prop where
  floor_nonneg : 0 ≤ c.floor.toInt
  floor_le : c.floor.toInt ≤ c.vm.assigned.toInt
  current_nonneg : 0 ≤ c.current.toInt
  current_le : c.current.toInt ≤ c.vm.assigned.toInt

variable {cfg : Config} {req : ReconcileRequest} {now : Int}

theorem Listed.candidate_within {l : Listed} {c : CandidateState} (h : l.candidate cfg = some c) :
    c.Within := by
  obtain ⟨target, -, rfl⟩ := Option.map_eq_some_iff.mp h
  have hassigned := l.assigned_nonneg
  have hmin := cfg.floorMin_pos
  have hclamp := @toInt_clampInt64 target 0 l.vm.assigned hassigned
  change _ = max 0 _ at hclamp
  have hfloor := toInt_minInt64 (protectedFloorBytes cfg l.vm.assigned) l.vm.assigned
  have hmax : (protectedFloorBytes cfg l.vm.assigned).toInt = max _ _ := toInt_maxInt64 _ _
  constructor <;> dsimp only <;> omega

theorem Listed.candidate_sized {l : Listed} {c : CandidateState} (h : l.candidate cfg = some c)
    (hsize : l.vm.assigned.toInt ≤ 2 ^ 44) : c.Sized := by
  have hwithin := candidate_within h
  obtain ⟨target, -, rfl⟩ := Option.map_eq_some_iff.mp h
  obtain ⟨hfloor, hle, -, -⟩ := hwithin
  dsimp only at hfloor hle
  have hmax : (maxInt64 0 (l.vm.assigned - minInt64 (protectedFloorBytes cfg l.vm.assigned)
      l.vm.assigned)).toInt = max 0 _ := toInt_maxInt64 _ _
  rw [toInt_sub_of_lt (by omega) (by omega)] at hmax
  constructor <;> dsimp only <;> omega

/-- The guests that take part in a reconcile. -/
def candidates (cfg : Config) (vms : List Listed) : List CandidateState :=
  vms.filterMap (·.candidate cfg)

/-- What is known of every call. -/
structure SetCall.Made (cfg : Config) (req : ReconcileRequest) (now : Int) (vms : List Listed)
    (plan : Table String Int64) (call : SetCall) : Prop where
  mem : call.candidate ∈ candidates cfg vms
  planned_eq : call.planned =
    (plan.lookup call.candidate.vm.id).getD call.candidate.vm.assigned
  target_eq : call.target =
    appliedTarget cfg req.force now call.last call.planned call.candidate
  target_ne : call.target ≠ call.candidate.current

/-- The calls of a reconcile follow its plan. -/
theorem reconcile_made (s : SyncState) (sample : HostPressureSample) (vms : List Listed) :
    let r := reconcile cfg s req now (some sample) (some vms)
    ∀ call ∈ r.2, call.Made cfg req now vms (planGuestTargets (candidates cfg vms)
      (totalTarget cfg r.1 req sample (candidates cfg vms))) := by
  have hrows : (vms.filterMap fun l => (l.candidate cfg).map (·, l.sets)).map (·.1) =
      candidates cfg vms := by
    simp only [candidates, List.map_filterMap, Option.map_map]
    exact List.filterMap_congr fun l _ => Option.map_id'
  simp only [reconcile, hrows, totalTarget]
  generalize (vms.filterMap fun l => (l.candidate cfg).map (·, l.sets)) = rows at hrows ⊢
  generalize planGuestTargets (candidates cfg vms) _ = plan
  refine rows.foldlRecOn (motive := fun t : Table String Int × List SetCall =>
    ∀ call ∈ t.2, call.Made cfg req now vms plan) _ (by simp) fun t ht e he => ?_
  unfold applyTarget
  dsimp only
  split
  next hset =>
    have hmem : e.1 ∈ candidates cfg vms := hrows ▸ List.mem_map_of_mem he
    exact List.forall_mem_append.mpr ⟨ht, by simpa using ⟨hmem, rfl, rfl, hset.2⟩⟩
  · exact ht

/-- Within a step, towards the target. -/
theorem toInt_limitStep {current target : Int64} (hcurrent : 0 ≤ current.toInt)
    (hfits : -2 ^ 63 < target.toInt - current.toInt) :
    (limitStep cfg current target).toInt = max (current.toInt - cfg.perVMMaxStepBytes.toInt)
      (min (current.toInt + cfg.perVMMaxStepBytes.toInt) target.toInt) := by
  have hstep := cfg.step_pos
  have hword := target.toInt_lt
  have hword' := current.toInt_lt
  have hword'' := cfg.perVMMaxStepBytes.toInt_lt
  have hdelta : (target - current).toInt = target.toInt - current.toInt :=
    toInt_sub_of_lt (by omega) (by omega)
  unfold limitStep
  dsimp only
  split
  next heq =>
    subst heq
    omega
  next hne =>
    have hne : target.toInt ≠ current.toInt := fun h => hne (Int64.toInt_inj.mp h)
    split
    next hpos =>
      rw [Int64.lt_iff_toInt_lt, hdelta] at hpos
      change 0 < _ at hpos
      have hmin := toInt_minInt64 (target - current) cfg.perVMMaxStepBytes
      rw [toInt_add_of_lt (by omega) (by omega)]
      omega
    next hneg =>
      rw [Int64.lt_iff_toInt_lt, hdelta] at hneg
      change ¬ 0 < _ at hneg
      have hneg' : (-(target - current)).toInt = current.toInt - target.toInt := by
        rw [Int64.toInt_neg, hdelta, Int.bmod_eq_of_le_mul_two] <;> omega
      have hmin := toInt_minInt64 (-(target - current)) cfg.perVMMaxStepBytes
      rw [toInt_sub_of_lt (by omega) (by omega)]
      omega

def SetCall.Bounded (call : SetCall) : Prop :=
  call.candidate.floor.toInt ≤ call.target.toInt ∧
    call.target.toInt ≤ call.candidate.vm.assigned.toInt

/-- The change is no more than a step. -/
def SetCall.Stepped (cfg : Config) (call : SetCall) : Prop :=
  |call.target.toInt - call.candidate.current.toInt| ≤ cfg.perVMMaxStepBytes.toInt

/-- The call is forced, or the last change is the cooldown ago. -/
def SetCall.Rested (cfg : Config) (req : ReconcileRequest) (now : Int) (call : SetCall) : Prop :=
  req.force = true ∨ ¬ Cooling cfg now call.last

/-- The plan is a word away from the current target, unless guests have more than 16 TiB. -/
theorem SetCall.Made.planned_near {vms : List Listed} {total : Int64} {call : SetCall}
    (h : call.Made cfg req now vms (planGuestTargets (candidates cfg vms) total))
    (hvms : ∀ l ∈ vms, l.vm.assigned.toInt ≤ 2 ^ 44) :
    -2 ^ 63 < call.planned.toInt - call.candidate.current.toInt := by
  have hsized : ∀ c ∈ candidates cfg vms, c.Sized ∧ c.Within := by
    intro c hc
    obtain ⟨l, hl, hcand⟩ := List.mem_filterMap.mp hc
    exact ⟨l.candidate_sized hcand (hvms l hl), l.candidate_within hcand⟩
  obtain ⟨⟨hfloor, hmax, hadd, hassigned⟩, hwithin⟩ := hsized _ h.mem
  have hcurrent := hwithin.current_le
  have hplanned := h.planned_eq
  cases hlookup : (planGuestTargets (candidates cfg vms) total).lookup call.candidate.vm.id with
  | none =>
    rw [hlookup, Option.getD_none] at hplanned
    rw [hplanned]
    omega
  | some target =>
    have hnear := planGuestTargets_near (fun c hc => (hsized c hc).1) total _ _ hlookup
    rw [hlookup, Option.getD_some] at hplanned
    rw [hplanned]
    omega

/-- Every target that a reconcile sets is within the guest's memory. Where the difference between
the plan and the current target is a word, as it is where no guest has more than 16 TiB, the change
is also limited by the step and the cooldown, exactly if a guest whose current target is below its
floor is no more than a step away from it and not cooling down. -/
theorem targets_limited (cfg : Config) (s : SyncState) (req : ReconcileRequest) (now : Int)
    (sample : Option HostPressureSample) (vms : Option (List Listed)) :
    ∀ call ∈ (reconcile cfg s req now sample vms).2,
      (-2 ^ 63 < call.planned.toInt - call.candidate.current.toInt ∨
        ∀ l ∈ vms.getD [], l.vm.assigned.toInt ≤ 2 ^ 44) →
      (call.Bounded ∧ call.Stepped cfg ∧ call.Rested cfg req now ↔
        (call.candidate.current.toInt < call.candidate.floor.toInt →
          call.candidate.floor.toInt - call.candidate.current.toInt ≤
            cfg.perVMMaxStepBytes.toInt ∧ call.Rested cfg req now)) := by
  intro call hcall hsmall
  cases sample with
  | none => cases hcall
  | some sample =>
  cases vms with
  | none => cases hcall
  | some vms =>
  have hmade := reconcile_made s sample vms call hcall
  have hfits := hsmall.elim id hmade.planned_near
  obtain ⟨hmem, -, htarget, hne⟩ := hmade
  obtain ⟨l, -, hcand⟩ := List.mem_filterMap.mp hmem
  have hne : call.target.toInt ≠ call.candidate.current.toInt :=
    fun h => hne (Int64.toInt_inj.mp h)
  have hstep := cfg.step_pos
  obtain ⟨hfloor, hfloor', hcur, hcur'⟩ := l.candidate_within hcand
  -- what the step limit is applied to
  obtain ⟨t, ht, hclamp⟩ : ∃ t : Int64, (t = call.candidate.current ∨
        t = call.planned ∧ call.Rested cfg req now) ∧
      call.target = clampInt64 (limitStep cfg call.candidate.current t) call.candidate.floor
        call.candidate.vm.assigned := by
    refine ⟨_, ?_, htarget⟩
    unfold SetCall.Rested
    cases req.force <;> by_cases hcool : Cooling cfg now call.last <;> simp [hcool] <;> grind
  have hword : -2 ^ 63 < t.toInt - call.candidate.current.toInt := by
    rcases ht with rfl | ⟨rfl, -⟩
    · omega
    · exact hfits
  have hlimit : (limitStep cfg _ t).toInt = _ := toInt_limitStep hcur hword
  have hvalue : call.target.toInt = _ := hclamp ▸ toInt_clampInt64 hfloor'
  have hrested : call.candidate.floor.toInt ≤ call.candidate.current.toInt →
      call.Rested cfg req now := by
    intro h
    rcases ht with rfl | ⟨-, hrest⟩
    · omega
    · exact hrest
  unfold SetCall.Bounded SetCall.Stepped
  rw [abs_le]
  constructor
  · rintro ⟨hb, hs, hr⟩ hlt
    exact ⟨by omega, hr⟩
  · intro h
    by_cases hlt : call.candidate.current.toInt < call.candidate.floor.toInt
    · exact ⟨by omega, by have := (h hlt).1; omega, (h hlt).2⟩
    · exact ⟨by omega, by omega, hrested (by omega)⟩

/-- The request of the polling loop. -/
def automatic : ReconcileRequest := ⟨false, false, 0, 0⟩

def defaultConfig : Config :=
  ⟨10, 15, 50, 536870912, 67108864, 268435456, 5000000000, by decide, by decide⟩

def guest (target : Int64) : Listed := ⟨⟨"a", 4294967296⟩, some target, true, by decide⟩

/-- 6 GiB of 64 GiB are available. -/
def pressed : HostPressureSample := ⟨68719476736, 6442450944, 9, false⟩

/-- 32 GiB of 64 GiB are available. -/
def relaxed : HostPressureSample := ⟨68719476736, 34359738368, 50, false⟩

/-- Under pressure a guest gives up one step of its memory. -/
theorem targets_limited_pressed :
    let calls := (reconcile defaultConfig ⟨.healthy, none, ∅⟩ automatic 0 (some pressed)
      (some [guest 4294967296])).2
    calls ≠ [] ∧ ∀ call ∈ calls, call.Bounded ∧ call.Stepped defaultConfig ∧
      call.Rested defaultConfig automatic 0 := by
  refine ⟨by decide +kernel, fun call hcall => ?_⟩
  refine (targets_limited _ _ _ _ _ _ call hcall (.inr (by decide))).mpr fun hlt => absurd hlt ?_
  revert call
  decide +kernel

/-- A guest whose target is below its floor: it is moved by 2 GiB, in its cooldown. -/
theorem targets_unlimited :
    let calls := (reconcile defaultConfig ⟨.healthy, none, (∅ : Table String Int).insert "a" 0⟩
      automatic 1 (some relaxed) (some [guest 0])).2
    ∃ call ∈ calls, ¬ call.Stepped defaultConfig ∧ ¬ call.Rested defaultConfig automatic 1 := by
  refine ⟨⟨⟨⟨"a", 4294967296⟩, 0, 2147483648, 2147483648⟩, 4294967296, some 0, 2147483648⟩,
    by decide +kernel, ?_, ?_⟩
  · unfold SetCall.Stepped
    decide +kernel
  · unfold SetCall.Rested
    decide +kernel

/-! ## What is planned under pressure -/

/-- The sizes of the host: no more than 64 PiB, and a watermark in percent. -/
structure HostSized (cfg : Config) (sample : HostPressureSample) : Prop where
  available_nonneg : 0 ≤ sample.availableBytes.toInt
  total_pos : 0 < sample.totalBytes.toInt
  total_le : sample.totalBytes.toInt ≤ 2 ^ 56
  low_nonneg : 0 ≤ cfg.lowWatermark.toInt
  low_le : cfg.lowWatermark.toInt ≤ 100

/-- How far the available memory is below the low watermark, in exact numbers. -/
def missing (cfg : Config) (sample : HostPressureSample) : ℤ :=
  sample.totalBytes.toInt * cfg.lowWatermark.toInt / 100 - sample.availableBytes.toInt

theorem HostSized.toInt_needed {sample : HostPressureSample} (h : HostSized cfg sample) :
    (needed cfg sample).toInt = missing cfg sample := by
  obtain ⟨havail, htotal, htotal', hlow, hlow'⟩ := h
  have hpos : 0 ≤ sample.totalBytes.toInt * cfg.lowWatermark.toInt := by positivity
  have hle : sample.totalBytes.toInt * cfg.lowWatermark.toInt ≤ 2 ^ 56 * 100 := by gcongr
  have hmul := toInt_mul_of_lt (x := sample.totalBytes) (y := cfg.lowWatermark) (by omega)
    (by omega)
  have hdiv := toInt_div_of_nonneg 100 (hmul ▸ hpos)
  rw [hmul] at hdiv
  change _ = _ / 100 at hdiv
  have hword := sample.availableBytes.toInt_lt
  rw [needed, toInt_sub_of_lt (by omega) (by omega), hdiv, missing]

/-- What a hold asks for that has not expired. -/
def SyncState.held (s : SyncState) (now : Int) : Int64 :=
  ((s.manualHold.filter fun h => now ≤ h.2).map (·.1)).getD 0

theorem totalTarget_pressure {s : SyncState} {sample : HostPressureSample} {vms : List Listed}
    (hhost : HostSized cfg sample) (hmissing : 0 < missing cfg sample)
    (hpressure : nextPressureState s.pressureState cfg sample = .pressure) :
    totalTarget cfg (reconcile cfg s automatic now (some sample) (some vms)).1 automatic sample
      (candidates cfg vms) = maxInt64 (needed cfg sample) (s.held now) := by
  have htotal : ¬ sample.totalBytes ≤ 0 := by
    rw [Int64.le_iff_toInt_le, not_le]
    exact hhost.total_pos
  have hneeded : 0 < needed cfg sample :=
    Int64.lt_iff_toInt_lt.mpr (hmissing.trans_eq hhost.toInt_needed.symm)
  change maxInt64 (automaticTargetBytes (nextPressureState s.pressureState cfg sample) cfg sample _)
    _ = _
  rw [hpressure]
  simp only [automaticTargetBytes, ne_eq, not_true_eq_false, htotal, hneeded, or_self, if_true,
    if_false]
  rfl

end Hypeman.GuestMemory
