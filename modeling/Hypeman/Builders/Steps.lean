import Hypeman.Builders.Manager

/-!
# What the steps of the builder manager do

`At m a D`: the metadata are `m`, the build `a` holds the builder, `D` is known of the disk, and
every step of the log left no disk without metadata and touched the disk only while no build held
the builder. One rule for each function says from which of these states it leads to which.
-/

namespace Hypeman.Builders

open Foundations Action

def Durable.Owned (d : Durable) : Prop := d.disk.isSome = true → d.metadata.isSome = true

def Entry.Sound (e : Entry) : Prop :=
  e.durable.Owned ∧ (e.change.ofDisk = true → e.acquired = none)

structure At (m : Option Metadata) (a : Option String) (D : Option (List String) → Prop)
    (w : World) : Prop where
  metadata : w.metadata = m
  acquired : w.acquired = a
  disk : D w.disk
  owned : w.toDurable.Owned
  log : ∀ e ∈ w.log, e.Sound

/-- Nothing is known of the disk. -/
def anyDisk : Option (List String) → Prop := fun _ => True

variable {m : Option Metadata} {a : Option String} {D G : Option (List String) → Prop}
variable {x : Metadata}

theorem At.mono {w : World} (h : At m a D w) (hD : ∀ d, D d → G d) : At m a G w :=
  { h with disk := hD _ h.disk }

theorem At.any {w : World} (h : At m a D w) : At m a anyDisk w := h.mono fun _ _ => True.intro

theorem At.outcomes {w : World} (h : At m a D w) (os : List Bool) :
    At m a D { w with outcomes := os } :=
  ⟨h.metadata, h.acquired, h.disk, h.owned, h.log⟩

theorem attempt_cases (w : World) : ∃ os, attempt w = (.ok (), { w with outcomes := os }) ∨
    attempt w = (.error .other, { w with outcomes := os }) := by
  unfold attempt
  split
  next rest _ => exact ⟨rest, .inr rfl⟩
  next rest _ => exact ⟨rest, .inl rfl⟩
  · exact ⟨w.outcomes, .inl rfl⟩

theorem spec_attempt : Spec (At m a D) attempt (fun _ => At m a D) (At m a D) := by
  intro w hw
  obtain ⟨os, h | h⟩ := attempt_cases w <;>
    exact h ▸ ⟨fun _ _ => hw.outcomes os, fun _ _ => hw.outcomes os⟩

theorem spec_change {c : Change} {f : Durable → Durable} {m' : Option Metadata}
    (h : ∀ d : Durable, d.metadata = m → D d.disk → d.Owned →
      (f d).metadata = m' ∧ G (f d).disk ∧ (f d).Owned) (hc : c.ofDisk = true → a = none) :
    Spec (At m a D) (change c f) (fun _ => At m' a G) (At m a D) := by
  refine spec_attempt.bind fun _ w hw => ⟨fun _ _ => ?_, fun _ herr => nomatch herr⟩
  obtain ⟨hm, hD, howned⟩ := h w.toDurable hw.metadata hw.disk hw.owned
  refine ⟨hm, hw.acquired, hD, howned, fun e he => ?_⟩
  rcases List.mem_cons.mp he with rfl | he
  · exact ⟨howned, fun hdisk => hw.acquired.trans (hc hdisk)⟩
  · exact hw.log e he

theorem spec_load :
    Spec (At m a D) loadMetadata (fun x w => m = some x ∧ At m a D w) (At m a D) := by
  refine spec_attempt.bind fun _ w hw => ?_
  split
  next x hx => exact ⟨fun _ hok => by cases hok; exact ⟨hw.metadata ▸ hx, hw⟩, fun _ _ => hw⟩
  · exact ⟨fun _ _ => by simp_all, fun _ _ => hw⟩

theorem spec_save (x : Metadata) :
    Spec (At m a D) (saveMetadata x) (fun _ => At (some x) a D) (At m a D) :=
  spec_change (fun _ _ hD _ => ⟨rfl, hD, fun _ => rfl⟩) (by simp [Change.ofDisk])

theorem spec_remove :
    Spec (At m a (· = none)) deleteBuilderData (fun _ => At none a (· = none))
      (At m a (· = none)) :=
  spec_change (fun d _ hD _ => ⟨rfl, hD, by simp [Durable.Owned, hD]⟩) (by simp [Change.ofDisk])

theorem spec_holder {E : World → Prop} :
    Spec (At m a D) holder (fun h w => h = a ∧ At m a D w) E :=
  fun w hw => ⟨fun _ hok => ⟨by cases hok; exact hw.acquired, hw⟩, fun _ herr => nomatch herr⟩

/-- What the result of `getVolume` tells of the disk. -/
theorem spec_getVolume {E : World → Prop} :
    Spec (At m a D) (getVolume.result : Op (Except Failure (List String)))
      (fun r => At m a fun d => D d ∧ (∀ l, r = .ok l → d = some l) ∧
        (r = .error .volumeNotFound → d = none)) E := by
  intro w hw
  refine ⟨fun r hr => ?_, fun _ herr => nomatch herr⟩
  obtain rfl := Except.ok.inj hr
  obtain ⟨os, h | h⟩ := attempt_cases w
  · cases hd : w.disk with
    | some l =>
      have heq : getVolume w = (.ok l, { w with outcomes := os }) := by
        simp [getVolume, bind, h, hd]
      simp only [result, heq]
      exact { hw.outcomes os with disk := ⟨hw.disk, by simp [hd]⟩ }
    | none =>
      have heq : getVolume w = (.error .volumeNotFound, { w with outcomes := os }) := by
        simp [getVolume, bind, h, hd]
      simp only [result, heq]
      exact { hw.outcomes os with disk := ⟨hw.disk, by simp [hd]⟩ }
  · have heq : getVolume w = (.error .other, { w with outcomes := os }) := by
      simp [getVolume, bind, h]
    simp only [result, heq]
    exact { hw.outcomes os with disk := ⟨hw.disk, by simp⟩ }

theorem spec_createDisk : Spec (At (some x) none D) createDisk
    (fun _ => At (some x) none (· = some [])) (At (some x) none D) := by
  intro w hw
  unfold createDisk createVolume
  split
  · exact ⟨fun _ hok => (nomatch hok), fun _ _ => hw⟩
  · exact spec_change (f := fun d => { d with disk := some [] }) (G := (· = some []))
      (fun d hm _ _ => ⟨hm, rfl, fun _ => by simp [hm]⟩) (fun _ => rfl) w hw

theorem Op.ignoring_apply (f : Op Unit) (err : Failure) (w : World) :
    f.ignoring err w = if (f w).1 = .error err then (.ok (), (f w).2) else f w := by
  unfold Op.ignoring
  simp only [bind_apply, result]
  rcases hf : f w with ⟨r | r, w'⟩
  · by_cases h : r = err <;> simp [h, Action.fail, pure]
  · simp [pure]

/-- An error that is passed over leaves a state of the failed call. -/
theorem spec_ignoring {P E : World → Prop} {Q : Unit → World → Prop} {f : Op Unit} {err : Failure}
    (h : Spec P f Q E) (herr : ∀ w, P w → (f w).1 = .error err → Q () (f w).2) :
    Spec P (f.ignoring err) Q E := by
  intro w hw
  rw [Op.ignoring_apply]
  split
  next h' => exact ⟨fun _ _ => herr w hw h', fun _ h => nomatch h⟩
  · exact h w hw

/-- A logged step fails only where the call does. -/
theorem change_error {c : Change} {f : Durable → Durable} {w : World} {e : Failure}
    (h : (change c f w).1 = .error e) : e = .other := by
  obtain ⟨os, ha | ha⟩ := attempt_cases w
  · simp [change, bind, ha] at h
  · simpa [change, bind, ha, eq_comm] using h

theorem spec_deleteDisk : Spec (At m none D) (deleteVolume.ignoring .volumeNotFound)
    (fun _ => At m none (· = none)) (At m none D) := by
  refine spec_ignoring (fun w hw => ?_) fun w hw h => ?_
  · unfold deleteVolume
    split
    · exact ⟨fun _ hok => (nomatch hok), fun _ _ => hw⟩
    · exact ⟨fun _ hok => (nomatch hok), fun _ _ => hw⟩
    · exact spec_change (f := fun d => { d with disk := none }) (G := (· = none))
        (fun d hm _ _ => ⟨hm, rfl, by simp [Durable.Owned]⟩) (fun _ => rfl) w hw
  · unfold deleteVolume at h ⊢
    split at h
    next hd => simpa [hd] using { hw with disk := hd }
    · cases h
    · exact absurd (change_error h) (by decide)

/-- The disk is there after the call, and it was made if it was missing. -/
theorem spec_ensureDisk : Spec (At (some x) none anyDisk) ensureDisk
    (fun _ => At (some x) none (·.isSome = true)) (At (some x) none anyDisk) := by
  refine spec_getVolume.bind fun r => ?_
  split
  next l => exact .pure fun w hw => hw.mono fun d hd => by simp [hd.2.1 l rfl]
  next e =>
    split
    · exact .fail fun w hw => hw.any
    next he =>
      refine spec_ignoring (spec_createDisk.weaken (fun _ hw => hw)
        (fun _ w hw => hw.mono fun d hd => by simp [hd]) fun w hw => hw.any) fun w hw h => ?_
      have hd : w.disk = none := hw.disk.2.2 (by simp [not_not.mp he])
      simp only [createDisk, createVolume, hd] at h
      exact absurd (change_error h) (by decide)

/-! ## Attachments -/

/-- The disk is there where `k` holds, and only these instances may be attached to it. -/
def Within (k : Prop) (l : List String) (d : Option (List String)) : Prop :=
  (k → d.isSome = true) ∧ ∀ attachments, d = some attachments → attachments ⊆ l

/-- The disk is there where `k` holds. -/
def Kept (k : Prop) (d : Option (List String)) : Prop := k → d.isSome = true

variable {k : Prop}

theorem spec_diskAttached : Spec (At m a D) diskAttached
    (fun attached => At m a fun d => D d ∧ (attached = false → ∀ l, d = some l → l = []))
    (At m a D) := by
  refine spec_getVolume.bind fun r => ?_
  split
  next l =>
    exact .pure fun w hw => hw.mono fun d hd => ⟨hd.1, by simp [hd.2.1 l rfl]⟩
  next e =>
    split
    next he => exact .pure fun w hw => hw.mono fun d hd => ⟨hd.1, by simp [hd.2.2 (by rw [he])]⟩
    · exact .fail fun w hw => hw.mono fun d hd => hd.1

theorem spec_detachVolume (inst : String) (h : ∀ d, D d → G (d.map (·.filter (· ≠ inst)))) :
    Spec (At m none D) (detachVolume inst) (fun _ => At m none G) (At m none D) := by
  intro w hw
  unfold detachVolume
  split
  · exact ⟨fun _ hok => (nomatch hok), fun _ _ => hw⟩
  split
  · exact spec_change (f := fun d => { d with disk := d.disk.map (·.filter (· ≠ inst)) })
      (fun d hm hD howned => ⟨hm, h _ hD, by simpa [Durable.Owned] using howned⟩) (fun _ => rfl)
      w hw
  · exact ⟨fun _ hok => (nomatch hok), fun _ _ => hw⟩

theorem Kept.detached (inst : String) (d : Option (List String)) (h : Kept k d) :
    Kept k (d.map (·.filter (· ≠ inst))) := by
  simpa [Kept] using h

theorem Within.detached {inst : String} {l : List String} (d : Option (List String))
    (h : Within k (inst :: l) d) : Within k l (d.map (·.filter (· ≠ inst))) := by
  refine ⟨by simpa using h.1, fun attachments hatt x hx => ?_⟩
  obtain ⟨old, rfl, rfl⟩ := Option.map_eq_some_iff.mp hatt
  obtain ⟨hx, hne⟩ := List.mem_filter.mp hx
  exact (List.mem_cons.mp (h.2 old rfl hx)).resolve_left (by simpa using hne)

theorem spec_getInstance (inst : String) :
    Spec (At m a D) (getInstance inst) (fun _ => At m a D) (At m a D) :=
  spec_attempt.bind fun _ _ hw => ⟨fun _ _ => hw, fun _ _ => hw⟩

theorem spec_deleteInstance (inst : String) :
    Spec (At m none (Kept k)) ((deleteInstance inst).ignoring .instanceNotFound)
      (fun _ => At m none (Kept k)) (At m none (Kept k)) := by
  have h : Spec (At m none (Kept k)) (deleteInstance inst) (fun _ => At m none (Kept k))
      (At m none (Kept k)) := by
    refine (spec_getInstance inst).bind fun _ => spec_attempt.bind fun _ => ?_
    refine Spec.bind (Q := fun _ => At m none (Kept k))
      (fun w hw => ⟨fun _ _ => ⟨hw.1, hw.2, hw.3, hw.4, hw.5⟩, fun _ h => nomatch h⟩) fun _ => ?_
    exact ((spec_detachVolume inst (Kept.detached inst)).result (fun _ _ hw => hw)
      fun _ _ hw => hw).bind fun _ => .pure fun _ hw => hw
  exact spec_ignoring h fun w hw herr => (h w hw).2 _ herr

/-- Every attachment is cleared or, where instances were deleted, a second look is due. -/
theorem spec_clearEach (l : List String) (deleted : Bool) :
    Spec (At m none fun d => Kept k d ∧ (deleted = false → Within k l d)) (clearEach l deleted)
      (fun deleted => At m none fun d => Kept k d ∧ (deleted = false → Within k [] d))
      (At m none (Kept k)) := by
  induction l generalizing deleted with
  | nil => exact .pure fun _ hw => hw
  | cons inst l ih =>
    refine ((spec_getInstance inst).result (S := fun _ => At m none _) (fun _ _ hw => hw)
      fun _ _ hw => hw).bind fun r => ?_
    split
    · exact ((spec_deleteInstance inst).weaken (fun _ hw => hw.mono fun _ hd => hd.1)
        (fun _ _ hw => hw.mono fun _ hd => ⟨hd, nofun⟩) fun _ hw => hw).bind fun _ => ih true
    · split
      · exact .fail fun _ hw => hw.mono fun _ hd => hd.1
      · refine ((spec_detachVolume inst fun d hd => ?_).error
          fun _ hw => hw.mono fun _ hd => hd.1).bind fun _ => ih deleted
        exact ⟨Kept.detached inst d hd.1, fun h => (hd.2 h).detached⟩

theorem spec_detachEach (l : List String) :
    Spec (At m none (Within k l)) (detachEach l) (fun _ => At m none (Within k []))
      (At m none (Kept k)) := by
  induction l with
  | nil => exact .pure fun _ hw => hw
  | cons inst l ih =>
    exact ((spec_detachVolume inst Within.detached).error
      fun _ hw => hw.mono fun _ hd => hd.1).bind fun _ => ih

/-- No attachment is left, whatever the disk had before. -/
theorem spec_clearStaleAttachments : Spec (At m none (Kept k)) clearStaleAttachments
    (fun _ => At m none (Within k [])) (At m none (Kept k)) := by
  have hlook {f : Except Failure (List String) → Op Unit}
      (herr : ∀ e, f (.error e) = if e = .volumeNotFound then pure () else Action.fail e)
      (hok : ∀ l, Spec (At m none (Within k l)) (f (.ok l)) (fun _ => At m none (Within k []))
        (At m none (Kept k))) :
      Spec (At m none (Kept k)) (getVolume.result >>= f) (fun _ => At m none (Within k []))
        (At m none (Kept k)) := by
    refine spec_getVolume.bind fun r => ?_
    cases r with
    | error e =>
      rw [herr]
      split
      next he =>
        refine .pure fun w hw => hw.mono fun d hd => ⟨hd.1, fun l hl => ?_⟩
        simp [hd.2.2 (by rw [he])] at hl
      · exact .fail fun w hw => hw.mono fun _ hd => hd.1
    | ok l =>
      refine (hok l).pre fun w hw => hw.mono fun d hd => ⟨hd.1, fun l' hl' => ?_⟩
      simp [Option.some.inj ((hd.2.1 l rfl).symm.trans hl')]
  refine hlook (fun _ => rfl) fun l => ((spec_clearEach l false).pre fun w hw => hw.mono fun d hd =>
    ⟨hd.1, fun _ => hd⟩).bind fun deleted => ?_
  split
  · exact (hlook (fun _ => rfl) spec_detachEach).pre fun w hw => hw.mono fun _ hd => hd.1
  next h => exact .pure fun w hw => hw.mono fun _ hd => hd.2 (by simpa using h)

/-! ## The functions of the manager -/

abbrev Metadata.become (x : Metadata) (st : BuilderStatus) : Metadata := { x with status := st }

def Held (m : Option Metadata) (a : Option String) : Prop :=
  a.isSome = true → m.map (·.status) = some .ready

theorem Held.of_none : Held m none := nofun

theorem Held.none_of_status {st : BuilderStatus} (h : Held (some x) a) (hx : x.status = st)
    (hst : st ≠ .ready) : a = none := by
  cases a with
  | none => rfl
  | some b => exact absurd (hx.symm.trans (Option.some.inj (h rfl))) hst

/-- No build holds the builder and no reset of its disk is under way. -/
def Free (m : Option Metadata) (a : Option String) : Prop :=
  a = none ∧ m.map (·.status) ≠ some .pruning

theorem spec_beginDelete (hasBuilds : Bool) (h : Held (some x) a) :
    Spec (At (some x) a anyDisk) (beginDelete hasBuilds x)
      (fun _ w => Free (some x) a ∧ At (some (x.become .deleting)) none anyDisk w)
      (At (some x) a anyDisk) := by
  unfold beginDelete
  split
  next hx =>
    obtain rfl := h.none_of_status hx (by decide)
    exact .pure fun w hw => ⟨⟨rfl, by simp [hx]⟩, by simpa [Metadata.become, ← hx] using hw⟩
  · refine spec_holder.bind fun held => .assume ?_
    rintro rfl
    split
    · exact .fail fun _ hw => hw
    next hc =>
      obtain ⟨⟨rfl, hx⟩, -⟩ : (held = none ∧ x.status ≠ .pruning) ∧ hasBuilds = false := by
        simpa using hc
      refine spec_diskAttached.bind fun attached => ?_
      split
      · exact .fail fun _ hw => hw.any
      · exact (spec_save _).weaken (fun _ hw => hw.any)
          (fun _ _ hw => ⟨⟨rfl, by simpa using hx⟩, hw⟩) fun _ hw => hw

/-- The builder is gone, or the call failed before or after the transition. -/
theorem spec_DeleteBuilder (hasBuilds : Bool) (h : Held m a) :
    Spec (At m a anyDisk) (DeleteBuilder hasBuilds)
      (fun _ w => Free m a ∧ At none none (· = none) w)
      (fun w => At m a anyDisk w ∨
        Free m a ∧ ∃ x : Metadata, At (some (x.become .deleting)) none anyDisk w) := by
  refine (spec_load.error fun _ hw => .inl hw).bind fun x => .assume ?_
  rintro rfl
  refine ((spec_beginDelete hasBuilds h).error fun _ hw => .inl hw).bind
    fun _ => .assume fun hfree => ?_
  refine (spec_deleteDisk.error fun _ hw => .inr ⟨hfree, x, hw⟩).bind fun _ => ?_
  exact spec_remove.weaken (fun _ hw => hw) (fun _ _ hw => ⟨hfree, hw⟩)
    fun _ hw => .inr ⟨hfree, x, hw.any⟩

/-- A build gets only a builder that is ready and that no build holds. -/
theorem spec_AcquireForBuild (buildID : String) :
    Spec (At m a anyDisk) (AcquireForBuild buildID)
      (fun _ w => m.map (·.status) = some .ready ∧ a = none ∧ At m (some buildID) anyDisk w)
      (At m a anyDisk) := by
  refine spec_load.bind fun x => .assume ?_
  rintro rfl
  refine spec_holder.bind fun held => .assume ?_
  rintro rfl
  split
  · exact .fail fun _ hw => hw
  next hc =>
    obtain ⟨hx, rfl⟩ : x.status = .ready ∧ held = none := by simpa using hc
    have hset {D : Option (List String) → Prop} :
        Spec (At (some x) none D) (setHolder (some buildID))
          (fun _ w => (some x).map (·.status) = some .ready ∧ (none : Option String) = none ∧
            At (some x) (some buildID) anyDisk w) (At (some x) none anyDisk) :=
      fun w hw => ⟨fun _ _ => ⟨by simp [hx], rfl, hw.1, rfl, True.intro, hw.4, hw.5⟩,
        fun _ h => nomatch h⟩
    refine spec_ensureDisk.bind fun _ => ?_
    refine (spec_diskAttached.error fun _ hw => hw.any).bind
      fun attached => ?_
    split
    · exact ((spec_clearStaleAttachments (k := False)).weaken
        (fun _ hw => hw.mono fun _ _ h => h.elim) (fun _ _ hw => hw) fun _ hw => hw.any).bind
        fun _ => hset
    · exact hset

theorem spec_ReleaseBuild (buildID : String) (now : Int) :
    Spec (At m a anyDisk) (ReleaseBuild buildID now)
      (fun _ w => a = some buildID ∧ ∃ m' : Option Metadata,
        m'.map (·.status) = m.map (·.status) ∧ At m' none anyDisk w)
      (At m a anyDisk) := by
  refine spec_holder.bind fun held => .assume ?_
  rintro rfl
  split
  · exact .fail fun _ hw => hw
  next hc =>
    obtain rfl := not_not.mp hc
    have hset {m' : Option Metadata} (h : m'.map (·.status) = m.map (·.status)) :
        Spec (At m' (some buildID) anyDisk) (setHolder none)
          (fun _ w => some buildID = some buildID ∧ ∃ m' : Option Metadata,
            m'.map (·.status) = m.map (·.status) ∧ At m' none anyDisk w)
          (At m (some buildID) anyDisk) :=
      fun w hw => ⟨fun _ _ => ⟨rfl, m', h, hw.1, rfl, hw.3, hw.4, hw.5⟩, fun _ h => nomatch h⟩
    refine (spec_load.result (S := fun r w => (∀ x, r = .ok x → m = some x) ∧
      At m (some buildID) anyDisk w) (fun x w hw => ⟨by simpa using hw.1, hw.2⟩)
      fun _ w hw => ⟨nofun, hw⟩).bind fun r => .assume fun hr => ?_
    split
    · split
      · exact hset rfl
      · exact .fail fun _ hw => hw
    next x => exact (spec_save _).bind fun _ => hset (by simp [hr x rfl])

theorem spec_ResetDisk (hasBuilds : Bool) :
    Spec (At m a anyDisk) (ResetDisk hasBuilds)
      (fun _ w => (m.map (·.status) = some .ready ∨ m.map (·.status) = some .error) ∧ a = none ∧
        ∃ x : Metadata, At (some (x.become .pruning)) none anyDisk w)
      (At m a anyDisk) := by
  refine spec_load.bind fun x => .assume ?_
  rintro rfl
  refine spec_holder.bind fun held => .assume ?_
  rintro rfl
  split
  · exact .fail fun _ hw => hw
  next hc =>
    obtain ⟨⟨rfl, hx⟩, -⟩ : (held = none ∧ (x.status = .ready ∨ x.status = .error)) ∧
      hasBuilds = false := by simp_all; grind
    refine spec_diskAttached.bind fun attached => ?_
    split
    · exact .fail fun _ hw => hw.any
    · exact (spec_save _).weaken (fun _ hw => hw.any)
        (fun _ w hw => ⟨by simpa using hx, rfl, x, hw⟩) fun _ hw => hw

theorem spec_recreateDisk : Spec (At (some x) none anyDisk) recreateDisk
    (fun _ => At (some x) none (· = some [])) (At (some x) none anyDisk) :=
  spec_deleteDisk.bind fun _ => spec_createDisk.error fun _ hw => hw.any

/-- After the call the builder is ready with a new disk, or something failed. -/
theorem spec_resetDisk :
    Spec (At (some x) none anyDisk) resetDisk
      (fun _ => At (some (x.become .ready)) none (· = some []))
      (fun w => ∃ st, (st = x.status ∨ st = .error) ∧
        At (some (x.become st)) none anyDisk w) := by
  have hkeep {w : World} (hw : At (some x) none anyDisk w) :
      ∃ st, (st = x.status ∨ st = .error) ∧ At (some (x.become st)) none anyDisk w :=
    ⟨x.status, .inl rfl, hw⟩
  refine (spec_load.error fun _ => hkeep).bind
    fun y => .assume fun hy => ?_
  obtain rfl := Option.some.inj hy
  refine (spec_recreateDisk.result (S := fun r => At (some x) none fun d =>
    r = .ok () → d = some []) (fun _ w hw => hw.mono fun _ hd _ => hd)
    fun _ w hw => hw.mono fun _ _ => nofun).bind fun r => ?_
  split
  · exact (spec_save _).weaken (fun _ hw => hw.mono fun _ hd => hd rfl) (fun _ _ hw => hw)
      fun _ hw => hkeep hw.any
  · refine ((spec_save _).result (S := fun _ w => ∃ st, (st = x.status ∨ st = .error) ∧
      At (some (x.become st)) none anyDisk w) (fun _ w hw => ⟨.error, .inr rfl, hw.any⟩)
      fun _ w hw => hkeep hw.any).bind fun _ => .fail fun _ hw => hw

theorem spec_markIdleBuilderDeleting (hasBuilds : Bool) (cutoff : Int) (h : Held m a) :
    Spec (At m a anyDisk) (markIdleBuilderDeleting hasBuilds cutoff)
      (fun marked w => if marked then
          Free m a ∧ ∃ x : Metadata, At (some (x.become .deleting)) none anyDisk w
        else At m a anyDisk w) (At m a anyDisk) := by
  refine spec_load.bind fun x => .assume ?_
  rintro rfl
  refine spec_holder.bind fun held => .assume ?_
  rintro rfl
  split
  next hx =>
    obtain rfl := h.none_of_status hx (by decide)
    exact .pure fun w hw => ⟨⟨rfl, by simp [hx]⟩, x, by simpa [Metadata.become, ← hx] using hw⟩
  · split
    · exact .pure fun _ hw => hw
    next hc =>
      obtain ⟨⟨hx, rfl⟩, -⟩ : (x.status = .ready ∧ held = none) ∧ hasBuilds = false := by
        simpa using hc
      split
      · exact .pure fun _ hw => hw
      · exact (spec_save _).bind fun _ => .pure fun w hw => ⟨⟨rfl, by simp [hx]⟩, x, hw⟩

end Hypeman.Builders
