import Hypeman.Builders.Steps
import Hypeman.Foundations.System

/-!
# Builders after a crash

A crash leaves what the steps before it left. Whatever the calls that were made, the failures in
them and the steps they were cut off at, there is never a disk without metadata, and `reconcile`
settles every builder that has metadata, so that the next one that returns no error settles all.
-/

namespace Hypeman.Builders

open Foundations Action

/-! ## Histories of calls and crashes -/

inductive Call
  | create (cfg : Config) (req : CreateBuilderRequest) (count now : Int)
  | delete (hasBuilds : Bool)
  | reset (hasBuilds : Bool)
  /-- What `ResetDisk` starts in the background. -/
  | resetDisk
  /-- The builder's turn in a `reconcile`. -/
  | reconcile

def Call.run (quote : String → String) : Call → Op Unit
  | .create cfg req count now => CreateBuilder quote cfg req count now
  | .delete hasBuilds => DeleteBuilder hasBuilds
  | .reset hasBuilds => ResetDisk hasBuilds
  | .resetDisk => Builders.resetDisk
  | .reconcile => reconcileBuilder

/-- A builder when a call begins; no build has acquired it. -/
def World.start (d : Durable) (instances : List String) (outcomes : List Bool) : World :=
  ⟨d, none, instances, outcomes, []⟩

/-- What is there after a call, or after a crash that lost its last `lost + 1` steps. -/
def World.durableAfter (w : World) (d : Durable) : Option Nat → Durable
  | none => w.toDurable
  | some lost => ((w.log.drop (lost + 1)).head?.map (·.durable)).getD d

inductive HistoryEvent
  | call (id : String) (c : Call) (instances : List String) (outcomes : List Bool)
      (crash : Option Nat)
  /-- The disk of the builder is attached to these instances now. -/
  | attachments (id : String) (attached : List String)

/-- The metadata and the disk of every builder, through calls and crashes. -/
def historySystem (quote : String → String) : System (String → Durable) HistoryEvent where
  init := fun _ => ⟨none, none⟩
  step b
    | .call id c instances outcomes crash =>
      let w := (c.run quote (.start (b id) instances outcomes)).2
      some (Function.update b id (w.durableAfter (b id) crash))
    | .attachments id attached =>
      some (Function.update b id { b id with disk := (b id).disk.map fun _ => attached })

/-- `reconcile` over the builders that were listed: whether it returned no error, and what it
left. -/
def reconcile (run : String → List String × List Bool) :
    List String → (String → Durable) → Bool × (String → Durable)
  | [], b => (true, b)
  | id :: ids, b =>
    let (res, w) := reconcileBuilder (.start (b id) (run id).1 (run id).2)
    let rest := reconcile run ids (Function.update b id w.toDurable)
    (res.toBool && rest.1, rest.2)

/-! ## No disk without metadata -/

variable {m : Option Metadata}

/-- No build holds the builder, and everything that was done to it is sound. -/
def Unheld (w : World) : Prop := ∃ m, At m none anyDisk w

theorem At.unheld {D : Option (List String) → Prop} {w : World} (h : At m none D w) : Unheld w :=
  ⟨m, h.any⟩

theorem spec_CreateBuilder (quote : String → String) (cfg : Config) (req : CreateBuilderRequest)
    (count now : Int) :
    Spec (At m none anyDisk) (CreateBuilder quote cfg req count now) (fun _ => Unheld) Unheld := by
  unfold CreateBuilder
  split
  · exact .fail fun _ hw => hw.unheld
  refine ((spec_load (a := none)).result (S := fun _ => At m none anyDisk) (fun _ _ hw => hw.2)
    fun _ _ hw => hw).bind fun r => ?_
  split
  · exact .fail fun _ hw => hw.unheld
  split
  · exact .fail fun _ hw => hw.unheld
  split
  · exact .fail fun _ hw => hw.unheld
  refine ((spec_save _).error fun _ hw => hw.unheld).bind fun _ => ?_
  refine (spec_createDisk.result (S := fun _ => At _ none anyDisk) (fun _ _ hw => hw.any)
    fun _ _ hw => hw).bind fun r => ?_
  split
  · exact .pure fun _ hw => hw.unheld
  · refine ((spec_save _).error fun _ hw => hw.unheld).bind fun _ => ?_
    refine (spec_deleteDisk.error fun _ hw => hw.unheld).bind fun _ => ?_
    exact (spec_remove.error fun _ hw => hw.unheld).bind fun _ => .fail fun _ hw => hw.unheld

/-- What a builder is after `reconcile`. -/
def Durable.Settled (d : Durable) : Prop :=
  d.metadata = none ∧ d.disk = none ∨
    ∃ x, d.metadata = some x ∧ (x.status = .ready ∨ x.status = .error) ∧ d.disk = some []

theorem settled_of_within {x : Metadata} {w : World} (h : At (some x) none (Within True []) w)
    (hx : x.status = .ready ∨ x.status = .error) : w.toDurable.Settled := by
  refine .inr ⟨x, h.metadata, hx, ?_⟩
  obtain ⟨l, hl⟩ := Option.isSome_iff_exists.mp (h.disk.1 True.intro)
  rw [hl, List.subset_nil.mp (h.disk.2 l hl)]

theorem spec_reconcileBuilder : Spec (At m none anyDisk) reconcileBuilder
    (fun _ w => w.toDurable.Settled ∧ Unheld w) Unheld := by
  refine (spec_load.error fun _ hw => hw.unheld).bind fun x => .assume ?_
  rintro rfl
  split
  · refine ((spec_clearStaleAttachments (k := False)).weaken
      (fun _ hw => hw.mono fun _ _ h => h.elim) (fun _ _ hw => hw.any)
      fun _ hw => hw.unheld).bind fun _ => ?_
    refine (spec_DeleteBuilder false .of_none).weaken (fun _ hw => hw) ?_ ?_
    · exact fun _ w hw => ⟨.inl ⟨hw.2.metadata, hw.2.disk⟩, hw.2.unheld⟩
    · rintro w (hw | ⟨-, y, hw⟩)
      · exact hw.unheld
      · exact hw.unheld
  split
  · refine spec_resetDisk.weaken (fun _ hw => hw) ?_ fun w ⟨st, _, hw⟩ => hw.unheld
    exact fun _ w hw => ⟨.inr ⟨_, hw.metadata, .inl rfl, hw.disk⟩, hw.unheld⟩
  next hdel hprune =>
    have hx : x.status = .ready ∨ x.status = .error := by
      cases h : x.status <;> simp_all
    refine (spec_ensureDisk.error fun _ hw => hw.unheld).bind fun _ => ?_
    refine (spec_clearStaleAttachments (k := True)).weaken (fun _ hw => hw.mono fun _ hd _ => hd)
      (fun _ w hw => ⟨settled_of_within hw hx, hw.unheld⟩) fun _ hw => hw.unheld

theorem keeps_run (quote : String → String) (c : Call) : Keeps Unheld (c.run quote) := by
  refine .ofExists fun m => ?_
  cases c with
  | create cfg req count now => exact spec_CreateBuilder quote cfg req count now
  | delete hasBuilds =>
    refine (spec_DeleteBuilder hasBuilds .of_none).weaken (fun _ hw => hw)
      (fun _ _ hw => hw.2.unheld) ?_
    rintro w (hw | ⟨-, y, hw⟩)
    · exact hw.unheld
    · exact hw.unheld
  | reset hasBuilds =>
    exact (spec_ResetDisk hasBuilds).weaken (fun _ hw => hw) (fun _ _ ⟨_, _, _, hw⟩ => hw.unheld)
      fun _ hw => hw.unheld
  | resetDisk =>
    cases m with
    | some x =>
      exact spec_resetDisk.weaken (fun _ hw => hw) (fun _ _ hw => hw.unheld)
        fun _ ⟨_, _, hw⟩ => hw.unheld
    | none => exact (spec_load.error fun _ hw => hw.unheld).bind fun x => .assume nofun
  | reconcile =>
    exact spec_reconcileBuilder.weaken (fun _ hw => hw) (fun _ _ hw => hw.2) fun _ hw => hw

theorem unheld_start {d : Durable} (h : d.Owned) (instances : List String) (outcomes : List Bool) :
    At d.metadata none anyDisk (.start d instances outcomes) :=
  ⟨rfl, rfl, True.intro, h, fun _ he => absurd he List.not_mem_nil⟩

/-- Wherever a sound call is cut off, the disk has metadata. -/
theorem Unheld.durableAfter {w : World} (h : Unheld w) {d : Durable} (hd : d.Owned)
    (crash : Option Nat) : (w.durableAfter d crash).Owned := by
  obtain ⟨m, hw⟩ := h
  unfold World.durableAfter
  split
  · exact hw.owned
  next lost =>
    cases he : (w.log.drop (lost + 1)).head? with
    | none => simpa using hd
    | some e => simpa using (hw.log e (List.mem_of_mem_drop (List.mem_of_mem_head? he))).1

theorem owned_of_reachable {quote : String → String} {b : String → Durable}
    (h : (historySystem quote).Reachable System.Always b) (id : String) : (b id).Owned := by
  refine h.invariant (I := fun b => ∀ id, (b id).Owned)
    (fun _ => by simp [historySystem, Durable.Owned]) ?_ id
  intro b e b' hb _ hs
  cases e with
  | call id c instances outcomes crash =>
    cases hs
    have hrun : Unheld (c.run quote (.start (b id) instances outcomes)).2 := by
      obtain ⟨hok, herr⟩ := keeps_run quote c _ (unheld_start (hb id) instances outcomes).unheld
      cases hres : (c.run quote (.start (b id) instances outcomes)).1 with
      | ok v => exact hok v hres
      | error e => exact herr e hres
    intro id'
    by_cases hid : id' = id
    · subst hid
      simpa using hrun.durableAfter (hb id') crash
    · simpa [hid] using hb id'
  | attachments id attached =>
    cases hs
    intro id'
    by_cases hid : id' = id
    · subst hid
      simpa [Durable.Owned] using hb id'
    · simpa [hid] using hb id'

/-! ## What a reconciliation leaves -/

theorem reconcile_of_not_mem {run : String → List String × List Bool} {ids : List String}
    {b : String → Durable} {id : String} (h : id ∉ ids) : (reconcile run ids b).2 id = b id := by
  induction ids generalizing b with
  | nil => rfl
  | cons x ids ih =>
    obtain ⟨hx, hids⟩ := List.ne_and_not_mem_of_not_mem_cons h
    rw [reconcile, ih hids, Function.update_of_ne hx]

theorem reconcile_settled {run : String → List String × List Bool} {ids : List String}
    (hids : ids.Nodup) {b : String → Durable} (hb : ∀ id, (b id).Owned)
    (h : (reconcile run ids b).1 = true) {id : String} (hid : id ∈ ids) :
    ((reconcile run ids b).2 id).Settled := by
  induction ids generalizing b with
  | nil => cases hid
  | cons x ids ih =>
    obtain ⟨hx, hids⟩ := List.nodup_cons.mp hids
    obtain ⟨hok, herr⟩ := spec_reconcileBuilder _ (unheld_start (hb x) (run x).1 (run x).2)
    rw [reconcile] at h ⊢
    obtain ⟨hres, hrest⟩ := Bool.and_eq_true_iff.mp h
    cases hr : (reconcileBuilder (.start (b x) (run x).1 (run x).2)).1 with
    | error e => simp [hr, Except.toBool] at hres
    | ok v =>
      obtain ⟨hsettled, m, hw⟩ := hok v hr
      rcases List.mem_cons.mp hid with rfl | hid
      · simpa [reconcile_of_not_mem hx] using hsettled
      · refine ih hids (fun id' => ?_) hrest hid
        by_cases heq : id' = x
        · subst heq
          simpa using hw.owned
        · simpa [heq] using hb id'

/-- Whatever calls were made, failed and were cut off by crashes, a reconciliation of all builders
there are that returns no error leaves no builder deleting or pruning, gives every builder its disk
without attachments, and leaves no disk without metadata. -/
theorem reconcile_settles {quote : String → String} {b : String → Durable}
    (h : (historySystem quote).Reachable System.Always b) {ids : List String} (hids : ids.Nodup)
    (hall : ∀ id, id ∈ ids ↔ (b id).metadata.isSome = true)
    {run : String → List String × List Bool} (hok : (reconcile run ids b).1 = true) (id : String) :
    ((reconcile run ids b).2 id).Settled := by
  have howned := owned_of_reachable h
  by_cases hid : id ∈ ids
  · exact reconcile_settled hids howned hok hid
  · rw [reconcile_of_not_mem hid]
    have hm : (b id).metadata = none := by simpa [hall id] using hid
    exact .inl ⟨hm, by simpa [Durable.Owned, hm] using howned id⟩

/-- A creation that was cut off before the disk was made. -/
theorem reconcile_settles_created :
    ∃ b, (historySystem id).Reachable System.Always b ∧
      b "b" = ⟨some ⟨10, .ready, 0, none⟩, none⟩ ∧
      ((reconcile (fun _ => ([], [])) ["b"] b).2 "b").Settled := by
  let d : Durable := ⟨some ⟨10, .ready, 0, none⟩, none⟩
  have hs : (historySystem id).step (historySystem id).init
      (.call "b" (.create ⟨10, 100, 0⟩ ⟨some "b", ∅, 0⟩ 0 0) [] [] (some 0)) =
        some (Function.update (fun _ => ⟨none, none⟩) "b" d) :=
    congrArg (fun d => some (Function.update _ "b" d)) (by decide +kernel)
  have hb : (historySystem id).Reachable System.Always _ := .step .init True.intro hs
  refine ⟨_, hb, by simp [d], reconcile_settles hb (by simp) (fun id => ?_) (by decide +kernel) "b"⟩
  by_cases hid : id = "b" <;> simp [hid, d]

end Hypeman.Builders
