import Hypeman.Foundations.System
import Hypeman.Foundations.Ledger
import Hypeman.EgressProxy.Service

/-!
# Whose rules a source address gets

What the two maps of the service are for: a source address carries the inject rules, secrets
included, of the instance that owns it. The owner is read off the history of calls, as a ledger
(`Owners`): a successful registration hands the address over, an update changes the rules of the
address the instance owns, unregistering ends the ownership.

The maps lose track of the ledger in two ways. A registration whose rules do not compile has
already dropped the policy of the address recorded before, and the record of an instance whose
address was handed to another one stays, so that its later calls change the policy of the new
owner. `CallOk` says when a call does neither.

* `policy_eq_owner_rules`: along every run of such calls the policy of each address is that of its
  owner, and a call leaves alone every address its instance does not own.
* `stale_record_hits_new_owner`: a run that breaks it.
-/

namespace Hypeman.EgressProxy

open Hypeman.Foundations

/-- The calls that change the policies, with the outcome of everything outside the service. -/
inductive Call
  | register (gatewayIP : String) (cfg : InstanceConfig) (listen enforce : Option String)
  | update (instanceID : String) (rules : List HeaderInjectRuleConfig)
  | unregister (instanceID : String) (remove : Option String)

def Call.instanceID : Call → String
  | .register _ cfg _ _ => cfg.instanceID
  | .update id _ => id
  | .unregister id _ => id

variable (lib : GoLib)

def Service.call (s : Service) : Call → Service
  | .register gatewayIP cfg listen enforce =>
    (s.RegisterInstance lib gatewayIP cfg listen enforce).2
  | .update id rules => (s.UpdateInstanceRules lib id rules).2
  | .unregister id remove => (s.UnregisterInstance id remove).2

def proxy (listenPort : Int) (caPEM : String) : System Service Call where
  init := NewService listenPort caPEM
  step s c := some (s.call lib c)

/-! ## Owners -/

/-- The owner of each source address, with the rules of its last successful call. -/
abbrev Owners := Ledger String String (List HeaderInjectRule)

/-- The ledger after a call made in state `s`. -/
def account (l : Owners) (s : Service) : Call → Owners
  | .register gatewayIP cfg listen enforce =>
    match (s.RegisterInstance lib gatewayIP cfg listen enforce).1,
        compileHeaderInjectRules lib cfg.headerInjectRules with
    | .ok _, .ok rules => l.grant cfg.instanceID cfg.sourceIP rules
    | _, _ => l
  | .update id rules =>
    match (s.UpdateInstanceRules lib id rules).1, compileHeaderInjectRules lib rules with
    | .ok _, .ok rules => l.amend id rules
    | _, _ => l
  | .unregister id _ => l.revoke id

def accounted (listenPort : Int) (caPEM : String) : System (Service × Owners) Call :=
  (proxy lib listenPort caPEM).monitored Ledger.empty fun l s c _ => account lib l s c

/-- A registration that gets past the listener and the firewall rules. -/
def Call.passes (s : Service) : Call → Bool
  | .register gatewayIP _ listen enforce =>
    (s.EnsureStarted gatewayIP listen).1.isOk && enforce.isNone
  | _ => true

/-- What a call must find for the policies to follow the owners. It only restricts calls of an
instance for which an address is recorded: a registration that does not compile needs that address
to have no owner, one that moves to another address, as an unregistration, needs it not to be owned
by somebody else, and an update needs the instance to own it. -/
def CallOk (x : Service × Owners) (c : Call) : Prop :=
  match x.1.sourceIPByInstance.lookup c.instanceID with
  | none => True
  | some recorded =>
    match c with
    | .register _ cfg _ _ => c.passes x.1 = true →
      match compileHeaderInjectRules lib cfg.headerInjectRules with
      | .error _ => x.2.holder recorded = none
      | .ok _ => recorded = cfg.sourceIP ∨
          x.2.holder recorded = none ∨ x.2.holder recorded = some cfg.instanceID
    | .update id rules =>
      match compileHeaderInjectRules lib rules with
      | .error _ => True
      | .ok _ => x.2.holder recorded = some id
    | .unregister id _ => x.2.holder recorded = none ∨ x.2.holder recorded = some id

instance (x : Service × Owners) (c : Call) : Decidable (CallOk lib x c) := by
  unfold CallOk
  split
  · infer_instance
  · cases c <;> dsimp only <;> first | infer_instance | (split <;> infer_instance)

/-! ## The maps follow the owners -/

/-- The maps agree with the ledger: policies are those of the owners, and the address an instance
owns is the one recorded for it. -/
structure Follows (s : Service) (l : Owners) : Prop where
  policy : ∀ ip, s.policiesBySourceIP.lookup ip = (l.entry ip).map fun e => ⟨e.2⟩
  recorded : ∀ {ip i r}, l.entry ip = some (i, r) → s.sourceIPByInstance.lookup i = some ip

variable {lib} {s s' : Service} {l : Owners}

/-- Only the two maps matter. -/
theorem Follows.congr (h : Follows s l) (hp : s'.policiesBySourceIP = s.policiesBySourceIP)
    (hr : s'.sourceIPByInstance = s.sourceIPByInstance) : Follows s' l where
  policy ip := by rw [hp, h.policy]
  recorded he := by rw [hr, h.recorded he]

/-- An instance owns no address other than the recorded one. -/
theorem Follows.not_holder (h : Follows s l) {id ip : String}
    (hne : s.sourceIPByInstance.lookup id ≠ some ip) : l.holder ip ≠ some id := by
  intro hh
  obtain ⟨r, hr⟩ := l.holder_eq_some.mp hh
  exact hne (h.recorded hr)

theorem EnsureStarted_maps (s : Service) (gatewayIP : String) (listen : Option String) :
    (s.EnsureStarted gatewayIP listen).2.policiesBySourceIP = s.policiesBySourceIP ∧
      (s.EnsureStarted gatewayIP listen).2.sourceIPByInstance = s.sourceIPByInstance := by
  unfold Service.EnsureStarted
  split
  · split <;> exact ⟨rfl, rfl⟩
  · split <;> exact ⟨rfl, rfl⟩

variable (lib) in
/-- The state and the result of a registration: it fails before the lock and keeps the maps, or it
runs the locked part on a state with the same maps. -/
theorem RegisterInstance_cases (s : Service) (gatewayIP : String) (cfg : InstanceConfig)
    (listen enforce : Option String) :
    ∃ s₁ : Service, s₁.policiesBySourceIP = s.policiesBySourceIP ∧
      s₁.sourceIPByInstance = s.sourceIPByInstance ∧
      (((Call.register gatewayIP cfg listen enforce).passes s = true ∧
          s.RegisterInstance lib gatewayIP cfg listen enforce = s₁.registerLocked lib cfg) ∨
        ∃ err, s.RegisterInstance lib gatewayIP cfg listen enforce = (.error err, s₁)) := by
  have hmaps := EnsureStarted_maps s gatewayIP listen
  refine ⟨(s.EnsureStarted gatewayIP listen).2, hmaps.1, hmaps.2, ?_⟩
  simp only [Service.RegisterInstance, Call.passes]
  rcases s.EnsureStarted gatewayIP listen with ⟨_ | _, s₁⟩
  · exact .inr ⟨_, rfl⟩
  · cases enforce with
    | some err => exact .inr ⟨_, rfl⟩
    | none => exact .inl ⟨rfl, rfl⟩

/-- Dropping the policy of an address without an owner, or of the instance's own address once its
ownership has ended, keeps the maps in step. -/
theorem Follows.lookup_erase_revoke (h : Follows s l) {id recorded : String}
    (hrec : s.sourceIPByInstance.lookup id = some recorded)
    (howner : l.holder recorded = none ∨ l.holder recorded = some id) (ip : String) :
    (s.policiesBySourceIP.erase recorded).lookup ip =
      ((l.revoke id).entry ip).map fun e => ⟨e.2⟩ := by
  rw [Table.lookup_erase, l.entry_revoke]
  by_cases hip : ip = recorded
  · subst hip
    rw [if_pos rfl]
    rcases howner with hn | hs
    · rw [if_neg (by rw [hn]; exact nofun), l.holder_eq_none.mp hn, Option.map_none]
    · rw [if_pos hs, Option.map_none]
  · have hne : l.holder ip ≠ some id := h.not_holder (by
      rw [hrec]
      exact fun he => hip (Option.some.inj he).symm)
    rw [if_neg hip, if_neg hne, h.policy]

theorem Follows.recorded_revoke (h : Follows s l) {id ip i : String} {r : List HeaderInjectRule}
    (he : (l.revoke id).entry ip = some (i, r)) :
    i ≠ id ∧ s.sourceIPByInstance.lookup i = some ip := by
  rw [l.entry_revoke] at he
  split at he
  · cases he
  · next hne =>
    refine ⟨?_, h.recorded he⟩
    rintro rfl
    exact hne (l.holder_eq_some.mpr ⟨_, he⟩)

theorem Follows.revoke_of_unrecorded (h : Follows s l) {id : String}
    (hrec : s.sourceIPByInstance.lookup id = none) (ip : String) :
    (l.revoke id).entry ip = l.entry ip := by
  have hne : l.holder ip ≠ some id := h.not_holder (by rw [hrec]; exact nofun)
  exact l.entry_revoke_of_ne hne

/-- The locked part of a registration that compiles. -/
theorem Follows.registerLocked (h : Follows s l) {cfg : InstanceConfig}
    {rules : List HeaderInjectRule}
    (hc : compileHeaderInjectRules lib cfg.headerInjectRules = .ok rules)
    (hok : ∀ recorded, s.sourceIPByInstance.lookup cfg.instanceID = some recorded →
      recorded = cfg.sourceIP ∨ l.holder recorded = none ∨
        l.holder recorded = some cfg.instanceID) :
    (∃ g, (s.registerLocked lib cfg).1 = .ok g) ∧
      Follows (s.registerLocked lib cfg).2 (l.grant cfg.instanceID cfg.sourceIP rules) := by
  -- outside the new address, the policies left are those of the ledger without the instance
  have left : ∀ ip, ip ≠ cfg.sourceIP →
      (s.registerLocked lib cfg).2.policiesBySourceIP.lookup ip =
        ((l.revoke cfg.instanceID).entry ip).map fun e => ⟨e.2⟩ := by
    intro ip hip
    simp only [Service.registerLocked, hc]
    rw [Table.lookup_insert, if_neg hip]
    cases hrec : s.sourceIPByInstance.lookup cfg.instanceID with
    | none => rw [h.revoke_of_unrecorded hrec, h.policy]
    | some recorded =>
      rcases hok recorded hrec with rfl | howner
      · have hne : l.holder ip ≠ some cfg.instanceID := h.not_holder (by
          rw [hrec]
          exact fun he => hip (Option.some.inj he).symm)
        rw [Table.lookup_erase, if_neg hip, l.entry_revoke_of_ne hne, h.policy]
      · exact h.lookup_erase_revoke hrec howner ip
  have hrecords : (s.registerLocked lib cfg).2.sourceIPByInstance =
      s.sourceIPByInstance.insert cfg.instanceID cfg.sourceIP := by
    simp only [Service.registerLocked, hc]
    split <;> rfl
  refine ⟨⟨_, by simp only [Service.registerLocked, hc]; rfl⟩, ?_, ?_⟩
  · intro ip
    rw [l.entry_grant]
    split
    · next hip =>
      simp only [Service.registerLocked, hc]
      rw [Table.lookup_insert, if_pos hip, Option.map_some]
    · next hip => exact left ip hip
  · intro ip i r he
    rw [hrecords, Table.lookup_insert]
    rw [l.entry_grant] at he
    split at he
    · next hip =>
      cases he
      rw [if_pos rfl, hip]
    · obtain ⟨hne, hrec⟩ := h.recorded_revoke he
      rw [if_neg hne, hrec]

/-- The locked part of a registration that does not compile. -/
theorem Follows.registerLocked_error (h : Follows s l) {cfg : InstanceConfig} {err : String}
    (hc : compileHeaderInjectRules lib cfg.headerInjectRules = .error err)
    (hok : ∀ recorded, s.sourceIPByInstance.lookup cfg.instanceID = some recorded →
      l.holder recorded = none) :
    (s.registerLocked lib cfg).1 = .error err ∧ Follows (s.registerLocked lib cfg).2 l := by
  simp only [Service.registerLocked, hc]
  refine ⟨trivial, ?_⟩
  split
  · next recorded hrec =>
    refine ⟨fun ip => ?_, fun he => h.recorded he⟩
    rw [Table.lookup_erase]
    split
    · next hip => rw [hip, l.holder_eq_none.mp (hok recorded hrec), Option.map_none]
    · exact h.policy ip
  · exact h

theorem Follows.updateInstanceRules (h : Follows s l) {id ip : String}
    {rules : List HeaderInjectRule} (hrec : s.sourceIPByInstance.lookup id = some ip)
    (howner : l.holder ip = some id) :
    Follows { s with policiesBySourceIP := s.policiesBySourceIP.insert ip ⟨rules⟩ }
      (l.amend id rules) where
  policy a := by
    rw [Table.lookup_insert, l.entry_amend]
    by_cases ha : a = ip
    · rw [if_pos ha, if_pos (by rw [ha, howner]), Option.map_some]
    · have hne : l.holder a ≠ some id := h.not_holder (by
        rw [hrec]
        exact fun he => ha (Option.some.inj he).symm)
      rw [if_neg ha, if_neg hne, h.policy]
  recorded := by
    intro a i r he
    rw [l.entry_amend] at he
    split at he
    · next hh =>
      cases he
      obtain ⟨r', hr'⟩ := l.holder_eq_some.mp hh
      exact h.recorded hr'
    · exact h.recorded he

/-- An unregistration drops the address of the instance: nobody else may own it. -/
theorem Follows.unregisterInstance (h : Follows s l) {id : String} (remove : Option String)
    (howner : ∀ {ip}, s.sourceIPByInstance.lookup id = some ip →
      l.holder ip = none ∨ l.holder ip = some id) :
    Follows (s.UnregisterInstance id remove).2 (l.revoke id) := by
  unfold Service.UnregisterInstance
  cases hrec : s.sourceIPByInstance.lookup id with
  | none =>
    have hmaps : Follows s (l.revoke id) := by
      refine ⟨fun ip => ?_, fun he => (h.recorded_revoke he).2⟩
      rw [h.revoke_of_unrecorded hrec, h.policy]
    cases remove <;> exact hmaps
  | some ip =>
    have hmaps : Follows { s with
        sourceIPByInstance := s.sourceIPByInstance.erase id
        policiesBySourceIP := s.policiesBySourceIP.erase ip } (l.revoke id) := by
      refine ⟨h.lookup_erase_revoke hrec (howner hrec), ?_⟩
      intro a i r he
      obtain ⟨hne, hi⟩ := h.recorded_revoke he
      rw [Table.lookup_erase, if_neg hne, hi]
    cases remove <;> exact hmaps

/-- **One call.** A call that meets `CallOk` keeps the maps in step with the ledger. -/
theorem Follows.call (h : Follows s l) {c : Call} (hok : CallOk lib (s, l) c) :
    Follows (s.call lib c) (account lib l s c) := by
  unfold CallOk at hok
  cases c with
  | register gatewayIP cfg listen enforce =>
    simp only [Service.call, account]
    obtain ⟨s₁, hp, hr, ⟨hpass, heq⟩ | ⟨err, heq⟩⟩ :=
      RegisterInstance_cases lib s gatewayIP cfg listen enforce
    · have h₁ : Follows s₁ l := h.congr hp hr
      rw [heq]
      cases hc : compileHeaderInjectRules lib cfg.headerInjectRules with
      | error err =>
        have herr := h₁.registerLocked_error hc (by
          intro recorded hrec
          rw [hr] at hrec
          simpa only [Call.instanceID, hrec, hc, hpass, forall_const] using hok)
        rw [herr.1]
        exact herr.2
      | ok rules =>
        obtain ⟨⟨g, hg⟩, hf⟩ := h₁.registerLocked hc (by
          intro recorded hrec
          rw [hr] at hrec
          simpa only [Call.instanceID, hrec, hc, hpass, forall_const] using hok)
        rw [hg]
        exact hf
    · rw [heq]
      exact h.congr hp hr
  | update id rules =>
    simp only [Service.call, account, Service.UpdateInstanceRules]
    cases hrec : s.sourceIPByInstance.lookup id with
    | none => exact h
    | some ip =>
      cases hc : compileHeaderInjectRules lib rules with
      | error err => exact h
      | ok compiled =>
        have howner : l.holder ip = some id := by
          simpa only [Call.instanceID, hrec, hc] using hok
        exact h.updateInstanceRules hrec howner
  | unregister id remove =>
    refine h.unregisterInstance remove ?_
    intro ip hrec
    simpa only [Call.instanceID, hrec] using hok

/-- **Whole runs.** The maps follow the owners in every state reached by calls that meet
`CallOk`. -/
theorem reachable_follows {listenPort : Int} {caPEM : String} {x : Service × Owners}
    (h : (accounted lib listenPort caPEM).Reachable (CallOk lib) x) : Follows x.1 x.2 := by
  refine h.invariant (I := fun x => Follows x.1 x.2) ?_ ?_
  · exact ⟨fun _ => rfl, nofun⟩
  · intro x c y hx hok hstep
    obtain ⟨hs, hl⟩ := System.monitored_step_iff.mp hstep
    have hcall : x.1.call lib c = y.1 := Option.some.inj hs
    rw [hl, ← hcall]
    exact hx.call hok

/-- A call changes the ledger only where its instance is the owner, before or after. -/
theorem account_entry_of_ne {c : Call} {ip : String} (h : l.holder ip ≠ some c.instanceID)
    (h' : (account lib l s c).holder ip ≠ some c.instanceID) :
    (account lib l s c).entry ip = l.entry ip := by
  cases c with
  | register gatewayIP cfg listen enforce =>
    simp only [account] at h' ⊢
    split
    · next hr hc =>
      rw [hr, hc] at h'
      exact l.entry_grant_of_ne h h'
    · rfl
  | update id rules =>
    simp only [account]
    split
    · exact l.entry_amend_of_ne h
    · rfl
  | unregister id remove => exact l.entry_revoke_of_ne h

/-- **The policy of a source address is that of its owner.** Along every run of calls that meet
`CallOk`, the policy consulted for an address is the rules of its owner's last successful call,
there is none for an address without an owner, and the next such call changes no policy of an
address that its instance owns neither before nor after. -/
theorem policy_eq_owner_rules {listenPort : Int} {caPEM : String} {x : Service × Owners}
    (h : (accounted lib listenPort caPEM).Reachable (CallOk lib) x) :
    (∀ ip, x.1.policiesBySourceIP.lookup ip = (x.2.entry ip).map fun e => ⟨e.2⟩) ∧
      ∀ c, CallOk lib x c → ∀ ip, x.2.holder ip ≠ some c.instanceID →
        (account lib x.2 x.1 c).holder ip ≠ some c.instanceID →
          (x.1.call lib c).policiesBySourceIP.lookup ip = x.1.policiesBySourceIP.lookup ip := by
  have hx := reachable_follows h
  refine ⟨hx.policy, fun c hok ip hbefore hafter => ?_⟩
  rw [(hx.call hok).policy, hx.policy, account_entry_of_ne hbefore hafter]

/-- A library under which every header name is canonical, no host has a port and none is an
address: enough to run calls whose rules list no domains. -/
def plainLib : GoLib where
  splitHostPort _ := none
  parseIP _ := none
  toLower := id
  canonicalMIMEHeaderKey := id
  quote := id

/-- An instance that sends a bearer token from the address `ip`. -/
def tokenConfig (id ip token : String) : InstanceConfig where
  instanceID := id
  sourceIP := ip
  headerInjectRules := [⟨"Authorization", "Bearer " ++ token, []⟩]

/-- Instance `a` registers and moves to another address, `b` takes over the first one, and `a`
unregisters. -/
def movingRun : List Call :=
  [.register "10.0.0.1" (tokenConfig "a" "10.0.0.5" "ta") none none,
   .register "10.0.0.1" (tokenConfig "a" "10.0.0.6" "ta") none none,
   .register "10.0.0.1" (tokenConfig "b" "10.0.0.5" "tb") none none,
   .unregister "a" none]

theorem policy_eq_owner_rules_movingRun :
    ∃ x, (accounted plainLib 0 "").Reachable (CallOk plainLib) x ∧
      x.2.entry "10.0.0.5" = some ("b", [⟨"Authorization", "Bearer tb", []⟩]) ∧
      ∀ ip, x.1.policiesBySourceIP.lookup ip = (x.2.entry ip).map fun e => ⟨e.2⟩ := by
  obtain ⟨x, hx, he⟩ := (accounted plainLib 0 "").exists_reachable_of_replay (CallOk plainLib)
    (fun x => x.2.entry "10.0.0.5" = some ("b", [⟨"Authorization", "Bearer tb", []⟩]))
    movingRun (by decide)
  exact ⟨x, hx, he, (policy_eq_owner_rules hx).1⟩

/-- Instance `b` is given the address of `a`, which is still recorded for `a`, and then `a`
unregisters. -/
def reuseRun : List Call :=
  [.register "10.0.0.1" (tokenConfig "a" "10.0.0.5" "ta") none none,
   .register "10.0.0.1" (tokenConfig "b" "10.0.0.5" "tb") none none,
   .unregister "a" none]

/-- **A stale record hits the new owner.** After `reuseRun` instance `b` owns its address and no
policy is left for it. -/
theorem stale_record_hits_new_owner :
    ¬ ∀ x, (accounted plainLib 0 "").Reachable System.Always x →
      ∀ ip, x.1.policiesBySourceIP.lookup ip = (x.2.entry ip).map fun e => ⟨e.2⟩ := by
  obtain ⟨x, hx, hbad⟩ := (accounted plainLib 0 "").exists_reachable_of_replay System.Always
    (fun x => x.1.policiesBySourceIP.lookup "10.0.0.5" ≠
      (x.2.entry "10.0.0.5").map fun e => ⟨e.2⟩)
    reuseRun (by decide)
  exact fun h => hbad (h x hx "10.0.0.5")

-- a registration that fails to compile also loses the policy of the instance's own address
example : ((accounted plainLib 0 "").replay System.Always
    [.register "10.0.0.1" (tokenConfig "a" "10.0.0.5" "ta") none none,
     .register "10.0.0.1" ⟨"a", "10.0.0.5", [⟨"Authorization", "Bearer ta", [""]⟩]⟩ none none]).map
      (fun x => (x.1.policiesBySourceIP.lookup "10.0.0.5", x.2.holder "10.0.0.5")) =
    some (none, some "a") := by decide

end Hypeman.EgressProxy
