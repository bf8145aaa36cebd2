import Mathlib.Data.List.Sort
import Mathlib.Data.String.Basic
import Hypeman.Foundations.Strings
import Hypeman.Foundations.System

/-!
# Creating and deleting ingresses

Model of `Create` and `Delete` (`lib/ingress/manager.go`) with the files of the ingresses
(`lib/ingress/storage.go`). Three things are changed one after the other: the stored ingresses, the
configuration that is live in Caddy and the configuration file. `Create` changes Caddy first and
does not change it back; `Delete` removes the ingress first and does not restore it.

* `Current`: the live configuration is one that is generated from the stored ingresses.
* `failed_call_iff`: a call that fails leaves the stored ingresses as they were and the live
  configuration current exactly if it does not fail after one of these changes.
* `save_fails_after_reload`: a call that does.
* `stored_disjoint`: no two stored ingresses share a host name and a port, after any calls.
-/

namespace Hypeman.Ingresses

open Foundations Foundations.Strings

structure IngressRule where
  hostname : String
  port : Int := 0
  targetInstance : String := ""
  targetPort : Int := 0
  tls : Bool := false
  redirectHTTP : Bool := false
  requestHeaderAuth : Option (String × String) := none
deriving DecidableEq

def IngressRule.getPort (r : IngressRule) : Int := if r.port = 0 then 80 else r.port

/-- `Ingress`, without tags and the time of its creation. -/
structure Ingress where
  id : String
  name : String
  rules : List IngressRule
deriving DecidableEq

structure CreateIngressRequest where
  name : String
  rules : List IngressRule

/-- What `Create` and `Delete` call and what they do not change. -/
structure IngressLib (Config : Type) where
  /-- `Validate` and `isValidName`. -/
  checkRequest : CreateIngressRequest → Except String Unit
  /-- The checks of TLS and of the host names of the API, and the resolution of the targets. -/
  resolveRules : List IngressRule → Except String (List IngressRule)
  generateConfig : List Ingress → Except String Config
  quote : String → String

/-- What validation, resolution and the generator (`lib/ingress/config.go`) do with the rules: a
request that is accepted has rules, all with host names that can be served, resolving keeps the host
names, and a configuration has one route to instances for every rule with such a host name. -/
structure IngressLib.Laws {Config : Type} (lib : IngressLib Config) where
  servable : String → Bool
  routes : Config → ℕ
  accepted (req : CreateIngressRequest) : lib.checkRequest req = .ok () →
    req.rules ≠ [] ∧ ∀ rule ∈ req.rules, servable rule.hostname = true
  resolved (rules rules' : List IngressRule) : lib.resolveRules rules = .ok rules' →
    rules'.map (·.hostname) = rules.map (·.hostname)
  routes_eq (ingresses : List Ingress) (config : Config) :
    lib.generateConfig ingresses = .ok config →
      routes config = (ingresses.flatMap (·.rules.map (·.hostname))).countP servable

/-- The stored ingresses in the order of their files, the configuration that is live in Caddy if it
runs, and the configuration file. -/
structure IngressState (Config : Type) where
  stored : List Ingress
  live : Option Config
  file : Option Config
deriving DecidableEq

variable {Config : Type} (lib : IngressLib Config) (s : IngressState Config)

/-! ## The calls they make -/

/-- `saveIngress` of a new ingress. -/
def IngressState.saveIngress (ingress : Ingress) : IngressState Config :=
  { s with stored := s.stored.orderedInsert (fun a b => a.id ≤ b.id) ingress }

def IngressState.deleteIngressData (id : String) : IngressState Config :=
  { s with stored := s.stored.filter (·.id ≠ id) }

/-- How Caddy answers: whether `IsRunning` reaches it, the error of the reload, and whether the
configuration was applied in spite of the error. -/
structure CaddyAnswer where
  responds : Bool := true
  err : Option String := none
  appliedAnyway : Bool := false

def CaddyAnswer.tried (a : CaddyAnswer) : Bool := s.live.isSome && a.responds

def CaddyAnswer.error (a : CaddyAnswer) : Option String := if a.tried s then a.err else none

def CaddyAnswer.applies (a : CaddyAnswer) : Bool :=
  a.tried s && (a.err.isNone || a.appliedAnyway)

/-- `ReloadConfig`, if Caddy is running. -/
def IngressState.reloadConfig (config : Config) (a : CaddyAnswer) : IngressState Config :=
  if a.applies s then { s with live := some config } else s

/-- The first rule whose host name and port an ingress has already. -/
def hostnameConflict (rules : List IngressRule) : Option String :=
  rules.findSome? fun rule => s.stored.findSome? fun existing => existing.rules.findSome? fun r =>
    if r.hostname = rule.hostname ∧ r.getPort = rule.getPort then
      some (s!"hostname already in use by another ingress: hostname {lib.quote rule.hostname} " ++
        s!"on port {rule.getPort} is already used by ingress {lib.quote existing.name}")
    else none

/-- `resolveIngress`; `listing` is the error of listing the directory. -/
def resolveIngress (listing : Option String) (idOrName : String) : Except String Ingress :=
  match s.stored.find? (·.id == idOrName) with
  | some ingress => .ok ingress
  | none =>
    match listing with
    | some err => .error err
    | none =>
      match s.stored.filter (·.name == idOrName) with
      | [ingress] => .ok ingress
      | _ :: _ :: _ => .error ambiguous
      | [] =>
        match s.stored.filter fun i => idOrName != "" && hasPrefix i.id idOrName with
        | [ingress] => .ok ingress
        | _ :: _ :: _ => .error ambiguous
        | [] => .error "ingress not found"
where
  ambiguous : String := "ambiguous ingress identifier matches multiple ingresses"

/-! ## The procedures -/

/-- What the calls of `Create` answer; `cleanup` is the error of removing the ingress again. -/
structure CreateOutcome where
  find : Option String := none
  load : Option String := none
  caddy : CaddyAnswer := {}
  save : Option String := none
  write : Option String := none
  cleanup : Option String := none

/-- `Create` up to the generated configuration, with the resolved rules. -/
def prepareCreate (id : String) (req : CreateIngressRequest) (o : CreateOutcome) :
    Except String (List IngressRule × Config) := do
  lib.checkRequest req
  if o.find.isNone && s.stored.any (·.name == req.name) then
    throw s!"ingress already exists: ingress with name {lib.quote req.name} already exists"
  let rules ← lib.resolveRules req.rules
  if let some err := o.load then throw s!"load existing ingresses: {err}"
  if let some err := hostnameConflict lib s rules then throw err
  match lib.generateConfig (s.stored ++ [⟨id, req.name, rules⟩]) with
  | .error err => throw s!"generate config: {err}"
  | .ok config => return (rules, config)

/-- `Create`; the id is the one that was generated. -/
def create (id : String) (req : CreateIngressRequest) (o : CreateOutcome) :
    Option String × IngressState Config :=
  match prepareCreate lib s id req o with
  | .error err => (some err, s)
  | .ok (rules, config) =>
    let s₁ := s.reloadConfig config o.caddy
    match o.caddy.error s, o.save, o.write with
    | some err, _, _ => (some s!"config validation failed: {err}", s₁)
    | none, some err, _ => (some s!"save ingress: {err}", s₁)
    | none, none, some err =>
      let s₂ := s₁.saveIngress ⟨id, req.name, rules⟩
      (some s!"write config: {err}", if o.cleanup.isNone then s₂.deleteIngressData id else s₂)
    | none, none, none => (none, { s₁.saveIngress ⟨id, req.name, rules⟩ with file := some config })

/-- What the calls of `Delete` answer. -/
structure DeleteOutcome where
  listing : Option String := none
  remove : Option String := none
  load : Option String := none
  caddy : CaddyAnswer := {}
  write : Option String := none

def delete (idOrName : String) (o : DeleteOutcome) : Option String × IngressState Config :=
  match resolveIngress s o.listing idOrName with
  | .error err => (some err, s)
  | .ok ingress =>
    match o.remove with
    | some err => (some s!"delete ingress data: {err}", s)
    | none =>
      let s₁ := s.deleteIngressData ingress.id
      match o.load, lib.generateConfig s₁.stored with
      | some err, _ => (some s!"load ingresses: {err}", s₁)
      | none, .error err => (some s!"generate config: {err}", s₁)
      | none, .ok config =>
        let s₂ := s₁.reloadConfig config o.caddy
        match o.caddy.error s with
        | some _ => (some "config validation failed", s₂)
        | none => (none, if o.write.isNone then { s₂ with file := some config } else s₂)

/-! ## Calls that fail -/

/-- The configuration is generated from the stored ingresses, in some order. -/
def FromStored (config : Config) : Prop :=
  ∃ order, order.Perm s.stored ∧ lib.generateConfig order = .ok config

/-- The live configuration is generated from the stored ingresses. -/
def Current : Prop := ∀ config ∈ s.live, FromStored lib s config

/-- A call, with what the calls it makes answer. -/
inductive Call
  | create (id : String) (req : CreateIngressRequest) (o : CreateOutcome)
  | delete (idOrName : String) (o : DeleteOutcome)

def Call.run : Call → Option String × IngressState Config
  | .create id req o => Ingresses.create lib s id req o
  | .delete idOrName o => Ingresses.delete lib s idOrName o

/-- The id of a new ingress is new. -/
def Call.Fresh : Call → Prop
  | .create id _ _ => ∀ ingress ∈ s.stored, ingress.id ≠ id
  | .delete _ _ => True

/-- A call that fails leaves the stored ingresses, and the live configuration current. -/
def Call.Undone (call : Call) : Prop :=
  (call.run lib s).1.isSome = true →
    (call.run lib s).2.stored = s.stored ∧ Current lib (call.run lib s).2

/-- The call does not fail after a change that it does not take back. -/
def Call.FailsEarly : Call → Prop
  | .create id req o => (prepareCreate lib s id req o).isOk = true →
      ((o.caddy.error s).isSome || o.save.isSome || o.write.isSome) = true →
      o.caddy.applies s = false ∧ (o.caddy.error s = none → o.save = none → o.cleanup = none)
  | .delete idOrName o => ∀ ingress, resolveIngress s o.listing idOrName = .ok ingress →
      o.remove = none → o.load = none ∧ o.caddy.error s = none ∧
        ∃ config, lib.generateConfig (s.deleteIngressData ingress.id).stored = .ok config

variable {lib s}

theorem stored_reloadConfig (config : Config) (a : CaddyAnswer) :
    (s.reloadConfig config a).stored = s.stored := by
  unfold IngressState.reloadConfig
  split <;> rfl

theorem current_of_eq {s' : IngressState Config} (h : Current lib s)
    (hstored : s'.stored = s.stored) (hlive : s'.live = s.live) : Current lib s' := by
  rw [Current, hlive]
  unfold FromStored
  rw [hstored]
  exact h

/-- After a reload the live configuration is current if the new one is generated from the stored
ingresses, or has not been applied. -/
theorem current_reloadConfig_iff {s' : IngressState Config} (h : Current lib s) (config : Config)
    (a : CaddyAnswer) (hstored : s'.stored = s.stored)
    (hlive : s'.live = (s.reloadConfig config a).live) :
    Current lib s' ↔ (a.applies s = true → FromStored lib s config) := by
  by_cases happ : a.applies s = true
  · rw [IngressState.reloadConfig, if_pos happ] at hlive
    simp only [Current, hlive, Option.mem_some_iff, forall_eq', FromStored, hstored, happ,
      forall_const]
  · rw [IngressState.reloadConfig, if_neg happ] at hlive
    exact ⟨fun _ happ' => absurd happ' happ, fun _ => current_of_eq h hstored hlive⟩

/-- A new ingress that is removed again leaves no trace. -/
theorem deleteIngressData_saveIngress {ingress : Ingress}
    (hfresh : ∀ i ∈ s.stored, i.id ≠ ingress.id) :
    ((s.saveIngress ingress).deleteIngressData ingress.id).stored = s.stored := by
  simp only [IngressState.saveIngress, IngressState.deleteIngressData,
    List.orderedInsert_eq_take_drop, List.filter_append, List.filter_cons]
  rw [if_neg (by simp), ← List.filter_append, List.takeWhile_append_dropWhile,
    List.filter_eq_self]
  simpa using hfresh

theorem mem_of_resolveIngress {listing : Option String} {idOrName : String} {ingress : Ingress}
    (h : resolveIngress s listing idOrName = .ok ingress) : ingress ∈ s.stored := by
  have hfilter : ∀ {p : Ingress → Bool} {i : Ingress}, s.stored.filter p = [i] → i ∈ s.stored := by
    intro p i hp
    exact List.mem_of_mem_filter (hp ▸ List.mem_singleton_self i)
  unfold resolveIngress at h
  split at h
  next i hfind =>
    cases h
    exact List.mem_of_find?_eq_some hfind
  next =>
    split at h
    · cases h
    split at h
    next hname =>
      cases h
      exact hfilter hname
    · cases h
    split at h
    next hid =>
      cases h
      exact hfilter hid
    · cases h
    · cases h

theorem length_saveIngress (ingress : Ingress) :
    (s.saveIngress ingress).stored.length = s.stored.length + 1 :=
  List.orderedInsert_length _ _ _

theorem prepareCreate_ok {id : String} {req : CreateIngressRequest} {o : CreateOutcome}
    {rules : List IngressRule} {config : Config}
    (h : prepareCreate lib s id req o = .ok (rules, config)) :
    lib.checkRequest req = .ok () ∧ lib.resolveRules req.rules = .ok rules ∧
      hostnameConflict lib s rules = none ∧
      lib.generateConfig (s.stored ++ [⟨id, req.name, rules⟩]) = .ok config := by
  simp only [prepareCreate, bind, Except.bind, pure, Except.pure, throw, throwThe,
    MonadExceptOf.throw] at h
  split at h
  · cases h
  next hcheck =>
  split at h
  · cases h
  split at h
  · cases h
  next hresolve =>
  split at h
  · cases h
  split at h
  · cases h
  next hfree =>
  split at h
  · cases h
  next hgenerate =>
  cases h
  exact ⟨hcheck, hresolve, Option.eq_none_iff_forall_ne_some.mpr hfree, hgenerate⟩

/-- The configuration with the new ingress has a route more than any that the stored ones give. -/
theorem IngressLib.Laws.not_fromStored (laws : lib.Laws) {id : String} {req : CreateIngressRequest}
    {o : CreateOutcome} {rules : List IngressRule} {config : Config}
    (h : prepareCreate lib s id req o = .ok (rules, config)) : ¬ FromStored lib s config := by
  obtain ⟨hcheck, hresolve, -, hgenerate⟩ := prepareCreate_ok h
  rintro ⟨order, hperm, horder⟩
  obtain ⟨hne, hservable⟩ := laws.accepted _ hcheck
  have hroutes := laws.routes_eq _ _ hgenerate
  rw [laws.routes_eq _ _ horder, List.flatMap_append, List.countP_append, List.flatMap_singleton,
    laws.resolved _ _ hresolve, (hperm.flatMap_right _).countP_eq,
    List.countP_eq_length (l := req.rules.map _) |>.mpr (by simpa using hservable)] at hroutes
  rw [List.length_map] at hroutes
  have hlength := List.length_pos_iff.mpr hne
  omega

theorem create_undone_iff (laws : lib.Laws) (h : Current lib s) {id : String}
    (req : CreateIngressRequest)
    (o : CreateOutcome) (hfresh : Call.Fresh s (.create id req o)) :
    Call.Undone lib s (.create id req o) ↔ Call.FailsEarly lib s (.create id req o) := by
  simp only [Call.Undone, Call.FailsEarly, Call.run, create]
  cases hprepare : prepareCreate lib s id req o with
  | error err => simp [h, Except.isOk, Except.toBool]
  | ok prepared =>
    obtain ⟨rules, config⟩ := prepared
    have hstored := stored_reloadConfig (s := s) config o.caddy
    have hnew := laws.not_fromStored hprepare
    simp only [Except.isOk, Except.toBool, forall_const]
    cases herr : o.caddy.error s with
    | some err => simp [hstored, current_reloadConfig_iff h config o.caddy hstored rfl, hnew]
    | none =>
      cases hsave : o.save with
      | some err => simp [hstored, current_reloadConfig_iff h config o.caddy hstored rfl, hnew]
      | none =>
        cases hwrite : o.write with
        | none => simp
        | some err =>
          let s₁ := s.reloadConfig config o.caddy
          let s₂ := s₁.saveIngress ⟨id, req.name, rules⟩
          cases hcleanup : o.cleanup with
          | none =>
            have hremoved : (s₂.deleteIngressData id).stored = s.stored :=
              (deleteIngressData_saveIngress (by rw [hstored]; exact hfresh)).trans hstored
            simp [s₁, s₂, hremoved, current_reloadConfig_iff h config o.caddy hremoved rfl, hnew]
          | some err =>
            have hkept : s₂.stored ≠ s.stored := by
              intro heq
              have hlength : s₂.stored.length = s₁.stored.length + 1 := length_saveIngress _
              rw [heq, show s₁.stored = s.stored from hstored] at hlength
              omega
            simp [s₁, s₂, hkept]

theorem delete_undone_iff (h : Current lib s) (idOrName : String) (o : DeleteOutcome) :
    Call.Undone lib s (.delete idOrName o) ↔ Call.FailsEarly lib s (.delete idOrName o) := by
  simp only [Call.Undone, Call.FailsEarly, Call.run, delete]
  cases hresolve : resolveIngress s o.listing idOrName with
  | error err => simp [h]
  | ok ingress =>
    cases hremove : o.remove with
    | some err => simp [h]
    | none =>
      -- the ingress is gone, whatever fails from here on
      have hgone : (s.deleteIngressData ingress.id).stored ≠ s.stored := by
        intro heq
        have hmem := heq ▸ mem_of_resolveIngress hresolve
        simp [IngressState.deleteIngressData] at hmem
      cases hload : o.load with
      | some err => simp [hgone]
      | none =>
        cases hgenerate : lib.generateConfig (s.deleteIngressData ingress.id).stored with
        | error err => simp [hgone, hgenerate]
        | ok config =>
          cases herr : o.caddy.error s with
          | some err => simp [hgenerate, stored_reloadConfig, hgone]
          | none => simp [hgenerate]

/-- A call of `Create` or `Delete` that fails leaves the stored ingresses as they were, and Caddy
with a configuration generated from them, if and only if it does not fail after a change that it
does not take back. -/
theorem failed_call_iff (laws : lib.Laws) (h : Current lib s) (call : Call)
    (hfresh : call.Fresh s) :
    call.Undone lib s ↔ call.FailsEarly lib s := by
  cases call with
  | create id req o => exact create_undone_iff laws h req o hfresh
  | delete idOrName o => exact delete_undone_iff h idOrName o

/-! ## Histories of calls -/

variable (lib) in
/-- Any calls from the first start on, with any answers. -/
def ingressSystem (live : Option Config) : System (IngressState Config) Call where
  init := ⟨[], live, none⟩
  step s call := some (call.run lib s).2

/-- No rule of the one ingress has the host name and the port of a rule of the other. -/
def Ingress.Disjoint (a b : Ingress) : Prop :=
  ∀ r ∈ a.rules, ∀ r' ∈ b.rules, ¬ (r.hostname = r'.hostname ∧ r.getPort = r'.getPort)

theorem Ingress.Disjoint.symm {a b : Ingress} (h : a.Disjoint b) : b.Disjoint a :=
  fun r hr r' hr' hsame => h r' hr' r hr ⟨hsame.1.symm, hsame.2.symm⟩

theorem disjoint_of_prepareCreate {id name : String} {req : CreateIngressRequest}
    {o : CreateOutcome} {rules : List IngressRule} {config : Config}
    (h : prepareCreate lib s id req o = .ok (rules, config)) {existing : Ingress}
    (hmem : existing ∈ s.stored) : existing.Disjoint ⟨id, name, rules⟩ := by
  have hnone := (prepareCreate_ok h).2.2.1
  intro r hr rule hrule hsame
  simp only [hostnameConflict, List.findSome?_eq_none_iff] at hnone
  have hrule' := hnone rule hrule existing hmem r hr
  rw [if_pos hsame] at hrule'
  cases hrule'

/-- What is stored after a call was stored before, but for one ingress that is disjoint from all. -/
theorem stored_run (call : Call) : (call.run lib s).2.stored.Subperm s.stored ∨
    ∃ new, (call.run lib s).2.stored.Subperm (new :: s.stored) ∧
      ∀ i ∈ s.stored, i.Disjoint new := by
  cases call with
  | create id req o =>
    simp only [Call.run, create]
    cases hprepare : prepareCreate lib s id req o with
    | error err => exact .inl (.refl _)
    | ok prepared =>
    obtain ⟨rules, config⟩ := prepared
    refine .inr ⟨⟨id, req.name, rules⟩, ?_, fun i => disjoint_of_prepareCreate hprepare⟩
    have hkept : (s.reloadConfig config o.caddy).stored.Subperm
        (⟨id, req.name, rules⟩ :: s.stored) := by
      rw [stored_reloadConfig]
      exact (List.sublist_cons_self _ _).subperm
    have hsaved : ((s.reloadConfig config o.caddy).saveIngress ⟨id, req.name, rules⟩).stored.Subperm
        (⟨id, req.name, rules⟩ :: s.stored) := by
      rw [IngressState.saveIngress, stored_reloadConfig]
      exact (List.perm_orderedInsert _ _ _).subperm
    dsimp only
    split
    · exact hkept
    · exact hkept
    · split
      · exact List.filter_sublist.subperm.trans hsaved
      · exact hsaved
    · exact hsaved
  | delete idOrName o =>
    refine .inl ?_
    have hdeleted (id : String) : (s.deleteIngressData id).stored.Subperm s.stored :=
      List.filter_sublist.subperm
    simp only [Call.run, delete]
    split
    · exact .refl _
    split
    · exact .refl _
    split
    · exact hdeleted _
    · exact hdeleted _
    split
    · rw [stored_reloadConfig]
      exact hdeleted _
    · split <;> rw [stored_reloadConfig] <;> exact hdeleted _

/-- **Stored ingresses share no host name on a port**, after any calls of `Create` and `Delete`,
wherever they fail. -/
theorem stored_disjoint (live : Option Config)
    (hs : (ingressSystem lib live).Reachable System.Always s) :
    s.stored.Pairwise Ingress.Disjoint := by
  have hpart : ∀ {l l' : List Ingress}, l.Subperm l' → l'.Pairwise Ingress.Disjoint →
      l.Pairwise Ingress.Disjoint := by
    rintro l l' ⟨k, hperm, hsub⟩ h
    exact (hperm.pairwise_iff Ingress.Disjoint.symm).mp (h.sublist hsub)
  refine hs.invariant (I := fun s => s.stored.Pairwise Ingress.Disjoint) .nil
    fun s call s' h _ hstep => ?_
  cases hstep
  rcases stored_run call with hsub | ⟨new, hsub, hnew⟩
  · exact hpart hsub h
  · exact hpart hsub (List.pairwise_cons.mpr ⟨fun i hi => (hnew i hi).symm, h⟩)

/-! ## An ingress that is live and not stored -/

/-- The host names of the rules as the configuration. -/
def plainLib : IngressLib (List String) where
  checkRequest req := if req.rules = [] then .error "at least one rule is required" else .ok ()
  resolveRules rules := .ok rules
  generateConfig ingresses := .ok (ingresses.flatMap (·.rules.map (·.hostname)))
  quote := String.quote

def plainLaws : plainLib.Laws where
  servable _ := true
  routes := List.length
  accepted req h := ⟨by simpa [plainLib] using h, fun _ _ => rfl⟩
  resolved _ _ h := by cases h; rfl
  routes_eq _ _ h := by cases h; simp

def noIngresses : IngressState (List String) := ⟨[], some [], none⟩

/-- The ingress cannot be saved. -/
def unsavedCreate : Call :=
  .create "i1" ⟨"web", [{ hostname := "example.com" }]⟩ { save := some "no space left on device" }

theorem current_noIngresses : Current plainLib noIngresses := by
  intro config hconfig
  cases hconfig
  exact ⟨[], .refl _, rfl⟩

/-- The configuration with the new ingress is live, and the ingress is not stored. -/
theorem save_fails_after_reload : Current plainLib noIngresses ∧
    unsavedCreate.run plainLib noIngresses =
      (some "save ingress: no space left on device", ⟨[], some ["example.com"], none⟩) ∧
    ¬ unsavedCreate.Undone plainLib noIngresses := by
  have hrun : unsavedCreate.run plainLib noIngresses =
      (some "save ingress: no space left on device", ⟨[], some ["example.com"], none⟩) := by
    decide +kernel
  refine ⟨current_noIngresses, hrun, fun hundone => ?_⟩
  rw [Call.Undone, hrun] at hundone
  obtain ⟨order, hperm, hgenerate⟩ := (hundone rfl).2 _ rfl
  rw [List.perm_nil.mp hperm] at hgenerate
  cases hgenerate

/-- The same ingress where the reload already fails. -/
def rejectedCreate : Call :=
  .create "i1" ⟨"web", [{ hostname := "example.com" }]⟩
    { caddy := { err := some "listener address repeated" } }

theorem failed_call_rejected : rejectedCreate.Undone plainLib noIngresses := by
  have hfresh : rejectedCreate.Fresh noIngresses := by
    intro ingress hmem
    cases hmem
  refine (failed_call_iff plainLaws current_noIngresses rejectedCreate hfresh).mpr ?_
  exact fun _ _ => ⟨by decide, fun herr => absurd herr (by decide)⟩

theorem stored_disjoint_two : ∃ s, (ingressSystem plainLib none).Reachable System.Always s ∧
    s.stored.length = 2 ∧ s.stored.Pairwise Ingress.Disjoint := by
  obtain ⟨s, hs, hlength⟩ := (ingressSystem plainLib none).exists_reachable_of_replay System.Always
    (fun s => s.stored.length = 2)
    [.create "a" ⟨"web", [{ hostname := "x" }]⟩ {}, .create "b" ⟨"api", [{ hostname := "y" }]⟩ {}]
    (by decide +kernel)
  exact ⟨s, hs, hlength, stored_disjoint none hs⟩

end Hypeman.Ingresses
