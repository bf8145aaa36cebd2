import Hypeman.AutoStandby.IdleTime
import Hypeman.AutoStandby.Sections

/-!
# The connection table and its events

The controller learns of connections in two ways: `matchingConnections` classifies a whole table,
and `handleConnectionEvent` follows the changes of the table one by one. New and changed entries are
both delivered as events of type `new` (`IPCTNL_MSG_CT_NEW`), removed ones as `destroy`.

* `handleConnectionEvent_tracks`: one change, handled by its event, keeps the two in agreement.
* `events_track_table`: so does any sequence of changes.
-/

namespace Hypeman.AutoStandby

open Foundations

variable {A : Type} [DecidableEq A] (lib : NetLib A) (reconcileDelay : Int)

/-- The table of connections, with the TCP state of each. -/
abbrev ConnectionTable (A : Type) [DecidableEq A] := Table (ConnectionKey A) TCPState

/-- The connections of the table, as `ListConnections` returns them. -/
def ConnectionTable.connections (table : ConnectionTable A) : List (Connection A) :=
  table.entries.map fun entry => ⟨entry.1, entry.2⟩

/-- A change of the table: an entry is inserted or changed, or removed. -/
inductive TableChange (A : Type)
  | set (key : ConnectionKey A) (tcpState : TCPState)
  | removed (key : ConnectionKey A)
deriving DecidableEq

namespace TableChange

def apply (table : ConnectionTable A) : TableChange A → ConnectionTable A
  | .set key tcpState => table.insert key tcpState
  | .removed key => table.erase key

/-- The event that delivers the change; a removed connection is reported with its last state. -/
def event (table : ConnectionTable A) (observedAt : Option Int) :
    TableChange A → ConnectionEvent A
  | .set key tcpState => ⟨.new, ⟨key, tcpState⟩, observedAt⟩
  | .removed key => ⟨.destroy, ⟨key, (table.lookup key).getD .none⟩, observedAt⟩

end TableChange

/-- A change with the time in its event and the clock reading of its handler. -/
structure DeliveredChange (A : Type) where
  change : TableChange A
  observedAt : Option Int
  time : Int

/-- The changes are made and their events handled, in order. -/
def deliver (table : ConnectionTable A) (st : ControllerState A) :
    List (DeliveredChange A) → ConnectionTable A × ControllerState A
  | [] => (table, st)
  | d :: rest =>
    deliver (d.change.apply table)
      (st.handleConnectionEvent lib reconcileDelay (d.change.event table d.observedAt) d.time).1
      rest

/-! ## The connections that count -/

variable {lib reconcileDelay} {instanceIP : A} {policy : CompiledPolicy}
variable {table : ConnectionTable A} {st : ControllerState A} {key : ConnectionKey A}

/-- The set has the keys of the entries of the table that are active and pass the filters. -/
def Classifies (lib : NetLib A) (instanceIP : A) (policy : CompiledPolicy)
    (table : ConnectionTable A) (activeSet : Finset (ConnectionKey A)) : Prop :=
  ∀ key, key ∈ activeSet ↔ ∃ tcpState, table.lookup key = some tcpState ∧
    tcpState.Active = true ∧ passesFilters lib instanceIP policy ⟨key, tcpState⟩ = true

theorem ConnectionTable.mem_connections {conn : Connection A} :
    conn ∈ table.connections ↔ table.lookup conn.toConnectionKey = some conn.tcpState := by
  rw [ConnectionTable.connections, List.mem_map, ← Option.mem_def, AList.mem_lookup_iff]
  constructor
  · rintro ⟨⟨key, tcpState⟩, hmem, rfl⟩
    exact hmem
  · exact fun hmem => ⟨_, hmem, rfl⟩

theorem Classifies.unique {activeSet activeSet' : Finset (ConnectionKey A)}
    (h : Classifies lib instanceIP policy table activeSet)
    (h' : Classifies lib instanceIP policy table activeSet') : activeSet = activeSet' := by
  ext key
  rw [h key, h' key]

theorem classifies_connections (table : ConnectionTable A) :
    Classifies lib instanceIP policy table
      (((table.connections.filter (matchesInboundConnection lib instanceIP (some policy))).map
        connectionKey).toFinset) := by
  intro key
  simp only [List.mem_toFinset, List.mem_map, List.mem_filter, ConnectionTable.mem_connections,
    matchesInboundConnection, Bool.and_eq_true]
  constructor
  · rintro ⟨conn, ⟨hlookup, hactive, hpasses⟩, rfl⟩
    exact ⟨conn.tcpState, hlookup, hactive, hpasses⟩
  · rintro ⟨tcpState, hlookup, hactive, hpasses⟩
    exact ⟨⟨key, tcpState⟩, ⟨hlookup, hactive, hpasses⟩, rfl⟩

/-- `matchingConnections` of a table is the set of the connections that count. -/
theorem matchingConnections_eq_ok {inst : Instance} {activeSet : Finset (ConnectionKey A)} :
    matchingConnections lib inst policy table.connections = .ok activeSet ↔
      ∃ instanceIP, lib.parseAddr inst.ip = .ok instanceIP ∧
        Classifies lib instanceIP policy table activeSet := by
  unfold matchingConnections
  split
  next err herr =>
    constructor
    · intro h
      cases h
    · rintro ⟨instanceIP, hparse, -⟩
      cases herr.symm.trans hparse
  next instanceIP hparse =>
    constructor
    · intro h
      cases h
      exact ⟨instanceIP, hparse, classifies_connections table⟩
    · rintro ⟨instanceIP', hparse', hclassifies⟩
      cases hparse.symm.trans hparse'
      rw [(classifies_connections table).unique hclassifies]

/-- The filters look at the addresses and ports only. -/
theorem passesFilters_key (key : ConnectionKey A) (tcpState tcpState' : TCPState) :
    passesFilters lib instanceIP policy ⟨key, tcpState⟩ =
      passesFilters lib instanceIP policy ⟨key, tcpState'⟩ :=
  rfl

/-! ## One change -/

theorem Classifies.insert {activeSet : Finset (ConnectionKey A)} {tcpState : TCPState}
    (h : Classifies lib instanceIP policy table activeSet) (hactive : tcpState.Active = true)
    (hpasses : passesFilters lib instanceIP policy ⟨key, tcpState⟩ = true) :
    Classifies lib instanceIP policy (table.insert key tcpState) (insert key activeSet) := by
  intro key'
  rw [Finset.mem_insert, Table.lookup_insert]
  split
  next heq =>
    subst heq
    exact ⟨fun _ => ⟨tcpState, rfl, hactive, hpasses⟩, fun _ => .inl rfl⟩
  next hne =>
    rw [h key']
    exact ⟨fun hmem => hmem.resolve_left hne, .inr⟩

/-- An entry that does not count is set or removed. -/
theorem Classifies.drop {activeSet : Finset (ConnectionKey A)} {table' : ConnectionTable A}
    {new : Option TCPState} (h : Classifies lib instanceIP policy table activeSet)
    (hset : Table.Sets key new table table') (hnew : ∀ tcpState ∈ new, tcpState.Active = true →
      passesFilters lib instanceIP policy ⟨key, tcpState⟩ = false) :
    Classifies lib instanceIP policy table' (activeSet.erase key) := by
  intro key'
  rw [Finset.mem_erase, hset key']
  split
  next heq =>
    subst heq
    constructor
    · exact fun hmem => absurd rfl hmem.1
    · rintro ⟨tcpState, hlookup, hactive, hpasses⟩
      rw [hnew tcpState hlookup hactive] at hpasses
      cases hpasses
  next hne =>
    rw [h key']
    exact ⟨And.right, fun hmem => ⟨hne, hmem⟩⟩

/-- What the handling of an event leaves of the instance and its policy, and the connections. -/
structure Follows (st st' : ControllerState A) (activeSet : Finset (ConnectionKey A)) : Prop where
  inst : st'.inst = st.inst
  policy : st'.compiledPolicy = st.compiledPolicy
  active : st'.activeInbound = activeSet

theorem follows_connectionClosed (st : ControllerState A) (key : ConnectionKey A) (time : Int) :
    Follows st (st.connectionClosed reconcileDelay key time).1 (st.activeInbound.erase key) := by
  unfold ControllerState.connectionClosed
  split
  next hkey => exact ⟨rfl, rfl, (Finset.erase_eq_of_notMem hkey).symm⟩
  dsimp only
  split
  · obtain ⟨timer, heq⟩ := armReconcile_frame
      { st with activeInbound := st.activeInbound.erase key } reconcileDelay
    rw [heq]
    exact ⟨rfl, rfl, rfl⟩
  · obtain ⟨next, timer, heq⟩ := armTimer_frame { st with
      activeInbound := st.activeInbound.erase key, idleSince := some time
      standbyRequested := false }.cancelReconcile time
    rw [ControllerState.stage, heq]
    exact ⟨rfl, rfl, rfl⟩

theorem follows_connectionActive (st : ControllerState A) (key : ConnectionKey A) (time : Int) :
    Follows st (st.connectionActive reconcileDelay key time).1 (insert key st.activeInbound) := by
  obtain ⟨timer, heq⟩ := armReconcile_frame { st with
    activeInbound := insert key st.activeInbound, idleSince := none
    lastInboundAt := some time, standbyRequested := false }.cancelTimer reconcileDelay
  unfold ControllerState.connectionActive
  rw [ControllerState.stage, heq]
  exact ⟨rfl, rfl, rfl⟩

/-- **One change.** The event of a change keeps the set of connections in agreement with the table,
and leaves the instance and its policy. -/
theorem handleConnectionEvent_tracks (reconcileDelay : Int) (change : TableChange A)
    (observedAt : Option Int) (time : Int)
    (hpolicy : st.compiledPolicy = some policy) (hparse : lib.parseAddr st.inst.ip = .ok instanceIP)
    (h : Classifies lib instanceIP policy table st.activeInbound) :
    ∃ activeSet, Follows st (st.handleConnectionEvent lib reconcileDelay
        (change.event table observedAt) time).1 activeSet ∧
      Classifies lib instanceIP policy (change.apply table) activeSet := by
  unfold ControllerState.handleConnectionEvent
  rw [hpolicy]
  cases change with
  | removed key =>
    refine ⟨_, follows_connectionClosed st key _, ?_⟩
    exact h.drop (Table.Sets.erase key table) fun _ hnone => nomatch hnone
  | set key tcpState =>
    have hset := Table.Sets.insert key tcpState table
    simp only [TableChange.event, TableChange.apply, matchesInboundConnectionForEvent, hparse]
    cases hpasses : passesFilters lib instanceIP policy ⟨key, tcpState⟩ with
    | false =>
      have hkey : key ∉ st.activeInbound := by
        intro hmem
        obtain ⟨tcpState', -, -, hpasses'⟩ := (h key).mp hmem
        rw [passesFilters_key key tcpState' tcpState, hpasses] at hpasses'
        cases hpasses'
      refine ⟨st.activeInbound, ⟨rfl, rfl, rfl⟩, ?_⟩
      rw [← Finset.erase_eq_of_notMem hkey]
      refine h.drop hset fun tcpState' hsome _ => ?_
      rw [passesFilters_key key tcpState' tcpState, hpasses]
    | true =>
      rcases Bool.eq_false_or_eq_true tcpState.Active with hactive | hactive
      · simp only [hactive, Bool.not_true, Bool.false_eq_true, if_false]
        exact ⟨_, follows_connectionActive st key _, h.insert hactive hpasses⟩
      · simp only [hactive, Bool.not_true, Bool.not_false, Bool.false_eq_true, if_false, if_true]
        refine ⟨_, follows_connectionClosed st key _,
          h.drop hset fun tcpState' hsome hactive' => ?_⟩
        cases hsome
        rw [hactive] at hactive'
        cases hactive'

/-! ## Any sequence of changes -/

theorem deliver_classifies (reconcileDelay : Int) (changes : List (DeliveredChange A))
    (hpolicy : st.compiledPolicy = some policy) (hparse : lib.parseAddr st.inst.ip = .ok instanceIP)
    (h : Classifies lib instanceIP policy table st.activeInbound) :
    (deliver lib reconcileDelay table st changes).2.inst = st.inst ∧
      Classifies lib instanceIP policy (deliver lib reconcileDelay table st changes).1
        (deliver lib reconcileDelay table st changes).2.activeInbound := by
  induction changes generalizing table st with
  | nil => exact ⟨rfl, h⟩
  | cons d rest ih =>
    obtain ⟨activeSet, hfollows, hclassifies⟩ := handleConnectionEvent_tracks
      reconcileDelay d.change d.observedAt d.time hpolicy hparse h
    obtain ⟨hinst, hrest⟩ := ih (hfollows.policy.trans hpolicy) (hfollows.inst.symm ▸ hparse)
      (hfollows.active.symm ▸ hclassifies)
    exact ⟨hinst.trans hfollows.inst, hrest⟩

/-- **The events follow the table.** For any instance and compiled policy, if the tracked
connections are those of the table, they are so again after any sequence of changes whose events
have been handled in order. -/
theorem events_track_table (lib : NetLib A) (reconcileDelay : Int) (policy : CompiledPolicy)
    (table : ConnectionTable A) (st : ControllerState A) (changes : List (DeliveredChange A))
    (hpolicy : st.compiledPolicy = some policy)
    (hstart : matchingConnections lib st.inst policy table.connections = .ok st.activeInbound) :
    matchingConnections lib st.inst policy
        (deliver lib reconcileDelay table st changes).1.connections =
      .ok (deliver lib reconcileDelay table st changes).2.activeInbound := by
  obtain ⟨instanceIP, hparse, hclassifies⟩ := matchingConnections_eq_ok.mp hstart
  have hdeliver := deliver_classifies reconcileDelay changes hpolicy hparse hclassifies
  exact matchingConnections_eq_ok.mpr ⟨instanceIP, hparse, hdeliver.2⟩

def idleWeb : ControllerState Nat :=
  { inst := webRecord none, compiledPolicy := some ⟨10, [], []⟩, idleTimeout := 10 }

/-- A client's connection to the instance, by the port of the client. -/
def clientKey (port : UInt16) : ConnectionKey Nat :=
  ⟨some 7, port.toFin, some 2, (80 : UInt16).toFin⟩

/-- Two connections come, one of them is closed and the other removed. -/
def twoVisits : List (DeliveredChange Nat) :=
  [⟨.set (clientKey 4000) .synSent, some 1, 1⟩, ⟨.set (clientKey 4001) .established, some 2, 2⟩,
    ⟨.set (clientKey 4000) .timeWait, some 3, 3⟩, ⟨.removed (clientKey 4001), some 4, 4⟩]

theorem events_track_table_twoVisits :
    matchingConnections smallNet idleWeb.inst ⟨10, [], []⟩ (ConnectionTable.connections ∅) =
        .ok idleWeb.activeInbound ∧
      matchingConnections smallNet idleWeb.inst ⟨10, [], []⟩
          (deliver smallNet 5 ∅ idleWeb twoVisits).1.connections =
        .ok (deliver smallNet 5 ∅ idleWeb twoVisits).2.activeInbound := by
  have hstart : matchingConnections smallNet idleWeb.inst ⟨10, [], []⟩
      (ConnectionTable.connections ∅) = .ok idleWeb.activeInbound := by decide
  exact ⟨hstart, events_track_table smallNet 5 ⟨10, [], []⟩ ∅ idleWeb twoVisits rfl hstart⟩

end Hypeman.AutoStandby
