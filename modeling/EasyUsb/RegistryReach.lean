import EasyUsb.RegistryIndex
import Mathlib.Algebra.BigOperators.Group.Finset.Basic
import Mathlib.Algebra.Order.BigOperators.Group.Finset
import Mathlib.Order.Bounds.Basic

namespace EasyUsb

open Foundation

/-- What a snapshot can be trusted with: devices stand under their own busids,
and the lists name the forwarded devices, each once and under its session. -/
structure RegistrySnapshot.WellFormed (snapshot : RegistrySnapshot) : Prop where
  keyed : ∀ busid entry, snapshot.devices.lookup busid = some entry →
    busid = ⟨entry.device.busid⟩
  listed : ∀ session busids, snapshot.forwardings.lookup session = some busids →
    busids ≠ [] ∧ busids.Nodup
  held : ∀ busid session, busid ∈ snapshot.listOf session ↔
    snapshot.stateOf busid = some (.forwarded session)

def DeviceEntry.busid (entry : DeviceEntry) : BusId := ⟨entry.device.busid⟩

/-- The commands that bring an absent device to where the entry has it. -/
def DeviceEntry.install (entry : DeviceEntry) : List RegistryCommand :=
  .addDevice entry.device :: match entry.state with
    | .idle => []
    | .bound => [.transitionState entry.busid .bound]
    | .forwarded session =>
      [.transitionState entry.busid .bound, .transitionState entry.busid (.forwarded session)]
    | .disconnected => [.transitionState entry.busid .disconnected]

def installs (entries : List DeviceEntry) : List RegistryCommand :=
  entries.flatMap DeviceEntry.install

def DeviceEntry.claim (entry : DeviceEntry) : Option (BusId × SessionId) :=
  entry.state.session.map fun session => (entry.busid, session)

theorem wellFormed_snapshotAfter (cmds : List RegistryCommand) :
    (snapshotAfter cmds).WellFormed := by
  have refines := refines_snapshotAfter cmds
  refine ⟨fun busid entry present => ?_, fun session busids found => ?_, fun busid session => ?_⟩
  · rw [refines.devices] at present
    exact Ledger.keyed _ busid entry present
  · rw [refines.lists] at found
    split at found
    · cases found
    · next some_held =>
      cases found
      exact ⟨some_held, Custody.holdings_nodup _ session⟩
  · rw [RegistrySnapshot.listOf, refines.lists.lookup_getD]
    exact mem_holdings_iff

/-- A device that nobody holds is handed to whom its new state says. -/
theorem claims_step_of_free {cmd : RegistryCommand} {l : Ledger}
    (free : sessionOf (l.devices cmd.busid) = none) :
    (l.step cmd).custody.claims = l.custody.claims ++
      ((sessionOf (slotAfter cmd (l.devices cmd.busid))).map
        fun session => (cmd.busid, session)).toList := by
  have unclaimed : ∀ session, (cmd.busid, session) ∉ l.custody.claims := by
    intro session mem
    have held := (l.held cmd.busid session).mp mem
    rw [free] at held
    cases held
  show (l.custody.handOver cmd.busid _).claims = _
  cases sessionOf (slotAfter cmd (l.devices cmd.busid)) with
  | none =>
    have released : l.custody.handOver cmd.busid none = l.custody :=
      Custody.release_of_free unclaimed
    rw [released]
    exact (List.append_nil _).symm
  | some session =>
    rw [Custody.handOver_claims (unclaimed session), Custody.release_of_free unclaimed]
    rfl

theorem Ledger.run_append (cmds more : List RegistryCommand) (l : Ledger) :
    l.run (cmds ++ more) = (l.run cmds).run more :=
  List.foldl_append

/-- The second book is the first one with the device in it. -/
structure Ledger.Puts (l : Ledger) (entry : DeviceEntry) (l' : Ledger) : Prop where
  here : l'.devices entry.busid = some entry
  others : ∀ busid, busid ≠ entry.busid → l'.devices busid = l.devices busid
  claims : l'.custody.claims = l.custody.claims ++ entry.claim.toList

theorem puts_addDevice {device : UsbDevice} {l : Ledger}
    (absent : l.devices ⟨device.busid⟩ = none) :
    l.Puts ⟨device, .idle⟩ (l.step (.addDevice device)) := by
  have slot : slotAfter (.addDevice device) (l.devices ⟨device.busid⟩) = some ⟨device, .idle⟩ := by
    rw [absent]
    rfl
  have free : sessionOf (l.devices ⟨device.busid⟩) = none := by
    rw [absent]
    rfl
  refine ⟨(Ledger.devices_step_self _ l).trans slot,
    fun busid apart => Ledger.devices_step_ne l apart, ?_⟩
  have grown := @claims_step_of_free (.addDevice device) l free
  rw [grown]
  show _ ++ (Option.map _ (sessionOf (slotAfter _ (l.devices ⟨device.busid⟩)))).toList = _
  rw [slot]
  rfl

theorem Ledger.Puts.move {l l' : Ledger} {device : UsbDevice} {old new : DeviceState}
    (put : l.Puts ⟨device, old⟩ l') (unheld : old.session = none)
    (valid : isValidTransition old new = true) :
    l.Puts ⟨device, new⟩ (l'.step (.transitionState ⟨device.busid⟩ new)) := by
  have here : l'.devices ⟨device.busid⟩ = some ⟨device, old⟩ := put.here
  have slot : slotAfter (.transitionState ⟨device.busid⟩ new) (l'.devices ⟨device.busid⟩) =
      some ⟨device, new⟩ := by
    rw [here]
    exact if_pos valid
  have free : sessionOf (l'.devices ⟨device.busid⟩) = none := by
    rw [here]
    exact unheld
  refine ⟨(Ledger.devices_step_self _ l').trans slot, fun busid apart => ?_, ?_⟩
  · exact (Ledger.devices_step_ne l' apart).trans (put.others busid apart)
  · have grown := @claims_step_of_free (.transitionState ⟨device.busid⟩ new) l' free
    have before := put.claims
    rw [DeviceEntry.claim, unheld, Option.map_none, Option.toList_none, List.append_nil] at before
    rw [grown, before]
    show _ ++ (Option.map _ (sessionOf (slotAfter _ (l'.devices ⟨device.busid⟩)))).toList = _
    rw [slot]
    rfl

theorem puts_install {entry : DeviceEntry} {l : Ledger} (absent : l.devices entry.busid = none) :
    l.Puts entry (l.run entry.install) := by
  obtain ⟨device, state⟩ := entry
  have idle := puts_addDevice absent
  cases state with
  | idle => exact idle
  | bound => exact idle.move rfl rfl
  | forwarded session =>
    have bound : l.Puts ⟨device, .bound⟩ _ := idle.move rfl rfl
    exact bound.move rfl rfl
  | disconnected => exact idle.move rfl rfl

/-- Devices installed one after the other stand as their entries say, and are
claimed in that order. -/
theorem run_installs {entries : List DeviceEntry} {l : Ledger}
    (apart : (entries.map DeviceEntry.busid).Nodup)
    (absent : ∀ entry ∈ entries, l.devices entry.busid = none) :
    (∀ entry ∈ entries, (l.run (installs entries)).devices entry.busid = some entry) ∧
    (∀ busid, busid ∉ entries.map DeviceEntry.busid →
      (l.run (installs entries)).devices busid = l.devices busid) ∧
    (l.run (installs entries)).custody.claims =
      l.custody.claims ++ entries.filterMap DeviceEntry.claim := by
  induction entries generalizing l with
  | nil =>
    exact ⟨fun _ mem => absurd mem List.not_mem_nil, fun _ _ => rfl, (List.append_nil _).symm⟩
  | cons first rest ih =>
    have put := puts_install (absent first List.mem_cons_self)
    obtain ⟨fresh, restApart⟩ := List.nodup_cons.mp apart
    have still : ∀ entry ∈ rest, (l.run first.install).devices entry.busid = none := by
      intro entry mem
      have different : entry.busid ≠ first.busid := fun same =>
        fresh (same ▸ List.mem_map_of_mem mem)
      rw [put.others _ different]
      exact absent entry (List.mem_cons_of_mem first mem)
    obtain ⟨here, others, claims⟩ := ih restApart still
    have split : l.run (installs (first :: rest)) = (l.run first.install).run (installs rest) :=
      Ledger.run_append _ _ _
    rw [split]
    refine ⟨fun entry mem => ?_, fun busid out => ?_, ?_⟩
    · rcases List.mem_cons.mp mem with same | later
      · rw [same, others _ fresh, put.here]
      · exact here entry later
    · obtain ⟨different, outside⟩ := not_or.mp (fun same => out (List.mem_cons.mpr same))
      rw [others busid outside, put.others busid different]
    · rw [claims, put.claims, List.append_assoc]
      congr 1
      cases claim : first.claim <;> simp [claim]

/-- The devices of a well-formed snapshot in an order that its lists agree with. -/
structure RegistrySnapshot.Listing (snapshot : RegistrySnapshot) (entries : List DeviceEntry) :
    Prop where
  apart : (entries.map DeviceEntry.busid).Nodup
  devices : ∀ busid entry, snapshot.devices.lookup busid = some entry ↔
    entry ∈ entries ∧ busid = entry.busid
  lists : ∃ c : Custody BusId SessionId, snapshot.forwardings.Lists c ∧
    c.claims = entries.filterMap DeviceEntry.claim

theorem RegistrySnapshot.Listing.reached {snapshot : RegistrySnapshot} {entries : List DeviceEntry}
    (listing : snapshot.Listing entries) : snapshotAfter (installs entries) = snapshot := by
  obtain ⟨here, others, claims⟩ := @run_installs entries .empty listing.apart fun _ _ => rfl
  have refines : Refines snapshot (Ledger.empty.run (installs entries)) := by
    refine ⟨fun busid => ?_, ?_⟩
    · cases found : snapshot.devices.lookup busid with
      | some entry =>
        obtain ⟨mem, named⟩ := (listing.devices busid entry).mp found
        rw [named, here entry mem]
      | none =>
        have outside : busid ∉ entries.map DeviceEntry.busid := by
          intro mem
          obtain ⟨entry, mem, named⟩ := List.mem_map.mp mem
          have present := (listing.devices busid entry).mpr ⟨mem, named.symm⟩
          rw [found] at present
          cases present
        rw [others busid outside]
        rfl
    · obtain ⟨c, lists, listed⟩ := listing.lists
      have same : c = (Ledger.empty.run (installs entries)).custody :=
        Custody.ext (listed.trans claims.symm)
      rw [← same]
      exact lists
  exact (refines_snapshotAfter _).unique refines

section

variable {snapshot : RegistrySnapshot}

/-- The entries that some busids stand for. -/
def RegistrySnapshot.entriesOf (snapshot : RegistrySnapshot) (busids : List BusId) :
    List DeviceEntry :=
  busids.filterMap fun busid => snapshot.devices.lookup busid

theorem mem_entriesOf (formed : snapshot.WellFormed) {busids : List BusId} {entry : DeviceEntry} :
    entry ∈ snapshot.entriesOf busids ↔
      entry.busid ∈ busids ∧ snapshot.devices.lookup entry.busid = some entry := by
  rw [RegistrySnapshot.entriesOf, List.mem_filterMap]
  constructor
  · intro ⟨busid, mem, present⟩
    have named : busid = entry.busid := formed.keyed busid entry present
    subst named
    exact ⟨mem, present⟩
  · intro ⟨mem, present⟩
    exact ⟨entry.busid, mem, present⟩

theorem map_busid_entriesOf (formed : snapshot.WellFormed) {busids : List BusId}
    (present : ∀ busid ∈ busids, busid ∈ snapshot.devices) :
    (snapshot.entriesOf busids).map DeviceEntry.busid = busids := by
  induction busids with
  | nil => rfl
  | cons busid busids ih =>
    obtain ⟨entry, found⟩ := Finmap.mem_iff.mp (present busid List.mem_cons_self)
    have named : busid = entry.busid := formed.keyed busid entry found
    have rest := ih fun other mem => present other (List.mem_cons_of_mem busid mem)
    have split : snapshot.entriesOf (busid :: busids) = entry :: snapshot.entriesOf busids := by
      rw [RegistrySnapshot.entriesOf, List.filterMap_cons, found]
      rfl
    rw [split, List.map_cons, rest, ← named]

theorem claims_entriesOf (formed : snapshot.WellFormed) (busids : List BusId) :
    (snapshot.entriesOf busids).filterMap DeviceEntry.claim =
      busids.filterMap fun busid =>
        (sessionOf (snapshot.devices.lookup busid)).map fun session => (busid, session) := by
  rw [RegistrySnapshot.entriesOf, List.filterMap_filterMap]
  congr 1
  funext busid
  cases found : snapshot.devices.lookup busid with
  | none => rfl
  | some entry =>
    have named : busid = entry.busid := formed.keyed busid entry found
    subst named
    rfl

theorem mem_claims_of_lists (formed : snapshot.WellFormed) {c : Custody BusId SessionId}
    (lists : snapshot.forwardings.Lists c) {busid : BusId} {session : SessionId} :
    (busid, session) ∈ c.claims ↔
      sessionOf (snapshot.devices.lookup busid) = some session := by
  rw [sessionOf_eq_some, ← Custody.mem_holdings, ← lists.lookup_getD]
  exact formed.held busid session

/-- The devices that no session holds. -/
noncomputable def RegistrySnapshot.unheld (snapshot : RegistrySnapshot) : List BusId :=
  snapshot.devices.keys.toList.filter fun busid =>
    sessionOf (snapshot.devices.lookup busid) = none

theorem mem_unheld {busid : BusId} : busid ∈ snapshot.unheld ↔
    busid ∈ snapshot.devices ∧ sessionOf (snapshot.devices.lookup busid) = none := by
  simp [RegistrySnapshot.unheld, Finmap.mem_keys]

section

variable (formed : snapshot.WellFormed) {c : Custody BusId SessionId}
  (lists : snapshot.forwardings.Lists c)

include formed lists

theorem mem_claimed {busid : BusId} : busid ∈ c.claims.map Prod.fst ↔
    ∃ session, sessionOf (snapshot.devices.lookup busid) = some session := by
  rw [List.mem_map]
  constructor
  · intro ⟨⟨_, session⟩, mem, same⟩
    subst same
    exact ⟨session, (mem_claims_of_lists formed lists).mp mem⟩
  · intro ⟨session, holder⟩
    exact ⟨(busid, session), (mem_claims_of_lists formed lists).mpr holder, rfl⟩

theorem mem_claimed_append {busid : BusId} :
    busid ∈ c.claims.map Prod.fst ++ snapshot.unheld ↔ busid ∈ snapshot.devices := by
  rw [List.mem_append, mem_claimed formed lists, mem_unheld]
  constructor
  · intro mem
    rcases mem with ⟨session, holder⟩ | free
    · obtain ⟨entry, found, _⟩ := Option.bind_eq_some_iff.mp holder
      exact Finmap.mem_of_lookup_eq_some found
    · exact free.1
  · intro present
    cases holder : sessionOf (snapshot.devices.lookup busid) with
    | none => exact Or.inr ⟨present, rfl⟩
    | some session => exact Or.inl ⟨session, rfl⟩

theorem nodup_claimed_append : (c.claims.map Prod.fst ++ snapshot.unheld).Nodup := by
  refine List.nodup_append.mpr ⟨c.exclusive, (Finset.nodup_toList _).filter _, ?_⟩
  intro busid held other rest same
  subst same
  obtain ⟨session, holder⟩ := (mem_claimed formed lists).mp held
  cases holder.symm.trans (mem_unheld.mp rest).2

theorem claims_claimed_append :
    (snapshot.entriesOf (c.claims.map Prod.fst ++ snapshot.unheld)).filterMap DeviceEntry.claim =
      c.claims := by
  have idle : snapshot.unheld.filterMap (fun busid =>
      (sessionOf (snapshot.devices.lookup busid)).map fun session => (busid, session)) = [] := by
    refine List.filterMap_eq_nil_iff.mpr fun busid mem => ?_
    rw [(mem_unheld.mp mem).2]
    rfl
  have held : ∀ d ∈ c.claims, (sessionOf (snapshot.devices.lookup d.1)).map
      (fun session => (d.1, session)) = some d := by
    intro ⟨busid, session⟩ mem
    rw [(mem_claims_of_lists formed lists).mp mem]
    rfl
  rw [claims_entriesOf formed, List.filterMap_append, idle, List.append_nil, List.filterMap_map]
  exact (List.filterMap_congr held).trans (List.filterMap_some)

end

theorem exists_listing (formed : snapshot.WellFormed) :
    ∃ entries, snapshot.Listing entries := by
  have sole : ∀ busid session session', busid ∈ snapshot.listOf session →
      busid ∈ snapshot.listOf session' → session = session' := by
    intro busid session session' here there
    have state := ((formed.held busid session).mp here).symm.trans
      ((formed.held busid session').mp there)
    cases state
    rfl
  obtain ⟨c, lists⟩ := OwnerIndex.exists_lists formed.listed sole
  have present := fun busid => @mem_claimed_append _ formed c lists busid
  have all := map_busid_entriesOf formed fun busid mem => (present busid).mp mem
  refine ⟨snapshot.entriesOf (c.claims.map Prod.fst ++ snapshot.unheld), ?_,
    fun busid entry => ?_, c, lists, (claims_claimed_append formed lists).symm⟩
  · rw [all]
    exact nodup_claimed_append formed lists
  · rw [mem_entriesOf formed, present]
    constructor
    · intro found
      have named : busid = entry.busid := formed.keyed busid entry found
      subst named
      exact ⟨⟨Finmap.mem_of_lookup_eq_some found, found⟩, rfl⟩
    · intro ⟨⟨_, found⟩, named⟩
      rw [named, found]

end

/-- The reachable snapshots are exactly the well-formed ones. -/
theorem reachable_iff_wellFormed (snapshot : RegistrySnapshot) :
    (∃ cmds, snapshotAfter cmds = snapshot) ↔ snapshot.WellFormed := by
  constructor
  · intro ⟨cmds, reached⟩
    rw [← reached]
    exact wellFormed_snapshotAfter cmds
  · intro formed
    obtain ⟨entries, listing⟩ := exists_listing formed
    exact ⟨installs entries, listing.reached⟩

/-- How many commands it takes to bring an absent device into a state. -/
def DeviceState.depth : DeviceState → Nat
  | .idle => 1
  | .bound => 2
  | .forwarded _ => 3
  | .disconnected => 2

def slotDepth (slot : Option DeviceEntry) : Nat :=
  (slot.map fun entry => entry.state.depth).getD 0

/-- How far a snapshot is from the empty one. -/
def RegistrySnapshot.depth (snapshot : RegistrySnapshot) : Nat :=
  snapshot.devices.keys.sum fun busid => slotDepth (snapshot.devices.lookup busid)

theorem slotDepth_slotAfter (cmd : RegistryCommand) (slot : Option DeviceEntry) :
    slotDepth (slotAfter cmd slot) ≤ slotDepth slot + 1 := by
  rcases slot with _ | ⟨device, state⟩
  · cases cmd <;> simp [slotAfter, slotDepth, DeviceState.depth]
  · cases cmd with
    | addDevice device' => cases state <;> simp [slotAfter, slotDepth, DeviceState.depth]
    | removeDevice busid => simp [slotAfter, slotDepth]
    | transitionState busid newState =>
      cases state <;> cases newState <;>
        simp [slotAfter, isValidTransition, slotDepth, DeviceState.depth]

/-- A device is no farther than the commands about it can have brought it. -/
theorem slotDepth_le_count (cmds : List RegistryCommand) (busid : BusId) :
    slotDepth ((snapshotAfter cmds).devices.lookup busid) ≤
      (cmds.map RegistryCommand.busid).count busid := by
  induction cmds using List.reverseRecOn with
  | nil => exact Nat.zero_le _
  | append_singleton cmds cmd ih =>
    rw [snapshotAfter_concat, List.map_append, List.count_append]
    by_cases named : busid = cmd.busid
    · subst named
      have step := slotDepth_slotAfter cmd ((snapshotAfter cmds).devices.lookup cmd.busid)
      rw [lookup_handleCommand_self]
      have once : ([cmd].map RegistryCommand.busid).count cmd.busid = 1 := by simp
      omega
    · rw [lookup_handleCommand_ne _ named]
      omega

theorem depth_le_length (cmds : List RegistryCommand) :
    (snapshotAfter cmds).depth ≤ cmds.length := by
  have bound := slotDepth_le_count cmds
  have named : (snapshotAfter cmds).devices.keys ⊆ (cmds.map RegistryCommand.busid).toFinset := by
    intro busid mem
    obtain ⟨entry, found⟩ := Finmap.mem_iff.mp (Finmap.mem_keys.mp mem)
    have far := bound busid
    rw [found] at far
    have pos : 0 < slotDepth (some entry) := by
      cases state : entry.state <;> simp [slotDepth, state, DeviceState.depth]
    exact List.mem_toFinset.mpr (List.count_pos_iff.mp (by omega))
  calc (snapshotAfter cmds).depth
      ≤ (snapshotAfter cmds).devices.keys.sum
          fun busid => (cmds.map RegistryCommand.busid).count busid :=
        Finset.sum_le_sum fun busid _ => bound busid
    _ ≤ (cmds.map RegistryCommand.busid).toFinset.sum
          fun busid => (cmds.map RegistryCommand.busid).count busid :=
        Finset.sum_le_sum_of_subset named
    _ = cmds.length := by rw [List.sum_toFinset_count_eq_length, List.length_map]

theorem length_install (entry : DeviceEntry) : entry.install.length = entry.state.depth := by
  obtain ⟨device, state⟩ := entry
  cases state <;> rfl

theorem RegistrySnapshot.Listing.length_installs {snapshot : RegistrySnapshot}
    {entries : List DeviceEntry} (listing : snapshot.Listing entries) :
    (installs entries).length = snapshot.depth := by
  have keys : snapshot.devices.keys = (entries.map DeviceEntry.busid).toFinset := by
    ext busid
    rw [Finmap.mem_keys, List.mem_toFinset, List.mem_map, Finmap.mem_iff]
    constructor
    · intro ⟨entry, found⟩
      obtain ⟨mem, named⟩ := (listing.devices busid entry).mp found
      exact ⟨entry, mem, named.symm⟩
    · intro ⟨entry, mem, named⟩
      exact ⟨entry, (listing.devices busid entry).mpr ⟨mem, named.symm⟩⟩
  have depths : entries.map (fun entry => entry.install.length) =
      (entries.map DeviceEntry.busid).map
        fun busid => slotDepth (snapshot.devices.lookup busid) := by
    rw [List.map_map]
    refine List.map_congr_left fun entry mem => ?_
    have found := (listing.devices entry.busid entry).mpr ⟨mem, rfl⟩
    show entry.install.length = slotDepth (snapshot.devices.lookup entry.busid)
    rw [found, length_install]
    rfl
  rw [RegistrySnapshot.depth, keys, List.sum_toFinset _ listing.apart, ← depths, installs,
    List.length_flatMap]

/-- The shortest way to a reachable snapshot takes one command for each idle
device, two for each that is bound or disconnected and three for each forwarded. -/
theorem depth_isLeast (past : List RegistryCommand) :
    IsLeast { n | ∃ cmds, snapshotAfter cmds = snapshotAfter past ∧ cmds.length = n }
      (snapshotAfter past).depth := by
  constructor
  · obtain ⟨entries, listing⟩ := exists_listing (wellFormed_snapshotAfter past)
    exact ⟨installs entries, listing.reached, listing.length_installs⟩
  · intro n ⟨cmds, reached, length⟩
    rw [← reached, ← length]
    exact depth_le_length cmds

end EasyUsb
