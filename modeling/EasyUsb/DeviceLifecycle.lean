import EasyUsb.RegistryIndex

namespace EasyUsb

open Foundation

def snapshotAt (cmds : List RegistryCommand) (i : Nat) : RegistrySnapshot :=
  snapshotAfter (cmds.take i)

/-- The edges of a device's life, each with the command that takes it. -/
inductive Edge : RegistryCommand → Option DeviceState → Option DeviceState → Prop where
  | add (device : UsbDevice) : Edge (.addDevice device) none (some .idle)
  | readd (device : UsbDevice) : Edge (.addDevice device) (some .disconnected) (some .idle)
  | remove (busid : BusId) (state : DeviceState) : Edge (.removeDevice busid) (some state) none
  | bind (busid : BusId) : Edge (.transitionState busid .bound) (some .idle) (some .bound)
  | unplugIdle (busid : BusId) :
    Edge (.transitionState busid .disconnected) (some .idle) (some .disconnected)
  | forward (busid : BusId) (session : SessionId) :
    Edge (.transitionState busid (.forwarded session)) (some .bound) (some (.forwarded session))
  | unplugBound (busid : BusId) :
    Edge (.transitionState busid .disconnected) (some .bound) (some .disconnected)
  | release (busid : BusId) (session : SessionId) :
    Edge (.transitionState busid .idle) (some (.forwarded session)) (some .idle)
  | unplugForwarded (busid : BusId) (session : SessionId) :
    Edge (.transitionState busid .disconnected) (some (.forwarded session)) (some .disconnected)

/-- The command at position `i` is an AddDevice of the busid that was accepted. -/
def AddedAt (cmds : List RegistryCommand) (busid : BusId) (i : Nat) (device : UsbDevice) : Prop :=
  cmds[i]? = some (.addDevice device) ∧ busid = ⟨device.busid⟩ ∧
    ((snapshotAt cmds i).stateOf busid = none ∨
      (snapshotAt cmds i).stateOf busid = some .disconnected)

structure DeviceLifecycle (cmds : List RegistryCommand) (busid : BusId) : Prop where
  frame : ∀ i cmd, cmds[i]? = some cmd → cmd.busid ≠ busid →
    (snapshotAt cmds (i + 1)).devices.lookup busid = (snapshotAt cmds i).devices.lookup busid ∧
      ∀ session, busid ∈ (snapshotAt cmds (i + 1)).listOf session ↔
        busid ∈ (snapshotAt cmds i).listOf session
  oneList : ∀ i session session',
    (snapshotAt cmds (i + 1)).forwardings.lookup session ≠
      (snapshotAt cmds i).forwardings.lookup session →
    (snapshotAt cmds (i + 1)).forwardings.lookup session' ≠
      (snapshotAt cmds i).forwardings.lookup session' → session = session'
  edges : ∀ i cmd, cmds[i]? = some cmd → cmd.busid = busid →
    Edge cmd ((snapshotAt cmds i).stateOf busid) ((snapshotAt cmds (i + 1)).stateOf busid) ∨
      snapshotAt cmds (i + 1) = snapshotAt cmds i
  takeover : ∀ i j session session', i < j → j ≤ cmds.length →
    (snapshotAt cmds i).stateOf busid = some (.forwarded session) →
    (snapshotAt cmds j).stateOf busid = some (.forwarded session') → session ≠ session' →
    ∃ k l, i < k ∧ k < l ∧ l < j ∧ (snapshotAt cmds k).stateOf busid = some .idle ∧
      (snapshotAt cmds l).stateOf busid = some .bound
  record : ∀ i entry, i < cmds.length → (snapshotAt cmds (i + 1)).devices.lookup busid = some entry →
    AddedAt cmds busid i entry.device ∨
      ∃ old, (snapshotAt cmds i).devices.lookup busid = some old ∧ old.device = entry.device
  latest : ∀ n entry, n ≤ cmds.length → (snapshotAt cmds n).devices.lookup busid = some entry →
    ∃ i, i < n ∧ AddedAt cmds busid i entry.device ∧
      ∀ j device, i < j → j < n → ¬AddedAt cmds busid j device

theorem refines_snapshotAt (cmds : List RegistryCommand) (i : Nat) :
    Refines (snapshotAt cmds i) (Ledger.empty.run (cmds.take i)) :=
  refines_snapshotAfter _

theorem snapshotAt_succ {cmds : List RegistryCommand} {i : Nat} {cmd : RegistryCommand}
    (at_i : cmds[i]? = some cmd) :
    snapshotAt cmds (i + 1) = handleCommand cmd (snapshotAt cmds i) :=
  snapshotAfter_take_succ at_i

theorem snapshotAt_past {cmds : List RegistryCommand} {i : Nat} (past : cmds[i]? = none) :
    snapshotAt cmds (i + 1) = snapshotAt cmds i := by
  have stop : cmds.length ≤ i := List.getElem?_eq_none_iff.mp past
  rw [snapshotAt, snapshotAt, List.take_of_length_le stop,
    List.take_of_length_le (Nat.le_succ_of_le stop)]

theorem edge_or_same (cmd : RegistryCommand) (slot : Option DeviceEntry) :
    Edge cmd (slot.map DeviceEntry.state) ((slotAfter cmd slot).map DeviceEntry.state) ∨
      slotAfter cmd slot = slot := by
  rcases slot with _ | ⟨device, state⟩
  · cases cmd with
    | addDevice device => exact Or.inl (.add device)
    | removeDevice busid => exact Or.inr rfl
    | transitionState busid newState => exact Or.inr rfl
  · cases cmd with
    | addDevice device' =>
      cases state with
      | disconnected => exact Or.inl (.readd device')
      | _ => exact Or.inr rfl
    | removeDevice busid => exact Or.inl (.remove busid state)
    | transitionState busid newState =>
      cases state <;> cases newState <;>
        first
        | exact Or.inr rfl
        | exact Or.inl (by constructor)

theorem handleCommand_of_same {snapshot : RegistrySnapshot} {l : Ledger} (h : Refines snapshot l)
    {cmd : RegistryCommand}
    (same : slotAfter cmd (snapshot.devices.lookup cmd.busid) =
      snapshot.devices.lookup cmd.busid) : handleCommand cmd snapshot = snapshot := by
  rw [h.devices] at same
  have stays := h.handleCommand cmd
  rw [Ledger.step_of_same same] at stays
  exact stays.unique h

theorem handleCommand_edge {snapshot : RegistrySnapshot} {l : Ledger} (h : Refines snapshot l)
    (cmd : RegistryCommand) :
    Edge cmd (snapshot.stateOf cmd.busid) ((handleCommand cmd snapshot).stateOf cmd.busid) ∨
      handleCommand cmd snapshot = snapshot := by
  rw [RegistrySnapshot.stateOf, RegistrySnapshot.stateOf, lookup_handleCommand_self]
  rcases edge_or_same cmd (snapshot.devices.lookup cmd.busid) with edge | same
  · exact Or.inl edge
  · exact Or.inr (handleCommand_of_same h same)

theorem stateOf_step (cmds : List RegistryCommand) (busid : BusId) (i : Nat) :
    (∃ cmd, cmds[i]? = some cmd ∧ cmd.busid = busid ∧
      Edge cmd ((snapshotAt cmds i).stateOf busid) ((snapshotAt cmds (i + 1)).stateOf busid)) ∨
    (snapshotAt cmds (i + 1)).stateOf busid = (snapshotAt cmds i).stateOf busid := by
  rcases at_i : cmds[i]? with _ | cmd
  · exact Or.inr (by rw [snapshotAt_past at_i])
  rw [snapshotAt_succ at_i]
  by_cases named : busid = cmd.busid
  · subst named
    rcases handleCommand_edge (refines_snapshotAt cmds i) cmd with edge | same
    · exact Or.inl ⟨cmd, rfl, rfl, edge⟩
    · exact Or.inr (by rw [same])
  · refine Or.inr ?_
    rw [RegistrySnapshot.stateOf, lookup_handleCommand_ne _ named, RegistrySnapshot.stateOf]

theorem bound_of_enters_forwarded {cmds : List RegistryCommand} {busid : BusId}
    {session : SessionId} {i : Nat}
    (before : (snapshotAt cmds i).stateOf busid ≠ some (.forwarded session))
    (after : (snapshotAt cmds (i + 1)).stateOf busid = some (.forwarded session)) :
    (snapshotAt cmds i).stateOf busid = some .bound := by
  rcases stateOf_step cmds busid i with ⟨cmd, _, _, edge⟩ | same
  · rw [after] at edge
    generalize (snapshotAt cmds i).stateOf busid = old at edge
    cases edge
    rfl
  · exact absurd (same.symm.trans after) before

theorem idle_of_enters_bound {cmds : List RegistryCommand} {busid : BusId} {i : Nat}
    (before : (snapshotAt cmds i).stateOf busid ≠ some .bound)
    (after : (snapshotAt cmds (i + 1)).stateOf busid = some .bound) :
    (snapshotAt cmds i).stateOf busid = some .idle := by
  rcases stateOf_step cmds busid i with ⟨cmd, _, _, edge⟩ | same
  · rw [after] at edge
    generalize (snapshotAt cmds i).stateOf busid = old at edge
    cases edge
    rfl
  · exact absurd (same.symm.trans after) before

theorem exists_arrival {α : Type} (f : Nat → α) {x : α} {i j : Nat} (le : i ≤ j)
    (start : f i ≠ x) (finish : f j = x) :
    ∃ m, i ≤ m ∧ m < j ∧ f m ≠ x ∧ f (m + 1) = x := by
  induction j, le using Nat.le_induction with
  | base => exact absurd finish start
  | succ j le ih =>
    by_cases before : f j = x
    · obtain ⟨m, from_i, to_j, leaves, enters⟩ := ih before
      exact ⟨m, from_i, by omega, leaves, enters⟩
    · exact ⟨j, le, by omega, before, finish⟩

theorem takeover {cmds : List RegistryCommand} {busid : BusId} {session session' : SessionId}
    {i j : Nat} (lt : i < j)
    (first : (snapshotAt cmds i).stateOf busid = some (.forwarded session))
    (second : (snapshotAt cmds j).stateOf busid = some (.forwarded session'))
    (apart : session ≠ session') :
    ∃ k l, i < k ∧ k < l ∧ l < j ∧ (snapshotAt cmds k).stateOf busid = some .idle ∧
      (snapshotAt cmds l).stateOf busid = some .bound := by
  have start : (snapshotAt cmds i).stateOf busid ≠ some (.forwarded session') := by
    rw [first]
    simpa using apart
  have unbound : (snapshotAt cmds i).stateOf busid ≠ some .bound := by
    rw [first]
    simp
  have arrival := @exists_arrival _ fun n => (snapshotAt cmds n).stateOf busid
  obtain ⟨l, il, lj, before, after⟩ := arrival (Nat.le_of_lt lt) start second
  have bound := bound_of_enters_forwarded before after
  obtain ⟨k, ik, kl, before', after'⟩ := arrival il unbound bound
  have idle := idle_of_enters_bound before' after'
  have later : i ≠ k := by
    intro eq
    rw [← eq, first] at idle
    cases idle
  exact ⟨k, l, by omega, kl, lj, idle, bound⟩

theorem mem_listOf_iff {cmds : List RegistryCommand} {busid : BusId} {session : SessionId}
    {i : Nat} :
    busid ∈ (snapshotAt cmds i).listOf session ↔
      (snapshotAt cmds i).stateOf busid = some (.forwarded session) := by
  rw [RegistrySnapshot.listOf, (refines_snapshotAt cmds i).lists.lookup_getD]
  exact mem_holdings_iff

/-- A session whose list changes has just lost the device or just got it. -/
theorem forwardings_changed {cmds : List RegistryCommand} {i : Nat} {session : SessionId}
    (changed : (snapshotAt cmds (i + 1)).forwardings.lookup session ≠
      (snapshotAt cmds i).forwardings.lookup session) :
    ∃ cmd, cmds[i]? = some cmd ∧
      ((snapshotAt cmds i).stateOf cmd.busid = some (.forwarded session) ∨
        (snapshotAt cmds (i + 1)).stateOf cmd.busid = some (.forwarded session)) := by
  rcases at_i : cmds[i]? with _ | cmd
  · exact absurd (by rw [snapshotAt_past at_i]) changed
  refine ⟨cmd, rfl, ?_⟩
  rw [snapshotAt_succ at_i] at changed ⊢
  have now := refines_snapshotAt cmds i
  have next := now.handleCommand cmd
  refine Classical.byContradiction fun neither => changed ?_
  obtain ⟨before, after⟩ := not_or.mp neither
  refine next.lists.lookup_congr now.lists (Custody.holdings_handOver_other ?_ ?_)
  · exact fun mem => before (mem_claims_iff.mp mem)
  · intro getter
    rw [sessionOf_eq_some, ← now.devices, ← lookup_handleCommand_self] at getter
    exact after getter

theorem one_list_changes {cmds : List RegistryCommand} {i : Nat} {session session' : SessionId}
    (changed : (snapshotAt cmds (i + 1)).forwardings.lookup session ≠
      (snapshotAt cmds i).forwardings.lookup session)
    (changed' : (snapshotAt cmds (i + 1)).forwardings.lookup session' ≠
      (snapshotAt cmds i).forwardings.lookup session') : session = session' := by
  obtain ⟨cmd, at_i, touched⟩ := forwardings_changed changed
  obtain ⟨cmd', at_i', touched'⟩ := forwardings_changed changed'
  cases at_i.symm.trans at_i'
  -- A device is never handed from one session straight to another.
  have direct : ∀ {s t : SessionId}, (snapshotAt cmds i).stateOf cmd.busid = some (.forwarded s) →
      (snapshotAt cmds (i + 1)).stateOf cmd.busid = some (.forwarded t) → s = t := by
    intro s t before after
    refine Classical.byContradiction fun apart => ?_
    obtain ⟨k, l, ik, kl, lj, _, _⟩ := takeover (Nat.lt_succ_self i) before after apart
    omega
  have same : ∀ {s t : SessionId} {state : Option DeviceState}, state = some (.forwarded s) →
      state = some (.forwarded t) → s = t := by
    intro s t state hs ht
    rw [hs] at ht
    exact DeviceState.forwarded.inj (Option.some.inj ht)
  rcases touched with lost | got <;> rcases touched' with lost' | got'
  · exact same lost lost'
  · exact direct lost got'
  · exact (direct lost' got).symm
  · exact same got got'

theorem slotAfter_record {cmd : RegistryCommand} {slot : Option DeviceEntry} {entry : DeviceEntry}
    (after : slotAfter cmd slot = some entry) :
    (cmd = .addDevice entry.device ∧ (slot.map DeviceEntry.state = none ∨
      slot.map DeviceEntry.state = some .disconnected)) ∨
    ∃ old, slot = some old ∧ old.device = entry.device := by
  cases cmd with
  | addDevice device =>
    cases slot with
    | none =>
      cases after
      exact Or.inl ⟨rfl, Or.inl rfl⟩
    | some old =>
      by_cases gone : old.state = .disconnected
      · rw [slotAfter, if_pos gone] at after
        cases after
        exact Or.inl ⟨rfl, Or.inr (congrArg some gone)⟩
      · rw [slotAfter, if_neg gone] at after
        cases after
        exact Or.inr ⟨_, rfl, rfl⟩
  | removeDevice busid => cases after
  | transitionState busid newState =>
    cases slot with
    | none => cases after
    | some old =>
      refine Or.inr ⟨old, rfl, ?_⟩
      rw [slotAfter] at after
      split at after <;> cases after <;> rfl

theorem record_step {cmds : List RegistryCommand} {busid : BusId} {i : Nat} {entry : DeviceEntry}
    (present : (snapshotAt cmds (i + 1)).devices.lookup busid = some entry) :
    AddedAt cmds busid i entry.device ∨
      ∃ old, (snapshotAt cmds i).devices.lookup busid = some old ∧
        old.device = entry.device := by
  rcases at_i : cmds[i]? with _ | cmd
  · rw [snapshotAt_past at_i] at present
    exact Or.inr ⟨entry, present, rfl⟩
  rw [snapshotAt_succ at_i] at present
  by_cases named : busid = cmd.busid
  · subst named
    rw [lookup_handleCommand_self] at present
    rcases slotAfter_record present with ⟨added, accepted⟩ | kept
    · refine Or.inl ⟨by rw [at_i, added], by rw [added]; rfl, accepted⟩
    · exact Or.inr kept
  · rw [lookup_handleCommand_ne _ named] at present
    exact Or.inr ⟨entry, present, rfl⟩

theorem slotAfter_addDevice {device : UsbDevice} {slot : Option DeviceEntry}
    (accepted : slot.map DeviceEntry.state = none ∨
      slot.map DeviceEntry.state = some .disconnected) :
    slotAfter (.addDevice device) slot = some ⟨device, .idle⟩ := by
  cases slot with
  | none => rfl
  | some old =>
    have gone : old.state = .disconnected := by simpa using accepted
    exact if_pos gone

theorem AddedAt.record {cmds : List RegistryCommand} {busid : BusId} {i : Nat} {device : UsbDevice}
    (added : AddedAt cmds busid i device) :
    (snapshotAt cmds (i + 1)).devices.lookup busid = some ⟨device, .idle⟩ := by
  obtain ⟨at_i, named, accepted⟩ := added
  subst named
  have after := lookup_handleCommand_self (.addDevice device) (snapshotAt cmds i)
  rw [snapshotAt_succ at_i]
  exact after.trans (slotAfter_addDevice accepted)

theorem latest_record {cmds : List RegistryCommand} {busid : BusId} {n : Nat} {entry : DeviceEntry}
    (present : (snapshotAt cmds n).devices.lookup busid = some entry) :
    ∃ i, i < n ∧ AddedAt cmds busid i entry.device ∧
      ∀ j device, i < j → j < n → ¬AddedAt cmds busid j device := by
  induction n generalizing entry with
  | zero => cases present
  | succ n ih =>
    by_cases added : ∃ device, AddedAt cmds busid n device
    · obtain ⟨device, added⟩ := added
      cases added.record.symm.trans present
      exact ⟨n, Nat.lt_succ_self n, added, fun j device nj jn => by omega⟩
    · have none_added := not_exists.mp added
      rcases record_step present with new | ⟨old, before, same⟩
      · exact absurd new (none_added _)
      · obtain ⟨i, lt, was, quiet⟩ := ih before
        refine ⟨i, Nat.lt_succ_of_lt lt, same ▸ was, fun j device ij jn => ?_⟩
        by_cases last : j = n
        · exact last ▸ none_added device
        · exact quiet j device ij (by omega)

theorem snapshotAt_deviceLifecycle (cmds : List RegistryCommand) (busid : BusId) :
    DeviceLifecycle cmds busid where
  frame i cmd at_i other := by
    have slot := lookup_handleCommand_ne (snapshotAt cmds i) (Ne.symm other)
    rw [← snapshotAt_succ at_i] at slot
    refine ⟨slot, fun session => ?_⟩
    rw [mem_listOf_iff, mem_listOf_iff, RegistrySnapshot.stateOf, slot, RegistrySnapshot.stateOf]
  oneList i session session' := one_list_changes
  edges i cmd at_i named := by
    subst named
    rw [snapshotAt_succ at_i]
    exact handleCommand_edge (refines_snapshotAt cmds i) cmd
  takeover i j session session' lt _ := takeover lt
  record i entry _ := record_step
  latest n entry _ := latest_record

end EasyUsb
