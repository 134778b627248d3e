import EasyUsb.RegistryIndex

namespace EasyUsb

open Foundation

/-- The command takes its device into `Forwarded(session)`. -/
def Takes (cmd : RegistryCommand) (snapshot : RegistrySnapshot) (session : SessionId) : Prop :=
  snapshot.stateOf cmd.busid ≠ some (.forwarded session) ∧
    (handleCommand cmd snapshot).stateOf cmd.busid = some (.forwarded session)

/-- The same run with commands about different devices handled the other way
round, where they do not both take their device into one session. -/
inductive Rearranged (cmds : List RegistryCommand) : List RegistryCommand → Prop where
  | same : Rearranged cmds cmds
  | swap {past rest : List RegistryCommand} {cmd cmd' : RegistryCommand}
    (before : Rearranged cmds (past ++ cmd :: cmd' :: rest)) (apart : cmd.busid ≠ cmd'.busid)
    (calm : ∀ session, ¬(Takes cmd (snapshotAfter past) session ∧
      Takes cmd' (snapshotAfter past) session)) :
    Rearranged cmds (past ++ cmd' :: cmd :: rest)

section

variable {snapshot snapshot' : RegistrySnapshot} {l l' : Ledger}

theorem Refines.ext (h : Refines snapshot l) (h' : Refines snapshot' l')
    (devices : ∀ busid, snapshot.devices.lookup busid = snapshot'.devices.lookup busid)
    (lists : ∀ session, snapshot.listOf session = snapshot'.listOf session) :
    snapshot = snapshot' := by
  obtain ⟨_, forwardings⟩ := snapshot
  obtain ⟨_, forwardings'⟩ := snapshot'
  have sameDevices := Finmap.ext_lookup devices
  have sameLists : forwardings = forwardings' := by
    refine Finmap.ext_lookup fun session => h.lists.lookup_congr h'.lists ?_
    rw [← h.lists.lookup_getD, ← h'.lists.lookup_getD]
    exact lists session
  cases sameDevices
  rw [sameLists]

theorem listOf_handleCommand (h : Refines snapshot l) (cmd : RegistryCommand)
    (session : SessionId) :
    (handleCommand cmd snapshot).listOf session =
      Custody.relist session cmd.busid
        (sessionOf (slotAfter cmd (snapshot.devices.lookup cmd.busid)))
        (snapshot.listOf session) := by
  have next := (h.handleCommand cmd).lists
  rw [RegistrySnapshot.listOf, next.lookup_getD, RegistrySnapshot.listOf, h.lists.lookup_getD,
    h.devices]
  exact Custody.holdings_handOver _ _ _ _

theorem takes_iff (h : Refines snapshot l) {cmd : RegistryCommand} {session : SessionId} :
    Takes cmd snapshot session ↔
      sessionOf (slotAfter cmd (snapshot.devices.lookup cmd.busid)) = some session ∧
        cmd.busid ∉ snapshot.listOf session := by
  have held : cmd.busid ∈ snapshot.listOf session ↔
      snapshot.stateOf cmd.busid = some (.forwarded session) := by
    rw [RegistrySnapshot.listOf, h.lists.lookup_getD, Custody.mem_holdings, Ledger.held,
      ← h.devices, sessionOf_eq_some]
    exact Iff.rfl
  rw [Takes, held, sessionOf_eq_some, ← lookup_handleCommand_self]
  exact And.comm

theorem lookup_handleCommand_comm {cmd cmd' : RegistryCommand} (apart : cmd.busid ≠ cmd'.busid)
    (busid : BusId) :
    (handleCommand cmd' (handleCommand cmd snapshot)).devices.lookup busid =
      (handleCommand cmd (handleCommand cmd' snapshot)).devices.lookup busid := by
  by_cases named : busid = cmd.busid
  · subst named
    rw [lookup_handleCommand_ne _ apart, lookup_handleCommand_self, lookup_handleCommand_self,
      lookup_handleCommand_ne _ apart]
  · by_cases named' : busid = cmd'.busid
    · subst named'
      rw [lookup_handleCommand_self, lookup_handleCommand_ne _ named,
        lookup_handleCommand_ne _ named, lookup_handleCommand_self]
    · rw [lookup_handleCommand_ne _ named', lookup_handleCommand_ne _ named,
        lookup_handleCommand_ne _ named, lookup_handleCommand_ne _ named']

/-- In either order the commands leave the same lists unless both take their
device into one session: then it lists the later of the two last. -/
theorem handleCommand_comm (h : Refines snapshot l) {cmd cmd' : RegistryCommand}
    (apart : cmd.busid ≠ cmd'.busid) :
    handleCommand cmd' (handleCommand cmd snapshot) =
        handleCommand cmd (handleCommand cmd' snapshot) ↔
      ∀ session, ¬(Takes cmd snapshot session ∧ Takes cmd' snapshot session) := by
  have first := h.handleCommand cmd
  have first' := h.handleCommand cmd'
  have lists : ∀ session,
      (handleCommand cmd' (handleCommand cmd snapshot)).listOf session =
          (handleCommand cmd (handleCommand cmd' snapshot)).listOf session ↔
        ¬(Takes cmd snapshot session ∧ Takes cmd' snapshot session) := by
    intro session
    rw [listOf_handleCommand first, listOf_handleCommand first', listOf_handleCommand h,
      listOf_handleCommand h, lookup_handleCommand_ne _ apart.symm,
      lookup_handleCommand_ne _ apart, takes_iff h, takes_iff h]
    exact Custody.relist_comm_iff apart
  constructor
  · intro same session
    exact (lists session).mp (by rw [same])
  · intro calm
    exact (first.handleCommand cmd').ext (first'.handleCommand cmd)
      (lookup_handleCommand_comm apart) fun session => (lists session).mpr (calm session)

end

theorem snapshotAfter_swap {past rest : List RegistryCommand} {cmd cmd' : RegistryCommand}
    (apart : cmd.busid ≠ cmd'.busid)
    (calm : ∀ session, ¬(Takes cmd (snapshotAfter past) session ∧
      Takes cmd' (snapshotAfter past) session)) :
    snapshotAfter (past ++ cmd' :: cmd :: rest) = snapshotAfter (past ++ cmd :: cmd' :: rest) := by
  have same := (handleCommand_comm (refines_snapshotAfter past) apart).mpr calm
  have split : ∀ cmds, snapshotAfter (past ++ cmds) = runCommands cmds (snapshotAfter past) :=
    fun cmds => runCommands_append past cmds _
  rw [split, split]
  show runCommands rest (handleCommand cmd (handleCommand cmd' (snapshotAfter past))) = _
  rw [← same]
  rfl

/-- Commands about different devices can be handled in either order exactly when
they do not both take their device into one session, and a run can be rearranged
along such pairs. -/
theorem snapshotAfter_rearranged :
    (∀ (past : List RegistryCommand) (cmd cmd' : RegistryCommand), cmd.busid ≠ cmd'.busid →
      (handleCommand cmd' (handleCommand cmd (snapshotAfter past)) =
          handleCommand cmd (handleCommand cmd' (snapshotAfter past)) ↔
        ∀ session, ¬(Takes cmd (snapshotAfter past) session ∧
          Takes cmd' (snapshotAfter past) session))) ∧
    ∀ cmds rearranged : List RegistryCommand, Rearranged cmds rearranged →
      snapshotAfter rearranged = snapshotAfter cmds := by
  constructor
  · intro past cmd cmd' apart
    exact handleCommand_comm (refines_snapshotAfter past) apart
  · intro cmds rearranged swaps
    induction swaps with
    | same => rfl
    | swap before apart calm ih =>
      rw [snapshotAfter_swap apart calm]
      exact ih

end EasyUsb
