import EasyUsb.DeviceLifecycle

namespace EasyUsb

open Foundation

/-- The same run with extra copies of its commands, each delivered before the
next command about the same device. -/
inductive Redelivered (cmds : List RegistryCommand) : List RegistryCommand → Prop where
  | once : Redelivered cmds cmds
  | again {past between rest : List RegistryCommand} {cmd : RegistryCommand}
    (before : Redelivered cmds (past ++ cmd :: (between ++ rest)))
    (apart : ∀ other ∈ between, other.busid ≠ cmd.busid) :
    Redelivered cmds (past ++ cmd :: (between ++ cmd :: rest))

/-- Once a command has been handled there is nothing left for it to do. -/
theorem slotAfter_slotAfter (cmd : RegistryCommand) (slot : Option DeviceEntry) :
    slotAfter cmd (slotAfter cmd slot) = slotAfter cmd slot := by
  rcases slot with _ | ⟨device, state⟩
  · cases cmd <;> rfl
  · cases cmd with
    | addDevice device' => cases state <;> rfl
    | removeDevice busid => rfl
    | transitionState busid newState => cases state <;> cases newState <;> rfl

/-- Commands about other devices leave a device alone. -/
theorem lookup_runCommands_ne {busid : BusId} {cmds : List RegistryCommand}
    (apart : ∀ other ∈ cmds, other.busid ≠ busid) (snapshot : RegistrySnapshot) :
    (runCommands cmds snapshot).devices.lookup busid = snapshot.devices.lookup busid := by
  induction cmds generalizing snapshot with
  | nil => rfl
  | cons cmd cmds ih =>
    have named : busid ≠ cmd.busid := (apart cmd List.mem_cons_self).symm
    have later := ih (fun other mem => apart other (List.mem_cons_of_mem cmd mem))
      (handleCommand cmd snapshot)
    exact later.trans (lookup_handleCommand_ne snapshot named)

theorem handleCommand_redelivered (past : List RegistryCommand) {cmd : RegistryCommand}
    {between : List RegistryCommand} (apart : ∀ other ∈ between, other.busid ≠ cmd.busid) :
    handleCommand cmd (snapshotAfter (past ++ cmd :: between)) =
      snapshotAfter (past ++ cmd :: between) := by
  have settled : (snapshotAfter (past ++ cmd :: between)).devices.lookup cmd.busid =
      slotAfter cmd ((snapshotAfter past).devices.lookup cmd.busid) := by
    have split : snapshotAfter (past ++ cmd :: between) =
        runCommands between (handleCommand cmd (snapshotAfter past)) :=
      runCommands_append past (cmd :: between) _
    rw [split, lookup_runCommands_ne apart, lookup_handleCommand_self]
  apply handleCommand_of_same (refines_snapshotAfter _)
  rw [settled, slotAfter_slotAfter]

theorem snapshotAfter_again (past rest : List RegistryCommand) {cmd : RegistryCommand}
    {between : List RegistryCommand} (apart : ∀ other ∈ between, other.busid ≠ cmd.busid) :
    snapshotAfter (past ++ cmd :: (between ++ cmd :: rest)) =
      snapshotAfter (past ++ cmd :: (between ++ rest)) := by
  have twice : past ++ cmd :: (between ++ cmd :: rest) =
      (past ++ cmd :: between) ++ cmd :: rest := by simp
  have once : past ++ cmd :: (between ++ rest) = (past ++ cmd :: between) ++ rest := by simp
  have same := handleCommand_redelivered past apart
  calc snapshotAfter (past ++ cmd :: (between ++ cmd :: rest))
      = runCommands rest (handleCommand cmd (snapshotAfter (past ++ cmd :: between))) := by
        rw [twice]
        exact runCommands_append _ _ _
    _ = runCommands rest (snapshotAfter (past ++ cmd :: between)) := by rw [same]
    _ = snapshotAfter (past ++ cmd :: (between ++ rest)) := by
        rw [once]
        exact (runCommands_append _ _ _).symm

/-- Handling a command a second time, before the next command about its device,
changes nothing, and so do any number of copies delivered so in a run. -/
theorem runCommands_redelivered :
    (∀ (past : List RegistryCommand) (cmd : RegistryCommand) (between : List RegistryCommand),
      (∀ other ∈ between, other.busid ≠ cmd.busid) →
      runCommands (cmd :: between ++ [cmd]) (snapshotAfter past) =
        runCommands (cmd :: between) (snapshotAfter past)) ∧
    ∀ cmds redelivered : List RegistryCommand, Redelivered cmds redelivered →
      snapshotAfter redelivered = snapshotAfter cmds := by
  refine ⟨fun past cmd between apart => ?_, fun cmds redelivered copies => ?_⟩
  · have same := handleCommand_redelivered past apart
    rw [snapshotAfter, runCommands_append] at same
    rw [runCommands_append]
    exact same
  · induction copies with
    | once => rfl
    | again before apart ih =>
      rw [snapshotAfter_again _ _ apart]
      exact ih

end EasyUsb
