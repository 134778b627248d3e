import EasyUsb.RegistryCommutes

namespace EasyUsb

open Foundation

/-- A command that takes a forwarded device from its session. -/
def RegistryCommand.releases : RegistryCommand → Bool
  | .removeDevice _ => true
  | .transitionState _ .idle => true
  | .transitionState _ .disconnected => true
  | _ => false

/-- Some command of the run releases the device. -/
def releasedIn (cmds : List RegistryCommand) (busid : BusId) : Bool :=
  cmds.any fun cmd => cmd.busid = busid && cmd.releases

/-- While the commands are handled the session gets no device. -/
def Untaken (session : SessionId) : RegistrySnapshot → List RegistryCommand → Prop
  | _, [] => True
  | snapshot, cmd :: cmds =>
    ¬Takes cmd snapshot session ∧ Untaken session (handleCommand cmd snapshot) cmds

theorem session_slotAfter_of_releases {cmd : RegistryCommand} (releases : cmd.releases = true)
    (slot : Option DeviceEntry) : sessionOf (slotAfter cmd slot) = none := by
  rcases slot with _ | ⟨device, state⟩
  · cases cmd with
    | addDevice device => cases releases
    | removeDevice busid => rfl
    | transitionState busid newState => rfl
  · cases cmd with
    | addDevice device' => cases releases
    | removeDevice busid => rfl
    | transitionState busid newState =>
      cases newState with
      | idle => cases state <;> rfl
      | disconnected => cases state <;> rfl
      | bound => cases releases
      | forwarded session => cases releases

/-- Any other command leaves a forwarded device where it is. -/
theorem session_slotAfter_of_held {cmd : RegistryCommand} (keeps : cmd.releases = false)
    {slot : Option DeviceEntry} {session : SessionId} (held : sessionOf slot = some session) :
    sessionOf (slotAfter cmd slot) = some session := by
  cases cmd with
  | addDevice device => rw [sessionOf_slotAfter_addDevice, held]
  | removeDevice busid => cases keeps
  | transitionState busid newState =>
    rcases slot with _ | ⟨device, state⟩
    · cases held
    · have forwarded : state = .forwarded session := session_eq_some.mp held
      subst forwarded
      cases newState with
      | idle => cases keeps
      | disconnected => cases keeps
      | bound => rfl
      | forwarded session' => rfl

/-- A command by which the session gets no device strikes off its list the device
it releases. -/
theorem listOf_handleCommand_untaken {snapshot : RegistrySnapshot} {l : Ledger}
    (h : Refines snapshot l) {cmd : RegistryCommand} {session : SessionId}
    (untaken : ¬Takes cmd snapshot session) :
    (handleCommand cmd snapshot).listOf session =
      (snapshot.listOf session).filter fun busid => !(cmd.busid = busid && cmd.releases) := by
  rw [takes_iff h, not_and, not_not] at untaken
  have member : cmd.busid ∈ snapshot.listOf session ↔
      sessionOf (snapshot.devices.lookup cmd.busid) = some session := by
    rw [RegistrySnapshot.listOf, h.lists.lookup_getD, Custody.mem_holdings, Ledger.held, h.devices]
  rw [listOf_handleCommand h, Custody.relist]
  cases releases : cmd.releases with
  | true =>
    rw [session_slotAfter_of_releases releases, if_neg (by simp)]
    refine List.filter_congr fun busid _ => ?_
    simp [eq_comm]
  | false =>
    have all : (snapshot.listOf session).filter
        (fun busid => !(cmd.busid = busid && false)) = snapshot.listOf session := by
      simp
    rw [all]
    by_cases held : cmd.busid ∈ snapshot.listOf session
    · rw [if_pos (session_slotAfter_of_held releases (member.mp held)), if_pos held]
    · rw [if_neg fun got => held (untaken got)]
      refine List.filter_eq_self.mpr fun busid mem => ?_
      have other : busid ≠ cmd.busid := fun same => held (same ▸ mem)
      simpa using other

theorem listOf_runCommands_untaken {cmds : List RegistryCommand} {snapshot : RegistrySnapshot}
    {l : Ledger} (h : Refines snapshot l) {session : SessionId}
    (untaken : Untaken session snapshot cmds) :
    (runCommands cmds snapshot).listOf session =
      (snapshot.listOf session).filter fun busid => !releasedIn cmds busid := by
  induction cmds generalizing snapshot l with
  | nil => exact (List.filter_eq_self.mpr fun _ _ => rfl).symm
  | cons cmd cmds ih =>
    have rest := ih (h.handleCommand cmd) untaken.2
    rw [listOf_handleCommand_untaken h untaken.1, List.filter_filter] at rest
    refine Eq.trans rest (List.filter_congr fun busid _ => ?_)
    rw [releasedIn, releasedIn, List.any_cons, Bool.not_or, Bool.and_comm]

theorem mem_listOf_snapshotAfter {past : List RegistryCommand} {session : SessionId}
    {busid : BusId} : busid ∈ (snapshotAfter past).listOf session ↔
      (snapshotAfter past).stateOf busid = some (.forwarded session) := by
  rw [RegistrySnapshot.listOf, (refines_snapshotAfter past).lists.lookup_getD]
  exact mem_holdings_iff

/-- While a session gets no new device, its list keeps the devices that nobody
has released, in their order, and it has no list any more from the moment on
when all of them are. -/
theorem session_ends_iff_released {past cmds : List RegistryCommand} {session : SessionId}
    (untaken : Untaken session (snapshotAfter past) cmds) :
    (runCommands cmds (snapshotAfter past)).listOf session =
        ((snapshotAfter past).listOf session).filter (fun busid => !releasedIn cmds busid) ∧
      ((runCommands cmds (snapshotAfter past)).forwardings.lookup session = none ↔
        ∀ busid, (snapshotAfter past).stateOf busid = some (.forwarded session) →
          releasedIn cmds busid = true) := by
  have refines := refines_snapshotAfter past
  have left := listOf_runCommands_untaken refines untaken
  refine ⟨left, ?_⟩
  have lists := (refines.runCommands cmds).lists
  have ended : (runCommands cmds (snapshotAfter past)).forwardings.lookup session = none ↔
      (runCommands cmds (snapshotAfter past)).listOf session = [] := by
    rw [RegistrySnapshot.listOf, lists.lookup_getD, lists session]
    split
    · next nothing => simp [nothing]
    · next something => simp [something]
  rw [ended, left, List.filter_eq_nil_iff]
  constructor
  · intro all busid forwarded
    have gone := all busid (mem_listOf_snapshotAfter.mpr forwarded)
    simpa using gone
  · intro all busid mem
    have gone := all busid (mem_listOf_snapshotAfter.mp mem)
    simp [gone]

/-- A session that takes in three devices, in this order. -/
def threeForwarded : List RegistryCommand :=
  ["1-2", "1-1", "1-3"].flatMap fun busid =>
    [.addDevice (UsbDevice.mk busid 0x1234 0x5678 none none 1 2 .highSpeed 0 0 0),
      .transitionState ⟨busid⟩ .bound, .transitionState ⟨busid⟩ (.forwarded ⟨"s"⟩)]

def middleReleased : List RegistryCommand := [.transitionState ⟨"1-1"⟩ .idle]

def allReleased : List RegistryCommand :=
  middleReleased ++ [.removeDevice ⟨"1-3"⟩, .transitionState ⟨"1-2"⟩ .disconnected]

/-- With the device in the middle set idle the other two are left, in their order, and with
these removed and disconnected the session is gone. -/
theorem threeForwarded_ends :
    (runCommands middleReleased (snapshotAfter threeForwarded)).listOf ⟨"s"⟩ =
        [⟨"1-2"⟩, ⟨"1-3"⟩] ∧
      (runCommands middleReleased (snapshotAfter threeForwarded)).forwardings.lookup ⟨"s"⟩ ≠
        none ∧
      (runCommands allReleased (snapshotAfter threeForwarded)).forwardings.lookup ⟨"s"⟩ =
        none := by
  have held : (snapshotAfter threeForwarded).stateOf ⟨"1-2"⟩ = some (.forwarded ⟨"s"⟩) := by decide
  have list : (snapshotAfter threeForwarded).listOf ⟨"s"⟩ = [⟨"1-2"⟩, ⟨"1-1"⟩, ⟨"1-3"⟩] := by decide
  have all : ∀ busid ∈ [⟨"1-2"⟩, ⟨"1-1"⟩, ⟨"1-3"⟩], releasedIn allReleased busid = true := by decide
  have untaken : Untaken ⟨"s"⟩ (snapshotAfter threeForwarded) allReleased := by
    refine ⟨fun takes => takes.1 ?_, fun takes => takes.1 ?_, fun takes => takes.1 ?_, trivial⟩
    · decide
    · decide
    · decide
  obtain ⟨left, ended⟩ :=
    @session_ends_iff_released threeForwarded middleReleased ⟨"s"⟩ ⟨untaken.1, trivial⟩
  refine ⟨?_, fun gone => ?_, (session_ends_iff_released untaken).2.mpr fun busid forwarded => ?_⟩
  · refine left.trans ?_
    rw [list]
    decide
  · exact absurd (ended.mp gone _ held) (by decide)
  · have mem := mem_listOf_snapshotAfter.mpr forwarded
    rw [list] at mem
    exact all busid mem

end EasyUsb
