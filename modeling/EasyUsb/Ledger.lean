import EasyUsb.Registry

namespace EasyUsb

open Foundation

/-- What becomes of one device under a command that names it. -/
def slotAfter : RegistryCommand → Option DeviceEntry → Option DeviceEntry
  | .addDevice device, none => some ⟨device, .idle⟩
  | .addDevice device, some entry =>
    if entry.state = .disconnected then some ⟨device, .idle⟩ else some entry
  | .removeDevice _, _ => none
  | .transitionState _ _, none => none
  | .transitionState _ newState, some entry =>
    if isValidTransition entry.state newState then some { entry with state := newState }
    else some entry

def DeviceState.session : DeviceState → Option SessionId
  | .forwarded session => some session
  | _ => none

def sessionOf (slot : Option DeviceEntry) : Option SessionId :=
  slot.bind fun entry => entry.state.session

/-- The registry as one book: what each busid stands for, and which session took
which device, in the order they were taken. -/
@[ext]
structure Ledger where
  devices : BusId → Option DeviceEntry
  custody : Custody BusId SessionId
  keyed : ∀ busid entry, devices busid = some entry → busid = ⟨entry.device.busid⟩
  held : ∀ busid session,
    (busid, session) ∈ custody.claims ↔ sessionOf (devices busid) = some session

theorem session_eq_some {state : DeviceState} {session : SessionId} :
    state.session = some session ↔ state = .forwarded session := by
  cases state <;> simp [DeviceState.session]

theorem sessionOf_eq_some {slot : Option DeviceEntry} {session : SessionId} :
    sessionOf slot = some session ↔ slot.map DeviceEntry.state = some (.forwarded session) := by
  cases slot with
  | none => simp [sessionOf]
  | some entry => simpa [sessionOf] using session_eq_some

theorem slotAfter_keyed {cmd : RegistryCommand} {slot : Option DeviceEntry} {entry : DeviceEntry}
    (keyed : ∀ entry, slot = some entry → cmd.busid = ⟨entry.device.busid⟩)
    (after : slotAfter cmd slot = some entry) : cmd.busid = ⟨entry.device.busid⟩ := by
  cases cmd with
  | addDevice device =>
    cases slot with
    | none =>
      cases after
      rfl
    | some old =>
      rw [slotAfter] at after
      split at after <;> cases after
      · rfl
      · exact keyed _ rfl
  | removeDevice busid => cases after
  | transitionState busid newState =>
    cases slot with
    | none => cases after
    | some old =>
      have named := keyed old rfl
      rw [slotAfter] at after
      split at after <;> cases after <;> exact named

namespace Ledger

def empty : Ledger where
  devices _ := none
  custody := .empty
  keyed _ _ absent := nomatch absent
  held := by simp [Custody.empty, sessionOf]

def step (cmd : RegistryCommand) (l : Ledger) : Ledger where
  devices := Function.update l.devices cmd.busid (slotAfter cmd (l.devices cmd.busid))
  custody := l.custody.handOver cmd.busid (sessionOf (slotAfter cmd (l.devices cmd.busid)))
  keyed busid entry present := by
    by_cases named : busid = cmd.busid
    · subst named
      rw [Function.update_self] at present
      exact slotAfter_keyed (l.keyed _) present
    · rw [Function.update_of_ne named] at present
      exact l.keyed busid entry present
  held busid session := by
    by_cases named : busid = cmd.busid
    · subst named
      rw [Function.update_self]
      exact Custody.mem_handOver_self
    · rw [Function.update_of_ne named]
      exact (Custody.mem_handOver_ne named).trans (l.held busid session)

def run (cmds : List RegistryCommand) (l : Ledger) : Ledger :=
  cmds.foldl (fun l cmd => l.step cmd) l

theorem run_concat (cmds : List RegistryCommand) (cmd : RegistryCommand) (l : Ledger) :
    l.run (cmds ++ [cmd]) = (l.run cmds).step cmd :=
  List.foldl_append

def restrict (l : Ledger) (p : BusId → Bool) : Ledger where
  devices busid := if p busid then l.devices busid else none
  custody := l.custody.restrict p
  keyed busid entry present := by
    split at present
    · exact l.keyed busid entry present
    · cases present
  held busid session := by
    rw [Custody.mem_restrict, l.held]
    cases p busid <;> simp [sessionOf]

theorem devices_step_self (cmd : RegistryCommand) (l : Ledger) :
    (l.step cmd).devices cmd.busid = slotAfter cmd (l.devices cmd.busid) :=
  Function.update_self _ _ _

theorem devices_step_ne {cmd : RegistryCommand} {busid : BusId} (l : Ledger)
    (other : busid ≠ cmd.busid) : (l.step cmd).devices busid = l.devices busid :=
  Function.update_of_ne other _ _

theorem step_of_same {cmd : RegistryCommand} {l : Ledger}
    (same : slotAfter cmd (l.devices cmd.busid) = l.devices cmd.busid) : l.step cmd = l := by
  refine Ledger.ext ?_ ?_
  · show Function.update l.devices cmd.busid _ = l.devices
    rw [same, Function.update_eq_self]
  · show l.custody.handOver cmd.busid _ = l.custody
    rw [same]
    exact Custody.handOver_same (l.held cmd.busid)

/-- Seen from some busids, a command about another one does nothing. -/
theorem restrict_step (p : BusId → Bool) (cmd : RegistryCommand) (l : Ledger) :
    (l.step cmd).restrict p = if p cmd.busid then (l.restrict p).step cmd else l.restrict p := by
  have custody := l.custody.restrict_handOver p cmd.busid
    (sessionOf (slotAfter cmd (l.devices cmd.busid)))
  cases inside : p cmd.busid with
  | false =>
    rw [inside] at custody
    refine Ledger.ext (funext fun busid => ?_) custody
    by_cases named : busid = cmd.busid
    · subst named
      simp [restrict, inside]
    · simp [restrict, devices_step_ne l named]
  | true =>
    have slot : (l.restrict p).devices cmd.busid = l.devices cmd.busid := if_pos inside
    rw [inside] at custody
    refine Ledger.ext (funext fun busid => ?_) ?_
    · by_cases named : busid = cmd.busid
      · subst named
        rw [if_pos rfl, devices_step_self, slot]
        simp [restrict, inside, devices_step_self]
      · rw [if_pos rfl, devices_step_ne _ named]
        simp [restrict, devices_step_ne l named]
    · rw [if_pos rfl]
      show (l.custody.handOver _ _).restrict p = (l.custody.restrict p).handOver _ _
      rw [custody, slot]
      rfl

theorem restrict_run (p : BusId → Bool) (cmds : List RegistryCommand) (l : Ledger) :
    (l.run cmds).restrict p = (l.restrict p).run (cmds.filter fun cmd => p cmd.busid) := by
  induction cmds generalizing l with
  | nil => rfl
  | cons cmd cmds ih =>
    show ((l.step cmd).run cmds).restrict p = _
    rw [ih, restrict_step]
    by_cases inside : p cmd.busid
    · rw [List.filter_cons, if_pos inside, if_pos inside]
      rfl
    · rw [List.filter_cons, if_neg inside, if_neg inside]

end Ledger

/-- The snapshot holds what the book says: the same devices under their busids,
and for each session the list of what it took. -/
structure Refines (snapshot : RegistrySnapshot) (l : Ledger) : Prop where
  devices : ∀ busid, snapshot.devices.lookup busid = l.devices busid
  lists : OwnerIndex.Lists snapshot.forwardings l.custody

theorem refines_default : Refines .default .empty :=
  ⟨fun _ => rfl, OwnerIndex.lists_empty⟩

theorem Refines.unique {snapshot snapshot' : RegistrySnapshot} {l : Ledger}
    (h : Refines snapshot l) (h' : Refines snapshot' l) : snapshot = snapshot' := by
  obtain ⟨devices, forwardings⟩ := snapshot
  obtain ⟨devices', forwardings'⟩ := snapshot'
  have sameDevices : devices = devices' :=
    Finmap.ext_lookup fun busid => (h.devices busid).trans (h'.devices busid).symm
  have sameLists : forwardings = forwardings' :=
    Finmap.ext_lookup fun session => h.lists.lookup_congr h'.lists rfl
  rw [sameDevices, sameLists]

theorem lists_leaveState {idx : OwnerIndex SessionId BusId} {c : Custody BusId SessionId}
    {busid : BusId} {old : DeviceState} (lists : idx.Lists c)
    (held : ∀ session, (busid, session) ∈ c.claims ↔ old.session = some session) :
    (leaveState idx busid old).Lists (c.handOver busid none) := by
  cases old with
  | forwarded session => exact lists.leave ((held session).mpr rfl)
  | _ =>
    have free : ∀ session, (busid, session) ∉ c.claims :=
      fun session mem => nomatch (held session).mp mem
    have same : c.handOver busid none = c := Custody.release_of_free free
    rw [same]
    exact lists

theorem lists_enterState {idx : OwnerIndex SessionId BusId} {c : Custody BusId SessionId}
    {busid : BusId} (new : DeviceState) (lists : idx.Lists c)
    (free : ∀ session, (busid, session) ∉ c.claims) :
    (enterState idx busid new).Lists (c.handOver busid new.session) := by
  cases new with
  | forwarded session => exact lists.enter free
  | _ =>
    have same : c.handOver busid none = c := Custody.release_of_free free
    show idx.Lists (c.handOver busid none)
    rw [same]
    exact lists

theorem session_of_valid {old new : DeviceState} (valid : isValidTransition old new) :
    old.session = none ∨ new.session = none := by
  cases old <;> cases new <;> first | exact Or.inl rfl | exact Or.inr rfl | cases valid

theorem lookup_handleCommand_self (cmd : RegistryCommand) (snapshot : RegistrySnapshot) :
    (handleCommand cmd snapshot).devices.lookup cmd.busid =
      slotAfter cmd (snapshot.devices.lookup cmd.busid) := by
  cases cmd with
  | addDevice device =>
    rcases slot : snapshot.devices.lookup ⟨device.busid⟩ with _ | entry
    · simp [handleCommand, RegistryCommand.busid, slotAfter, slot]
    · by_cases gone : entry.state = .disconnected <;>
        simp [handleCommand, RegistryCommand.busid, slotAfter, slot, gone]
  | removeDevice busid =>
    rcases slot : snapshot.devices.lookup busid with _ | entry <;>
      simp [handleCommand, RegistryCommand.busid, slotAfter, slot]
  | transitionState busid newState =>
    rcases slot : snapshot.devices.lookup busid with _ | entry
    · simp [handleCommand, RegistryCommand.busid, slotAfter, slot]
    · by_cases valid : isValidTransition entry.state newState <;>
        simp [handleCommand, RegistryCommand.busid, slotAfter, slot, valid]

theorem lookup_handleCommand_ne {cmd : RegistryCommand} {busid : BusId}
    (snapshot : RegistrySnapshot) (other : busid ≠ cmd.busid) :
    (handleCommand cmd snapshot).devices.lookup busid = snapshot.devices.lookup busid := by
  cases cmd with
  | addDevice device =>
    have other : busid ≠ ⟨device.busid⟩ := other
    rw [handleCommand]
    split
    · split
      · exact Finmap.lookup_insert_of_ne _ other
      · rfl
    · exact Finmap.lookup_insert_of_ne _ other
  | removeDevice named =>
    rw [handleCommand]
    split
    · exact Finmap.lookup_erase_ne other
    · rfl
  | transitionState named newState =>
    rw [handleCommand]
    split
    · rfl
    · split
      · exact Finmap.lookup_insert_of_ne _ other
      · rfl

/-- Adding a device, first or again, is no session's gain or loss. -/
theorem sessionOf_slotAfter_addDevice (device : UsbDevice) (slot : Option DeviceEntry) :
    sessionOf (slotAfter (.addDevice device) slot) = sessionOf slot := by
  cases slot with
  | none => rfl
  | some entry =>
    by_cases gone : entry.state = .disconnected
    · rw [slotAfter, if_pos gone]
      simp [sessionOf, gone, DeviceState.session]
    · rw [slotAfter, if_neg gone]

theorem forwardings_addDevice (device : UsbDevice) (snapshot : RegistrySnapshot) :
    (handleCommand (.addDevice device) snapshot).forwardings = snapshot.forwardings := by
  rw [handleCommand]
  split
  · split <;> rfl
  · rfl

theorem lists_transition {idx : OwnerIndex SessionId BusId} {c : Custody BusId SessionId}
    {busid : BusId} {old new : DeviceState} (lists : idx.Lists c)
    (held : ∀ session, (busid, session) ∈ c.claims ↔ old.session = some session)
    (valid : isValidTransition old new) :
    (enterState (leaveState idx busid old) busid new).Lists
      (c.handOver busid new.session) := by
  have listed := lists_leaveState lists held
  rcases session_of_valid valid with left | entered
  · have free : ∀ session, (busid, session) ∉ c.claims := fun session mem => by
      have still := (held session).mp mem
      rw [left] at still
      cases still
    have released : c.handOver busid none = c := Custody.release_of_free free
    rw [released] at listed
    exact lists_enterState new listed free
  · rw [entered]
    cases new with
    | forwarded session => cases entered
    | _ => exact listed

theorem Refines.lists_handleCommand {snapshot : RegistrySnapshot} {l : Ledger}
    (h : Refines snapshot l) (cmd : RegistryCommand) :
    (EasyUsb.handleCommand cmd snapshot).forwardings.Lists (l.step cmd).custody := by
  have held := l.held cmd.busid
  show OwnerIndex.Lists _ (l.custody.handOver cmd.busid (sessionOf (slotAfter cmd _)))
  rw [← h.devices cmd.busid] at held ⊢
  cases cmd with
  | addDevice device =>
    rw [forwardings_addDevice, sessionOf_slotAfter_addDevice, Custody.handOver_same held]
    exact h.lists
  | removeDevice busid =>
    rw [RegistryCommand.busid] at held ⊢
    rw [EasyUsb.handleCommand]
    rcases slot : snapshot.devices.lookup busid with _ | entry <;> rw [slot] at held
    · rw [slotAfter, Custody.handOver_same held]
      exact h.lists
    · exact lists_leaveState h.lists held
  | transitionState busid newState =>
    rw [RegistryCommand.busid] at held ⊢
    rw [EasyUsb.handleCommand]
    rcases slot : snapshot.devices.lookup busid with _ | entry <;> rw [slot] at held
    · rw [slotAfter, Custody.handOver_same held]
      exact h.lists
    · by_cases valid : isValidTransition entry.state newState
      · rw [slotAfter, if_pos valid]
        dsimp only
        rw [if_pos valid]
        exact lists_transition h.lists held valid
      · rw [slotAfter, if_neg valid, Custody.handOver_same held]
        dsimp only
        rw [if_neg valid]
        exact h.lists

theorem Refines.handleCommand {snapshot : RegistrySnapshot} {l : Ledger}
    (h : Refines snapshot l) (cmd : RegistryCommand) :
    Refines (handleCommand cmd snapshot) (l.step cmd) := by
  refine ⟨fun busid => ?_, h.lists_handleCommand cmd⟩
  by_cases named : busid = cmd.busid
  · subst named
    rw [lookup_handleCommand_self, Ledger.devices_step_self, h.devices]
  · rw [lookup_handleCommand_ne snapshot named, Ledger.devices_step_ne l named, h.devices]

theorem Refines.runCommands {snapshot : RegistrySnapshot} {l : Ledger} (h : Refines snapshot l)
    (cmds : List RegistryCommand) : Refines (runCommands cmds snapshot) (l.run cmds) := by
  induction cmds generalizing snapshot l with
  | nil => exact h
  | cons cmd cmds ih => exact ih (h.handleCommand cmd)

theorem refines_snapshotAfter (cmds : List RegistryCommand) :
    Refines (snapshotAfter cmds) (Ledger.empty.run cmds) :=
  refines_default.runCommands cmds

end EasyUsb
