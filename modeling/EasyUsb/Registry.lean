import EasyUsb.Foundation.OwnerIndex
import Mathlib.Data.List.TakeDrop

namespace EasyUsb

open Foundation

structure SessionId where
  val : String
  deriving DecidableEq, Repr

structure BusId where
  val : String
  deriving DecidableEq, Repr

inductive UsbDeviceSpeed where
  | lowSpeed
  | fullSpeed
  | highSpeed
  | superSpeed
  deriving DecidableEq, Repr

structure UsbDevice where
  busid : String
  vid : UInt16
  pid : UInt16
  manufacturer : Option String
  product : Option String
  busnum : UInt32
  devnum : UInt32
  speed : UsbDeviceSpeed
  bDeviceClass : UInt8
  bDeviceSubClass : UInt8
  bDeviceProtocol : UInt8
  deriving DecidableEq, Repr

inductive DeviceState where
  | idle
  | bound
  | forwarded (session : SessionId)
  | disconnected
  deriving DecidableEq, Repr

structure DeviceEntry where
  device : UsbDevice
  state : DeviceState
  deriving DecidableEq, Repr

structure RegistrySnapshot where
  devices : Finmap fun _ : BusId => DeviceEntry
  forwardings : OwnerIndex SessionId BusId
  deriving DecidableEq

inductive RegistryCommand where
  | addDevice (device : UsbDevice)
  | removeDevice (busid : BusId)
  | transitionState (busid : BusId) (newState : DeviceState)
  deriving DecidableEq, Repr

namespace RegistrySnapshot

/-- `RegistrySnapshot::default()`. -/
def default : RegistrySnapshot := ⟨∅, ∅⟩

def stateOf (snapshot : RegistrySnapshot) (busid : BusId) : Option DeviceState :=
  (snapshot.devices.lookup busid).map DeviceEntry.state

def listOf (snapshot : RegistrySnapshot) (session : SessionId) : List BusId :=
  (snapshot.forwardings.lookup session).getD []

end RegistrySnapshot

/-- The one device a command is about. -/
def RegistryCommand.busid : RegistryCommand → BusId
  | .addDevice device => ⟨device.busid⟩
  | .removeDevice busid => busid
  | .transitionState busid _ => busid

def isValidTransition : DeviceState → DeviceState → Bool
  | .idle, .bound => true
  | .idle, .disconnected => true
  | .bound, .forwarded _ => true
  | .bound, .disconnected => true
  | .forwarded _, .idle => true
  | .forwarded _, .disconnected => true
  | .disconnected, _ => false
  | _, _ => false

/-- Strike a device that leaves `old` off its session's list. -/
def leaveState (forwardings : OwnerIndex SessionId BusId) (busid : BusId) (old : DeviceState) :
    OwnerIndex SessionId BusId :=
  match old with
  | .forwarded sid => forwardings.leave sid busid
  | _ => forwardings

/-- List a device that enters `new` under its session. -/
def enterState (forwardings : OwnerIndex SessionId BusId) (busid : BusId) (new : DeviceState) :
    OwnerIndex SessionId BusId :=
  match new with
  | .forwarded sid => forwardings.enter sid busid
  | _ => forwardings

def handleCommand (cmd : RegistryCommand) (state : RegistrySnapshot) : RegistrySnapshot :=
  match cmd with
  | .addDevice device =>
    let busid := BusId.mk device.busid
    match state.devices.lookup busid with
    | some entry =>
      if entry.state = .disconnected then
        { state with devices := state.devices.insert busid ⟨device, .idle⟩ }
      else state
    | none => { state with devices := state.devices.insert busid ⟨device, .idle⟩ }
  | .removeDevice busid =>
    match state.devices.lookup busid with
    | some entry => ⟨state.devices.erase busid, leaveState state.forwardings busid entry.state⟩
    | none => state
  | .transitionState busid newState =>
    match state.devices.lookup busid with
    | none => state
    | some entry =>
      if isValidTransition entry.state newState then
        let forwardings := leaveState state.forwardings busid entry.state
        let forwardings := enterState forwardings busid newState
        ⟨state.devices.insert busid { entry with state := newState }, forwardings⟩
      else state

def runCommands (cmds : List RegistryCommand) (state : RegistrySnapshot) : RegistrySnapshot :=
  cmds.foldl (fun state cmd => handleCommand cmd state) state

def snapshotAfter (cmds : List RegistryCommand) : RegistrySnapshot :=
  runCommands cmds .default

theorem runCommands_append (cmds more : List RegistryCommand) (state : RegistrySnapshot) :
    runCommands (cmds ++ more) state = runCommands more (runCommands cmds state) :=
  List.foldl_append

theorem snapshotAfter_concat (cmds : List RegistryCommand) (cmd : RegistryCommand) :
    snapshotAfter (cmds ++ [cmd]) = handleCommand cmd (snapshotAfter cmds) :=
  runCommands_append cmds [cmd] _

theorem snapshotAfter_take_succ {cmds : List RegistryCommand} {i : Nat} {cmd : RegistryCommand}
    (at_i : cmds[i]? = some cmd) :
    snapshotAfter (cmds.take (i + 1)) = handleCommand cmd (snapshotAfter (cmds.take i)) := by
  rw [List.take_add_one, at_i]
  exact snapshotAfter_concat _ _

end EasyUsb
