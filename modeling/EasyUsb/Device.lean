import EasyUsb.Server
import EasyUsb.Ledger

namespace EasyUsb

open Foundation

def UsbDeviceSpeed.tryFrom (value : UInt32) : Outcome ProtocolError UsbDeviceSpeed :=
  match value.toNat with
  | 1 => .ok .lowSpeed
  | 2 => .ok .fullSpeed
  | 3 => .ok .highSpeed
  | 4 => .ok .superSpeed
  | _ => .err (.invalidDeviceSpeed value)

structure UsbDeviceDescriptor where
  path : Vector UInt8 256
  busid : Vector UInt8 32
  busnum : UInt32
  devnum : UInt32
  speed : UsbDeviceSpeed
  idVendor : UInt16
  idProduct : UInt16
  bcdDevice : UInt16
  bDeviceClass : UInt8
  bDeviceSubClass : UInt8
  bDeviceProtocol : UInt8
  bConfigurationValue : UInt8
  bNumConfigurations : UInt8
  bNumInterfaces : UInt8
  deriving DecidableEq, Repr

/-- `From<OpRepImport> for UsbDeviceDescriptor`: a speed it does not know is taken
for `HighSpeed`. -/
def UsbDeviceDescriptor.ofOpRepImport (rep : OpRepImport) : UsbDeviceDescriptor where
  path := rep.path
  busid := rep.busid
  busnum := rep.busnum
  devnum := rep.devnum
  speed := match UsbDeviceSpeed.tryFrom rep.speed with
    | .ok s => s
    | _ => .highSpeed
  idVendor := rep.idVendor
  idProduct := rep.idProduct
  bcdDevice := rep.bcdDevice
  bDeviceClass := rep.bDeviceClass
  bDeviceSubClass := rep.bDeviceSubClass
  bDeviceProtocol := rep.bDeviceProtocol
  bConfigurationValue := rep.bConfigurationValue
  bNumConfigurations := rep.bNumConfigurations
  bNumInterfaces := rep.bNumInterfaces

/-- `From<UsbDeviceDescriptor> for UsbDevice`. -/
def UsbDevice.ofDescriptor (d : UsbDeviceDescriptor) : UsbDevice where
  busid := trimEnd '\x00' (fromUtf8Lossy d.busid.toList)
  vid := d.idVendor
  pid := d.idProduct
  manufacturer := none
  product := none
  busnum := d.busnum
  devnum := d.devnum
  speed := d.speed
  bDeviceClass := d.bDeviceClass
  bDeviceSubClass := d.bDeviceSubClass
  bDeviceProtocol := d.bDeviceProtocol

/-- The device a reply tells of. -/
def OpRepImport.device (rep : OpRepImport) : UsbDevice :=
  .ofDescriptor (.ofOpRepImport rep)

/-- The busid field is text, as `accept_device` demands of a request. -/
def OpRepImport.IsText (rep : OpRepImport) : Prop :=
  (ByteArray.mk rep.busid.toArray).IsValidUTF8

/-- No AddDevice takes one of the devices for the other. -/
structure AddedApart (first second : UsbDevice) : Prop where
  keys : BusId.mk first.busid ≠ ⟨second.busid⟩
  kept : ∀ snapshot : RegistrySnapshot,
    (handleCommand (.addDevice second) snapshot).devices.lookup ⟨first.busid⟩ =
      snapshot.devices.lookup ⟨first.busid⟩
  added : ∀ snapshot : RegistrySnapshot, snapshot.devices.lookup ⟨second.busid⟩ = none →
    (handleCommand (.addDevice second) (handleCommand (.addDevice first) snapshot)).devices.lookup
      ⟨second.busid⟩ = some ⟨second, .idle⟩

/-- The field is the device's busid with NULs after it. -/
theorem OpRepImport.IsText.field {rep : OpRepImport} (text : rep.IsText) :
    ∃ n, rep.busid.toList = strBytes rep.device.busid ++ List.replicate n 0 := by
  obtain ⟨s, bytes⟩ : ∃ s : String, ByteArray.mk rep.busid.toArray = s.toByteArray :=
    ⟨⟨_, text⟩, rfl⟩
  have image : rep.busid.toList = s.toByteArray.data.toList :=
    congrArg (fun b : ByteArray => b.data.toList) bytes
  have named : rep.device.busid = trimEnd '\x00' s := by
    show trimEnd '\x00' (fromUtf8Lossy rep.busid.toList) = _
    rw [image, fromUtf8Lossy_bytes]
  obtain ⟨n, whole⟩ := exists_trimEnd_append '\x00' s
  refine ⟨n, ?_⟩
  rw [image, named]
  conv_lhs => rw [whole, toByteArray_zeros]
  rfl

theorem OpRepImport.IsText.makeImportRequest_busid {rep : OpRepImport} (text : rep.IsText)
    (devid : UInt32) : (makeImportRequest rep.device.busid devid).busid = rep.busid := by
  obtain ⟨n, field⟩ := text.field
  have size := congrArg List.length field
  rw [Vector.length_toList, List.length_append, List.length_replicate] at size
  have pad : n = 32 - (strBytes rep.device.busid).length := by omega
  have packed := EasyUsb.makeImportRequest_busid rep.device.busid devid (by omega)
  apply Vector.toList_inj.mp
  rw [packed, field, pad]

theorem addedApart_of_busid_ne {first second : UsbDevice} (other : first.busid ≠ second.busid) :
    AddedApart first second := by
  have keys : BusId.mk first.busid ≠ ⟨second.busid⟩ := by
    intro same
    exact other (BusId.mk.inj same)
  refine ⟨keys, fun snapshot => lookup_handleCommand_ne snapshot keys, fun snapshot absent => ?_⟩
  have still : (handleCommand (.addDevice first) snapshot).devices.lookup ⟨second.busid⟩ = none :=
    (lookup_handleCommand_ne snapshot keys.symm).trans absent
  have taken := lookup_handleCommand_self (.addDevice second)
    (handleCommand (.addDevice first) snapshot)
  rw [RegistryCommand.busid, still] at taken
  exact taken

/-- A device learned from a reply is asked for by the field the reply had, so two
devices with different fields are never confused. -/
theorem device_busid_asks {rep : OpRepImport} (text : rep.IsText) :
    (∀ devid, (makeImportRequest rep.device.busid devid).busid = rep.busid) ∧
      ∀ other : OpRepImport, other.IsText → other.busid ≠ rep.busid →
        AddedApart rep.device other.device := by
  refine ⟨text.makeImportRequest_busid, fun other text' apart => ?_⟩
  apply addedApart_of_busid_ne
  intro same
  have field := text.makeImportRequest_busid 0
  rw [same, text'.makeImportRequest_busid 0] at field
  exact apart field

/-- A reply that names a device and tells nothing else about it. -/
def bareReply (busid : String) : OpRepImport where
  status := 0
  path := zeroPadded 256 []
  busid := zeroPadded 32 (strBytes busid)
  busnum := 1
  devnum := 1
  speed := 3
  idVendor := 0
  idProduct := 0
  bcdDevice := 0
  bDeviceClass := 0
  bDeviceSubClass := 0
  bDeviceProtocol := 0
  bConfigurationValue := 0
  bNumConfigurations := 0
  bNumInterfaces := 0

/-- A NUL inside a busid tells it from the busid that ends there. -/
theorem device_busid_asks_nul :
    (makeImportRequest (bareReply "1-1\x00é").device.busid 2).busid =
        (bareReply "1-1\x00é").busid ∧
      AddedApart (bareReply "1-1\x00é").device (bareReply "1-1").device := by
  have text : (bareReply "1-1\x00é").IsText := makeImportRequest_validUTF8 _ 0 (by decide)
  have text' : (bareReply "1-1").IsText := makeImportRequest_validUTF8 _ 0 (by decide)
  have asks := device_busid_asks text
  exact ⟨asks.1 2, asks.2 _ text' (by decide)⟩

end EasyUsb
