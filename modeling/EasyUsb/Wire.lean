import EasyUsb.Foundation.BigEndian

namespace EasyUsb

open Foundation

namespace Constants

def usbipVersion : UInt16 := 0x0111

def cmdSubmit : UInt32 := 0x0001
def retSubmit : UInt32 := 0x0003
def cmdUnlink : UInt32 := 0x0002
def retUnlink : UInt32 := 0x0004

def usbipDirOut : UInt32 := 0x00
def usbipDirIn : UInt32 := 0x01

end Constants

/-- The errors of the codec and of the URB sessions, with the data each reports. -/
inductive ProtocolError where
  | incompleteBuffer (needed available : Nat)
  | invalidCommand (command : UInt32)
  | invalidDeviceSpeed (value : UInt32)
  | bufferTooLarge (size max : Nat)
  | isochronousNotSupported
  | encodingError (text : String)
  | ioError (text : String)
  deriving DecidableEq, Repr

structure UsbipHeaderBasic where
  command : UInt32
  seqnum : UInt32
  devid : UInt32
  direction : UInt32
  ep : UInt32
  deriving DecidableEq, Repr

structure UsbipHeaderCmdSubmit where
  transferFlags : UInt32
  transferBufferLength : Int32
  startFrame : Int32
  numberOfPackets : Int32
  interval : Int32
  setup : Vector UInt8 8
  deriving DecidableEq, Repr

structure UsbipHeaderRetSubmit where
  status : Int32
  actualLength : Int32
  startFrame : Int32
  numberOfPackets : Int32
  errorCount : Int32
  setup : Vector UInt8 8
  deriving DecidableEq, Repr

structure UsbipHeaderCmdUnlink where
  seqnum : UInt32
  padding : Vector UInt32 6
  deriving DecidableEq, Repr

structure UsbipHeaderRetUnlink where
  status : Int32
  padding : Vector UInt32 6
  deriving DecidableEq, Repr

/-- The untagged 28-byte union. Each of the four layouts fills it exactly, so
its storage is kept as the five words all layouts share, in host order, and the
last eight bytes, which are `setup` in two layouts and two padding words in the
other two. -/
structure UsbipHeaderUnion where
  word0 : UInt32
  word1 : UInt32
  word2 : UInt32
  word3 : UInt32
  word4 : UInt32
  tail : Vector UInt8 8
  deriving DecidableEq, Repr

/-- A padding word as the union stores it: little-endian, the host order of
the targets. -/
def hostBytes (x : UInt32) : List UInt8 := (u32Bytes x).reverse

def hostWord (bytes : List UInt8) : UInt32 := u32Value bytes.reverse

@[simp] theorem hostBytes_length (x : UInt32) : (hostBytes x).length = 4 := by
  simp [hostBytes]

@[simp] theorem hostWord_hostBytes (x : UInt32) : hostWord (hostBytes x) = x := by
  simp [hostWord, hostBytes]

theorem hostBytes_hostWord {bytes : List UInt8} (h : bytes.length = 4) :
    hostBytes (hostWord bytes) = bytes := by
  rw [hostBytes, hostWord, u32Bytes_u32Value (by simpa using h), List.reverse_reverse]

namespace UsbipHeaderUnion

/-- `UsbipHeaderUnion { cmd_submit: c }`. -/
def ofCmdSubmit (c : UsbipHeaderCmdSubmit) : UsbipHeaderUnion :=
  ⟨c.transferFlags, c.transferBufferLength.toUInt32, c.startFrame.toUInt32,
    c.numberOfPackets.toUInt32, c.interval.toUInt32, c.setup⟩

def cmdSubmit (u : UsbipHeaderUnion) : UsbipHeaderCmdSubmit :=
  ⟨u.word0, u.word1.toInt32, u.word2.toInt32, u.word3.toInt32, u.word4.toInt32, u.tail⟩

def ofRetSubmit (r : UsbipHeaderRetSubmit) : UsbipHeaderUnion :=
  ⟨r.status.toUInt32, r.actualLength.toUInt32, r.startFrame.toUInt32,
    r.numberOfPackets.toUInt32, r.errorCount.toUInt32, r.setup⟩

def retSubmit (u : UsbipHeaderUnion) : UsbipHeaderRetSubmit :=
  ⟨u.word0.toInt32, u.word1.toInt32, u.word2.toInt32, u.word3.toInt32, u.word4.toInt32, u.tail⟩

/-- The storage of the two unlink layouts: a word and six padding words. -/
def ofPadded (word0 : UInt32) (padding : Vector UInt32 6) : UsbipHeaderUnion :=
  ⟨word0, padding[0], padding[1], padding[2], padding[3],
    ⟨(hostBytes padding[4] ++ hostBytes padding[5]).toArray, by simp⟩⟩

def padding (u : UsbipHeaderUnion) : Vector UInt32 6 :=
  #v[u.word1, u.word2, u.word3, u.word4,
    hostWord (u.tail.toList.take 4), hostWord (u.tail.toList.drop 4)]

def ofCmdUnlink (c : UsbipHeaderCmdUnlink) : UsbipHeaderUnion :=
  ofPadded c.seqnum c.padding

def cmdUnlink (u : UsbipHeaderUnion) : UsbipHeaderCmdUnlink := ⟨u.word0, u.padding⟩

def ofRetUnlink (r : UsbipHeaderRetUnlink) : UsbipHeaderUnion :=
  ofPadded r.status.toUInt32 r.padding

def retUnlink (u : UsbipHeaderUnion) : UsbipHeaderRetUnlink := ⟨u.word0.toInt32, u.padding⟩

@[simp] theorem cmdSubmit_ofCmdSubmit (c : UsbipHeaderCmdSubmit) :
    (ofCmdSubmit c).cmdSubmit = c := by
  simp [ofCmdSubmit, cmdSubmit]

@[simp] theorem ofCmdSubmit_cmdSubmit (u : UsbipHeaderUnion) :
    ofCmdSubmit u.cmdSubmit = u := by
  simp [ofCmdSubmit, cmdSubmit]

@[simp] theorem retSubmit_ofRetSubmit (r : UsbipHeaderRetSubmit) :
    (ofRetSubmit r).retSubmit = r := by
  simp [ofRetSubmit, retSubmit]

@[simp] theorem ofRetSubmit_retSubmit (u : UsbipHeaderUnion) :
    ofRetSubmit u.retSubmit = u := by
  simp [ofRetSubmit, retSubmit]

theorem padding_ofPadded (word0 : UInt32) (padding : Vector UInt32 6) :
    (ofPadded word0 padding).padding = padding := by
  apply Vector.ext
  intro i hi
  have low : (hostBytes padding[4] ++ hostBytes padding[5]).take 4 = hostBytes padding[4] :=
    List.take_left' (by simp)
  have high : (hostBytes padding[4] ++ hostBytes padding[5]).drop 4 = hostBytes padding[5] :=
    List.drop_left' (by simp)
  simp only [UsbipHeaderUnion.padding, ofPadded, Vector.toList, low, high, hostWord_hostBytes]
  rcases (show i = 0 ∨ i = 1 ∨ i = 2 ∨ i = 3 ∨ i = 4 ∨ i = 5 by omega) with
    rfl | rfl | rfl | rfl | rfl | rfl <;> rfl

theorem ofPadded_padding (u : UsbipHeaderUnion) : ofPadded u.word0 u.padding = u := by
  obtain ⟨w0, w1, w2, w3, w4, ⟨⟨bytes⟩, size⟩⟩ := u
  have size' : bytes.length = 8 := size
  have low : hostBytes (hostWord (bytes.take 4)) = bytes.take 4 :=
    hostBytes_hostWord (by simp [size'])
  have high : hostBytes (hostWord (bytes.drop 4)) = bytes.drop 4 :=
    hostBytes_hostWord (by simp [size'])
  simp [ofPadded, padding, Vector.toList, low, high, List.take_append_drop]

@[simp] theorem cmdUnlink_ofCmdUnlink (c : UsbipHeaderCmdUnlink) :
    (ofCmdUnlink c).cmdUnlink = c := by
  obtain ⟨seqnum, words⟩ := c
  simp only [ofCmdUnlink, cmdUnlink, padding_ofPadded]
  rfl

@[simp] theorem ofCmdUnlink_cmdUnlink (u : UsbipHeaderUnion) :
    ofCmdUnlink u.cmdUnlink = u := ofPadded_padding u

@[simp] theorem retUnlink_ofRetUnlink (r : UsbipHeaderRetUnlink) :
    (ofRetUnlink r).retUnlink = r := by
  obtain ⟨status, words⟩ := r
  simp only [ofRetUnlink, retUnlink, padding_ofPadded]
  simp [ofPadded]

@[simp] theorem ofRetUnlink_retUnlink (u : UsbipHeaderUnion) :
    ofRetUnlink u.retUnlink = u := by
  simpa [ofRetUnlink, retUnlink] using ofPadded_padding u

end UsbipHeaderUnion

/-- A URB header: the fields every command has, and the union whose layout the
command selects. -/
structure UsbipHeader where
  base : UsbipHeaderBasic
  u : UsbipHeaderUnion
  deriving DecidableEq, Repr

namespace UsbipHeader

/-- The checked accessor `cmd_submit()`. -/
def cmdSubmit (h : UsbipHeader) : Option UsbipHeaderCmdSubmit :=
  if h.base.command = Constants.cmdSubmit then some h.u.cmdSubmit else none

def retSubmit (h : UsbipHeader) : Option UsbipHeaderRetSubmit :=
  if h.base.command = Constants.retSubmit then some h.u.retSubmit else none

def cmdUnlink (h : UsbipHeader) : Option UsbipHeaderCmdUnlink :=
  if h.base.command = Constants.cmdUnlink then some h.u.cmdUnlink else none

def retUnlink (h : UsbipHeader) : Option UsbipHeaderRetUnlink :=
  if h.base.command = Constants.retUnlink then some h.u.retUnlink else none

/-- Agreement on the base fields and on every field of the layout the command
selects. -/
def SameFields (a b : UsbipHeader) : Prop :=
  a.base = b.base ∧ a.cmdSubmit = b.cmdSubmit ∧ a.retSubmit = b.retSubmit ∧
    a.cmdUnlink = b.cmdUnlink ∧ a.retUnlink = b.retUnlink

def Known (h : UsbipHeader) : Prop :=
  h.base.command = Constants.cmdSubmit ∨ h.base.command = Constants.retSubmit ∨
    h.base.command = Constants.cmdUnlink ∨ h.base.command = Constants.retUnlink

instance (h : UsbipHeader) : Decidable h.Known := by
  unfold Known; infer_instance

/-- For a known command no storage is hidden: equal fields are equal headers. -/
theorem sameFields_iff {a b : UsbipHeader} (known : a.Known) : a.SameFields b ↔ a = b := by
  constructor
  · rintro ⟨base, cs, rs, cu, ru⟩
    obtain ⟨basic, u⟩ := a
    obtain ⟨basic', u'⟩ := b
    cases base
    have union : u = u' := by
      dsimp only [Known] at known
      rcases known with hc | hc | hc | hc
      · have fields : u.cmdSubmit = u'.cmdSubmit := by simpa [cmdSubmit, hc] using cs
        rw [← UsbipHeaderUnion.ofCmdSubmit_cmdSubmit u, fields,
          UsbipHeaderUnion.ofCmdSubmit_cmdSubmit]
      · have fields : u.retSubmit = u'.retSubmit := by simpa [retSubmit, hc] using rs
        rw [← UsbipHeaderUnion.ofRetSubmit_retSubmit u, fields,
          UsbipHeaderUnion.ofRetSubmit_retSubmit]
      · have fields : u.cmdUnlink = u'.cmdUnlink := by simpa [cmdUnlink, hc] using cu
        rw [← UsbipHeaderUnion.ofCmdUnlink_cmdUnlink u, fields,
          UsbipHeaderUnion.ofCmdUnlink_cmdUnlink]
      · have fields : u.retUnlink = u'.retUnlink := by simpa [retUnlink, hc] using ru
        rw [← UsbipHeaderUnion.ofRetUnlink_retUnlink u, fields,
          UsbipHeaderUnion.ofRetUnlink_retUnlink]
    rw [union]
  · rintro rfl
    exact ⟨rfl, rfl, rfl, rfl, rfl⟩

end UsbipHeader

structure OpReqImport where
  status : UInt32
  path : Vector UInt8 256
  busid : Vector UInt8 32
  deriving DecidableEq, Repr

structure OpRepImport where
  status : UInt32
  path : Vector UInt8 256
  busid : Vector UInt8 32
  busnum : UInt32
  devnum : UInt32
  speed : UInt32
  idVendor : UInt16
  idProduct : UInt16
  bcdDevice : UInt16
  bDeviceClass : UInt8
  bDeviceSubClass : UInt8
  bDeviceProtocol : UInt8
  bConfigurationValue : UInt8
  bNumConfigurations : UInt8
  bNumInterfaces : UInt8
  deriving DecidableEq, Repr

end EasyUsb
