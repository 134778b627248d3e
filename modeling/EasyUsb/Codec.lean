import EasyUsb.Wire

namespace EasyUsb

open Foundation

def maxPayloadSize : Nat := 1048576

/-- `size_of::<UsbipHeaderBasic>()`. -/
def basicHeaderSize : Nat := 20

/-- `size_of::<UsbipHeaderCmdSubmit>()`. -/
def cmdHeaderSize : Nat := 28

def payloadOffset : Nat := basicHeaderSize + cmdHeaderSize

/-- A cast `x as usize` on a 64-bit target: a negative value is sign-extended. -/
def asUsize (x : Int32) : Nat := (x.toInt % 2 ^ 64).toNat

/-- What a target makes of a cast `x as usize` and of a sum of two sizes. -/
structure Usize where
  cast : Int32 → Outcome ProtocolError Nat
  add : Nat → Nat → Outcome ProtocolError Nat

/-- The 64-bit targets, on which no sum of two sizes in use is too large. -/
def Usize.plain : Usize where
  cast x := .ok (asUsize x)
  add a b := .ok (a + b)

@[simp] theorem Usize.plain_cast (x : Int32) : Usize.plain.cast x = .ok (asUsize x) := rfl

@[simp] theorem Usize.plain_add (a b : Nat) : Usize.plain.add a b = .ok (a + b) := rfl

def putI32 (x : Int32) : List UInt8 := u32Bytes x.toUInt32

/-- `read_u32::<NetworkEndian>` on a slice: the word, and the slice moved past it. -/
def readU32 (slice : List UInt8) : Except String (UInt32 × List UInt8) :=
  if 4 ≤ slice.length then .ok (u32Value (slice.take 4), slice.drop 4)
  else .error "failed to fill whole buffer"

def readI32 (slice : List UInt8) : Except String (Int32 × List UInt8) :=
  (readU32 slice).map fun (x, rest) => (x.toInt32, rest)

def readU16 (slice : List UInt8) : Except String (UInt16 × List UInt8) :=
  if 2 ≤ slice.length then .ok (u16Value (slice.take 2), slice.drop 2)
  else .error "failed to fill whole buffer"

/-- The `map_err` every field read carries. -/
def readField {α : Type} (name : String) : Except String α → Outcome ProtocolError α
  | .ok value => .ok value
  | .error e => .err (.encodingError ("failed to read " ++ name ++ ": " ++ e))

@[simp] theorem putI32_length (x : Int32) : (putI32 x).length = 4 := u32Bytes_length _

@[simp] theorem readU32_put (x : UInt32) (rest : List UInt8) :
    readU32 (u32Bytes x ++ rest) = .ok (x, rest) := by
  have four := u32Bytes_length x
  simp [readU32, List.take_left' four, List.drop_left' four]

@[simp] theorem readI32_put (x : Int32) (rest : List UInt8) :
    readI32 (putI32 x ++ rest) = .ok (x, rest) := by
  simp [readI32, putI32, Except.map]

@[simp] theorem readU16_put (x : UInt16) (rest : List UInt8) :
    readU16 (u16Bytes x ++ rest) = .ok (x, rest) := by
  have two := u16Bytes_length x
  simp [readU16, List.take_left' two, List.drop_left' two]

@[simp] theorem readField_ok {α : Type} (name : String) (a : α) :
    readField name (.ok a) = .ok a := by simp only [readField]

section Encoders

def invalidDirection (direction : UInt32) : ProtocolError :=
  .encodingError ("invalid direction value: " ++ toString direction)

def putBasic (basic : UsbipHeaderBasic) : List UInt8 :=
  u32Bytes basic.command ++ (u32Bytes basic.seqnum ++ (u32Bytes basic.devid ++
    (u32Bytes basic.direction ++ u32Bytes basic.ep)))

def encodeBasic (basic : UsbipHeaderBasic) (buf : List UInt8) :
    Outcome ProtocolError (List UInt8) :=
  if basic.direction ≠ Constants.usbipDirOut ∧ basic.direction ≠ Constants.usbipDirIn then
    .err (invalidDirection basic.direction)
  else .ok (buf ++ putBasic basic)

def putCmdSubmit (cmd : UsbipHeaderCmdSubmit) : List UInt8 :=
  u32Bytes cmd.transferFlags ++ (putI32 cmd.transferBufferLength ++ (putI32 cmd.startFrame ++
    (putI32 cmd.numberOfPackets ++ (putI32 cmd.interval ++ cmd.setup.toList))))

def encodeCmdSubmit (cmd : UsbipHeaderCmdSubmit) (buf : List UInt8) :
    Outcome ProtocolError (List UInt8) :=
  if cmd.numberOfPackets ≠ 0 then .err .isochronousNotSupported
  else .ok (buf ++ putCmdSubmit cmd)

def putRetSubmit (ret : UsbipHeaderRetSubmit) : List UInt8 :=
  putI32 ret.status ++ (putI32 ret.actualLength ++ (putI32 ret.startFrame ++
    (putI32 ret.numberOfPackets ++ (putI32 ret.errorCount ++ ret.setup.toList))))

def encodeRetSubmit (ret : UsbipHeaderRetSubmit) (buf : List UInt8) :
    Outcome ProtocolError (List UInt8) :=
  if ret.numberOfPackets ≠ 0 then .err .isochronousNotSupported
  else .ok (buf ++ putRetSubmit ret)

/-- `for i in 0..6 { buf.put_u32(padding[i]) }`. -/
def putPadding (padding : Vector UInt32 6) : List UInt8 :=
  padding.toList.flatMap u32Bytes

def putCmdUnlink (cmd : UsbipHeaderCmdUnlink) : List UInt8 :=
  u32Bytes cmd.seqnum ++ putPadding cmd.padding

def encodeCmdUnlink (cmd : UsbipHeaderCmdUnlink) (buf : List UInt8) :
    Outcome ProtocolError (List UInt8) :=
  .ok (buf ++ putCmdUnlink cmd)

def putRetUnlink (ret : UsbipHeaderRetUnlink) : List UInt8 :=
  putI32 ret.status ++ putPadding ret.padding

def encodeRetUnlink (ret : UsbipHeaderRetUnlink) (buf : List UInt8) :
    Outcome ProtocolError (List UInt8) :=
  .ok (buf ++ putRetUnlink ret)

/-- The payload branch both SUBMIT commands share, with the text each gives to
a missing payload. -/
def putPayload (missing : String) (payload : Option (List UInt8)) (buf : List UInt8) :
    Outcome ProtocolError (List UInt8) :=
  match payload with
  | none => .err (.encodingError missing)
  | some payload =>
    if payload.length > maxPayloadSize then .err (.bufferTooLarge payload.length maxPayloadSize)
    else .ok (buf ++ payload)

def encodeHeader (header : UsbipHeader) (payload : Option (List UInt8)) :
    Outcome ProtocolError (List UInt8) := do
  let buf ← encodeBasic header.base []
  if header.base.command = Constants.cmdSubmit then
    let cmd := header.u.cmdSubmit
    let buf ← encodeCmdSubmit cmd buf
    if header.base.direction = Constants.usbipDirOut ∧ 0 < cmd.transferBufferLength then
      putPayload "CMD_SUBMIT with transfer_buffer_length > 0 requires payload" payload buf
    else return buf
  else if header.base.command = Constants.retSubmit then
    let ret := header.u.retSubmit
    let buf ← encodeRetSubmit ret buf
    if 0 < ret.actualLength then
      putPayload "RET_SUBMIT with actual_length > 0 requires payload" payload buf
    else return buf
  else if header.base.command = Constants.cmdUnlink then
    encodeCmdUnlink header.u.cmdUnlink buf
  else if header.base.command = Constants.retUnlink then
    encodeRetUnlink header.u.retUnlink buf
  else .err (.invalidCommand header.base.command)

end Encoders

section Decoders

def decodeBasic (buf : List UInt8) : Outcome ProtocolError UsbipHeaderBasic :=
  if buf.length < basicHeaderSize then .err (.incompleteBuffer basicHeaderSize buf.length)
  else do
    let cursor ← slice buf 0 basicHeaderSize
    let (command, cursor) ← readField "command" (readU32 cursor)
    let (seqnum, cursor) ← readField "seqnum" (readU32 cursor)
    let (devid, cursor) ← readField "devid" (readU32 cursor)
    let (direction, cursor) ← readField "direction" (readU32 cursor)
    let (ep, _) ← readField "ep" (readU32 cursor)
    if direction ≠ Constants.usbipDirOut ∧ direction ≠ Constants.usbipDirIn then
      .err (invalidDirection direction)
    else return { command, seqnum, devid, direction, ep }

def decodeCmdSubmit (buf : List UInt8) : Outcome ProtocolError UsbipHeaderCmdSubmit :=
  if buf.length < cmdHeaderSize then .err (.incompleteBuffer cmdHeaderSize buf.length)
  else do
    let cursor ← slice buf 0 cmdHeaderSize
    let (transferFlags, cursor) ← readField "transfer_flags" (readU32 cursor)
    let (transferBufferLength, cursor) ← readField "transfer_buffer_length" (readI32 cursor)
    let (startFrame, cursor) ← readField "start_frame" (readI32 cursor)
    let (numberOfPackets, cursor) ← readField "number_of_packets" (readI32 cursor)
    let (interval, cursor) ← readField "interval" (readI32 cursor)
    let setup ← copyFromSlice 8 (← slice cursor 0 8)
    return { transferFlags, transferBufferLength, startFrame, numberOfPackets, interval, setup }

def decodeRetSubmit (buf : List UInt8) : Outcome ProtocolError UsbipHeaderRetSubmit :=
  if buf.length < cmdHeaderSize then .err (.incompleteBuffer cmdHeaderSize buf.length)
  else do
    let cursor ← slice buf 0 cmdHeaderSize
    let (status, cursor) ← readField "status" (readI32 cursor)
    let (actualLength, cursor) ← readField "actual_length" (readI32 cursor)
    let (startFrame, cursor) ← readField "start_frame" (readI32 cursor)
    let (numberOfPackets, cursor) ← readField "number_of_packets" (readI32 cursor)
    let (errorCount, cursor) ← readField "error_count" (readI32 cursor)
    let setup ← copyFromSlice 8 (← slice cursor 0 8)
    return { status, actualLength, startFrame, numberOfPackets, errorCount, setup }

/-- The loop that fills the six padding words. -/
def readPadding (cursor : List UInt8) : Outcome ProtocolError (Vector UInt32 6) := do
  let (p0, cursor) ← readField "padding" (readU32 cursor)
  let (p1, cursor) ← readField "padding" (readU32 cursor)
  let (p2, cursor) ← readField "padding" (readU32 cursor)
  let (p3, cursor) ← readField "padding" (readU32 cursor)
  let (p4, cursor) ← readField "padding" (readU32 cursor)
  let (p5, _) ← readField "padding" (readU32 cursor)
  return #v[p0, p1, p2, p3, p4, p5]

def decodeCmdUnlink (buf : List UInt8) : Outcome ProtocolError UsbipHeaderCmdUnlink :=
  if buf.length < cmdHeaderSize then .err (.incompleteBuffer cmdHeaderSize buf.length)
  else do
    let cursor ← slice buf 0 cmdHeaderSize
    let (seqnum, cursor) ← readField "seqnum" (readU32 cursor)
    let padding ← readPadding cursor
    return { seqnum, padding }

def decodeRetUnlink (buf : List UInt8) : Outcome ProtocolError UsbipHeaderRetUnlink :=
  if buf.length < cmdHeaderSize then .err (.incompleteBuffer cmdHeaderSize buf.length)
  else do
    let cursor ← slice buf 0 cmdHeaderSize
    let (status, cursor) ← readField "status" (readI32 cursor)
    let padding ← readPadding cursor
    return { status, padding }

section Targets

variable (m : Usize)

/-- The payload branch both SUBMIT commands share. -/
def takePayloadOn (payloadLen : Nat) (buf : List UInt8) : Outcome ProtocolError (List UInt8) := do
  let stop ← m.add payloadOffset payloadLen
  if buf.length < stop then .err (.incompleteBuffer stop buf.length)
  else if payloadLen > maxPayloadSize then .err (.bufferTooLarge payloadLen maxPayloadSize)
  else slice buf payloadOffset stop

def decodeHeaderOn (buf : List UInt8) :
    Outcome ProtocolError (UsbipHeader × Option (List UInt8)) := do
  let basic ← decodeBasic buf
  if buf.length < payloadOffset then .err (.incompleteBuffer payloadOffset buf.length)
  else if basic.command = Constants.cmdSubmit then
    let cmd ← decodeCmdSubmit (← slice buf basicHeaderSize payloadOffset)
    if 0 < cmd.transferBufferLength ∧ basic.direction = Constants.usbipDirOut then
      let payloadLen ← m.cast cmd.transferBufferLength
      let payload ← takePayloadOn m payloadLen buf
      return (⟨basic, .ofCmdSubmit cmd⟩, some payload)
    else return (⟨basic, .ofCmdSubmit cmd⟩, none)
  else if basic.command = Constants.retSubmit then
    let ret ← decodeRetSubmit (← slice buf basicHeaderSize payloadOffset)
    if 0 < ret.actualLength then
      let payloadLen ← m.cast ret.actualLength
      let payload ← takePayloadOn m payloadLen buf
      return (⟨basic, .ofRetSubmit ret⟩, some payload)
    else return (⟨basic, .ofRetSubmit ret⟩, none)
  else if basic.command = Constants.cmdUnlink then
    let cmd ← decodeCmdUnlink (← slice buf basicHeaderSize payloadOffset)
    return (⟨basic, .ofCmdUnlink cmd⟩, none)
  else if basic.command = Constants.retUnlink then
    let ret ← decodeRetUnlink (← slice buf basicHeaderSize payloadOffset)
    return (⟨basic, .ofRetUnlink ret⟩, none)
  else .err (.invalidCommand basic.command)

end Targets

/-- `decode_header` on the 64-bit targets. -/
def decodeHeader : List UInt8 → Outcome ProtocolError (UsbipHeader × Option (List UInt8)) :=
  decodeHeaderOn .plain

end Decoders

end EasyUsb
