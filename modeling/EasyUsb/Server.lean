import EasyUsb.Handshake
import EasyUsb.UrbFrame
import EasyUsb.Foundation.Utf8

namespace EasyUsb

open Foundation

inductive AcceptError where
  | acceptFailed (text : String)
  | invalidRequest (text : String)
  deriving DecidableEq, Repr

/-- One import request, on the stream `listener.accept` gave or refused with an error. -/
def acceptDevice (accepted : Except String Unit) : Program AcceptError OpReqImport := do
  match accepted with
  | .error e => .fail (.acceptFailed e)
  | .ok () =>
    let buf ← (Program.read opReqImportSize).mapErr fun e =>
      .acceptFailed ("read OP_REQ_IMPORT: " ++ e)
    let req ← Program.ofOutcome ((decodeOpReqImport buf).mapErr fun e => .invalidRequest e.text)
    if req.busid.toList.all fun b => b = 0 then .fail (.invalidRequest "empty busid")
    else if ¬(ByteArray.mk req.busid.toArray).IsValidUTF8 then
      .fail (.invalidRequest "non-UTF-8 busid")
    else return req

def sendOpRepImport (rep : OpRepImport) : Program ProtocolError Unit := do
  let buf ← Program.ofOutcome (encodeOpRepImport rep)
  (Program.write buf).mapErr .ioError

/-- `i32::try_from(len).unwrap_or(0)`. -/
def echoLen (payload : Option (List UInt8)) : Int32 :=
  let len := (payload.map List.length).getD 0
  if len < 2 ^ 31 then Int32.ofNat len else 0

def submitReply (header : UsbipHeader) (cmd : UsbipHeaderCmdSubmit)
    (payload : Option (List UInt8)) : UsbipHeader where
  base := {
    command := Constants.retSubmit
    seqnum := header.base.seqnum
    devid := header.base.devid
    direction := Constants.usbipDirIn
    ep := header.base.ep }
  u := .ofRetSubmit {
    status := 0
    actualLength := echoLen payload
    startFrame := 0
    numberOfPackets := 0
    errorCount := 0
    setup := cmd.setup }

def unlinkReply (header : UsbipHeader) : UsbipHeader where
  base := {
    command := Constants.retUnlink
    seqnum := header.base.seqnum
    devid := header.base.devid
    direction := header.base.direction
    ep := header.base.ep }
  u := .ofRetUnlink { status := 0, padding := Vector.replicate 6 0 }

/-- What `serve_urb_echo` does with the request once it is decoded. -/
def echoReply (frame : Frame) : Program ProtocolError UsbipHeader := do
  let (header, payload) := frame
  if header.base.command = Constants.cmdSubmit then
    match header.cmdSubmit with
    | none => .fail (.encodingError "CMD_SUBMIT header missing cmd_submit data")
    | some cmd =>
      if cmd.numberOfPackets ≠ 0 then .fail .isochronousNotSupported
      else
        let encoded ← Program.ofOutcome (encodeHeader (submitReply header cmd payload) payload)
        (Program.write encoded).mapErr .ioError
        return header
  else if header.base.command = Constants.cmdUnlink then
    let encoded ← Program.ofOutcome (encodeHeader (unlinkReply header) none)
    (Program.write encoded).mapErr .ioError
    return header
  else .fail (.invalidCommand header.base.command)

def serveUrbEchoOn (m : Usize) : Program ProtocolError UsbipHeader := do
  let buf ← readFrame (servePayloadLenOn m)
  let frame ← Program.ofOutcome (decodeHeaderOn m buf)
  echoReply frame

def serveUrbEcho : Program ProtocolError UsbipHeader := serveUrbEchoOn .plain

theorem serveUrbEcho_eq : serveUrbEcho = readFrame servePayloadLen >>= fun buf =>
    Program.ofOutcome (decodeHeader buf) >>= echoReply := rfl

/-- A busid that fits in its field and is not all zeros. -/
structure ImportableBusid (busid : String) : Prop where
  fits : (strBytes busid).length ≤ 32
  named : ∃ b ∈ strBytes busid, b ≠ 0

theorem makeImportRequest_busid (busid : String) (devid : UInt32)
    (fits : (strBytes busid).length ≤ 32) :
    (makeImportRequest busid devid).busid.toList =
      strBytes busid ++ List.replicate (32 - (strBytes busid).length) 0 := by
  show ((strBytes busid).take 32 ++ _ : List UInt8) = _
  rw [List.take_of_length_le fits]

/-- As text, the field is the busid with NULs after it. -/
theorem makeImportRequest_text (busid : String) (devid : UInt32)
    (fits : (strBytes busid).length ≤ 32) :
    ByteArray.mk (makeImportRequest busid devid).busid.toArray =
      (busid ++ String.ofList
        (List.replicate (32 - (strBytes busid).length) '\x00')).toByteArray := by
  rw [toByteArray_zeros]
  have field := makeImportRequest_busid busid devid fits
  exact congrArg (fun bytes => ByteArray.mk bytes.toArray) field

theorem makeImportRequest_validUTF8 (busid : String) (devid : UInt32)
    (fits : (strBytes busid).length ≤ 32) :
    (ByteArray.mk (makeImportRequest busid devid).busid.toArray).IsValidUTF8 := by
  rw [makeImportRequest_text busid devid fits]
  exact String.isValidUTF8 _

/-- Why a request is not accepted: its busid is all zeros, or no text. -/
def OpReqImport.refusal (req : OpReqImport) : Option AcceptError :=
  if req.busid.toList.all fun b => b = 0 then some (.invalidRequest "empty busid")
  else if ¬(ByteArray.mk req.busid.toArray).IsValidUTF8 then
    some (.invalidRequest "non-UTF-8 busid")
  else none

theorem acceptDevice_refuses {req : OpReqImport} {e : AcceptError}
    (refused : req.refusal = some e) :
    (acceptDevice (.ok ())).Exchanges (reqItems req).flatten [] (.fail e) := by
  have decoded : decodeOpReqImport (reqItems req).flatten = .ok req := by
    simpa using decodeOpReqImport_items req []
  have asked := (Program.Exchanges.read (reqItems_length req)).mapErr
    fun e => AcceptError.acceptFailed ("read OP_REQ_IMPORT: " ++ e)
  refine asked.bind_done ?_
  rw [decoded]
  show (if _ then _ else if _ then _ else _ : Program AcceptError OpReqImport) = _
  rw [OpReqImport.refusal] at refused
  split_ifs at refused ⊢
  · cases refused
    rfl
  · cases refused
    rfl

theorem acceptDevice_accepts {req : OpReqImport} (accepted : req.refusal = none) :
    (acceptDevice (.ok ())).Exchanges (reqItems req).flatten [] (.done req) := by
  have decoded : decodeOpReqImport (reqItems req).flatten = .ok req := by
    simpa using decodeOpReqImport_items req []
  have asked := (Program.Exchanges.read (reqItems_length req)).mapErr
    fun e => AcceptError.acceptFailed ("read OP_REQ_IMPORT: " ++ e)
  refine asked.bind_done ?_
  rw [decoded]
  show (if _ then _ else if _ then _ else _ : Program AcceptError OpReqImport) = _
  rw [OpReqImport.refusal] at accepted
  split_ifs at accepted ⊢
  rfl

theorem ImportableBusid.refusal {busid : String} (importable : ImportableBusid busid)
    (devid : UInt32) : (makeImportRequest busid devid).refusal = none := by
  have named : ¬(makeImportRequest busid devid).busid.toList.all (fun b => b = 0) = true := by
    obtain ⟨b, mem, nonzero⟩ := importable.named
    rw [makeImportRequest_busid busid devid importable.fits, List.all_eq_true]
    intro zeros
    exact nonzero (by simpa using zeros b (List.mem_append_left _ mem))
  rw [OpReqImport.refusal, if_neg named,
    if_neg (not_not.mpr (makeImportRequest_validUTF8 busid devid importable.fits))]

theorem acceptDevice_exchanges {busid : String} (devid : UInt32)
    (importable : ImportableBusid busid) :
    (acceptDevice (.ok ())).Exchanges (reqItems (makeImportRequest busid devid)).flatten []
      (.done (makeImportRequest busid devid)) :=
  acceptDevice_accepts (importable.refusal devid)

theorem sendOpRepImport_exchanges (rep : OpRepImport) :
    (sendOpRepImport rep).Exchanges [] (repItems rep).flatten (.done ()) :=
  (Program.Exchanges.write (repItems rep).flatten).mapErr ProtocolError.ioError

theorem echoLen_toInt {payload : Option (List UInt8)} (small : (payload.getD []).length < 2 ^ 31) :
    (echoLen payload).toInt = (payload.getD []).length := by
  have same : (payload.map List.length).getD 0 = (payload.getD []).length := by
    cases payload <;> rfl
  rw [echoLen, same, if_pos small, Int32.toInt_ofNat_of_lt small]

theorem submitReply_declaredLen (header : UsbipHeader) (cmd : UsbipHeaderCmdSubmit)
    {payload : Option (List UInt8)} (small : (payload.getD []).length < 2 ^ 31) :
    (submitReply header cmd payload).declaredLen = (payload.getD []).length := by
  have hc : (submitReply header cmd payload).base.command = Constants.retSubmit := rfl
  have field : (submitReply header cmd payload).u.retSubmit.actualLength = echoLen payload := by
    rw [submitReply, UsbipHeaderUnion.retSubmit_ofRetSubmit]
  have value := echoLen_toInt small
  rw [UsbipHeader.declaredLen_of_retSubmit hc, field]
  by_cases some_bytes : 0 < echoLen payload
  · rw [if_pos some_bytes, asUsize_of_pos some_bytes, value, Int.toNat_natCast]
  · have none_left : ¬0 < (echoLen payload).toInt := fun pos =>
      some_bytes (Int32.lt_iff_toInt_lt.mpr (by simpa using pos))
    rw [if_neg some_bytes]
    omega

theorem exists_submitReply (frame : UrbFrame) (cmd : UsbipHeaderCmdSubmit) :
    ∃ reply : UrbFrame, reply.header = submitReply frame.header cmd frame.payload ∧
      reply.payload = frame.payload := by
  have size := frame.payload_length
  have small := frame.small
  have declared : (submitReply frame.header cmd frame.payload).declaredLen =
      frame.header.declaredLen := by
    rw [submitReply_declaredLen, size]
    rw [size]
    exact Nat.lt_of_le_of_lt small (by decide)
  have plain : ¬(submitReply frame.header cmd frame.payload).Isochronous := by
    rintro (⟨other, _⟩ | ⟨_, packets⟩)
    · exact absurd other (by decide : Constants.retSubmit ≠ Constants.cmdSubmit)
    · rw [submitReply, UsbipHeaderUnion.retSubmit_ofRetSubmit] at packets
      exact packets rfl
  have matching : (submitReply frame.header cmd frame.payload).Matching frame.payload := by
    rw [UsbipHeader.Matching, declared]
    exact frame.matching
  exact ⟨⟨_, frame.payload, Or.inr rfl, Or.inr (Or.inl rfl), plain, by rwa [declared], matching⟩,
    rfl, rfl⟩

theorem exists_unlinkReply (frame : UrbFrame) :
    ∃ reply : UrbFrame, reply.header = unlinkReply frame.header ∧ reply.payload = none := by
  have declared : (unlinkReply frame.header).declaredLen = 0 :=
    declaredLen_of_other (by decide : Constants.retUnlink ≠ Constants.cmdSubmit)
      (by decide : Constants.retUnlink ≠ Constants.retSubmit)
  have plain : ¬(unlinkReply frame.header).Isochronous := not_isochronous_of_unlink (Or.inr rfl)
  have matching : (unlinkReply frame.header).Matching none := matching_none declared
  have small : (unlinkReply frame.header).declaredLen ≤ maxPayloadSize := by
    rw [declared]
    exact Nat.zero_le _
  exact ⟨⟨unlinkReply frame.header, none, frame.direction, Or.inr (Or.inr (Or.inr rfl)), plain,
    small, matching⟩, rfl, rfl⟩

theorem UrbFrame.serve_finds {frame : UrbFrame}
    (request : frame.header.base.command = Constants.cmdSubmit ∨
      frame.header.base.command = Constants.cmdUnlink) :
    servePayloadLen frame.header.wire = .ok (frame.payload.getD []).length := by
  have small : ¬frame.header.declaredLen > maxPayloadSize := Nat.not_lt.mpr frame.small
  have whole : (if frame.header.base.command = Constants.cmdSubmit then
      frame.header.declaredLen else 0) = frame.header.declaredLen := by
    rcases request with hc | hc
    · exact if_pos hc
    · have other : frame.header.base.command ≠ Constants.cmdSubmit := by rw [hc]; decide
      rw [if_neg other, declaredLen_of_other other (by rw [hc]; decide)]
  rw [servePayloadLen_wire, whole, checkPayloadLen, if_neg small, frame.payload_length]

theorem serve_reads (frame : UrbFrame)
    (request : frame.header.base.command = Constants.cmdSubmit ∨
      frame.header.base.command = Constants.cmdUnlink) :
    (readFrame servePayloadLen).Exchanges frame.bytes [] (.done frame.bytes) :=
  readFrame_exchanges frame.header.wire_length (UrbFrame.serve_finds request)

theorem serve_writes (header : UsbipHeader) (reply : UrbFrame) :
    ((Program.write reply.bytes).mapErr .ioError >>= fun _ =>
      (.done header : Program ProtocolError UsbipHeader)).Exchanges [] reply.bytes
        (.done header) :=
  ((Program.Exchanges.write reply.bytes).mapErr ProtocolError.ioError).bind_done rfl

theorem serveUrbEcho_submit {frame reply : UrbFrame}
    (hc : frame.header.base.command = Constants.cmdSubmit)
    (header : reply.header = submitReply frame.header frame.header.u.cmdSubmit frame.payload)
    (payload : reply.payload = frame.payload) :
    serveUrbEcho.Exchanges frame.bytes reply.bytes (.done frame.header) := by
  have accessor : frame.header.cmdSubmit = some frame.header.u.cmdSubmit := if_pos hc
  have plain : ¬frame.header.u.cmdSubmit.numberOfPackets ≠ 0 :=
    fun packets => frame.plain (Or.inl ⟨hc, packets⟩)
  have encoded := reply.encode
  rw [header, payload] at encoded
  rw [serveUrbEcho_eq]
  refine ((serve_reads frame (Or.inl hc)).bind_done ?_).answer (serve_writes frame.header reply)
  rw [frame.decode]
  show (if frame.header.base.command = Constants.cmdSubmit then _ else _ :
    Program ProtocolError UsbipHeader) = _
  rw [if_pos hc, accessor]
  show (if frame.header.u.cmdSubmit.numberOfPackets ≠ 0 then _ else _ :
    Program ProtocolError UsbipHeader) = _
  rw [if_neg plain, encoded]
  rfl

theorem serveUrbEcho_unlink {frame reply : UrbFrame}
    (hc : frame.header.base.command = Constants.cmdUnlink)
    (header : reply.header = unlinkReply frame.header) (payload : reply.payload = none) :
    serveUrbEcho.Exchanges frame.bytes reply.bytes (.done frame.header) := by
  have other : ¬frame.header.base.command = Constants.cmdSubmit := by rw [hc]; decide
  have encoded := reply.encode
  rw [header, payload] at encoded
  rw [serveUrbEcho_eq]
  refine ((serve_reads frame (Or.inr hc)).bind_done ?_).answer (serve_writes frame.header reply)
  rw [frame.decode]
  show (if frame.header.base.command = Constants.cmdSubmit then _ else
    if frame.header.base.command = Constants.cmdUnlink then _ else _ :
    Program ProtocolError UsbipHeader) = _
  rw [if_neg other, if_pos hc, encoded]
  rfl

end EasyUsb
