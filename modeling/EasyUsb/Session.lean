import EasyUsb.CodecBijection

namespace EasyUsb

open Foundation

/-- The client's side of an imported device. The stream it owns is the socket
its calls are run against. -/
structure TcpSession where
  nextSeqnum : UInt32
  devid : UInt32
  busid : String
  reply : OpRepImport
  closed : Bool
  deriving DecidableEq, Repr

abbrev Frame := UsbipHeader × Option (List UInt8)

def sessionClosed : ProtocolError := .ioError "session closed"

namespace TcpSession

variable {ε : Type}

/-- The header `send_header` hands to the encoder. -/
def stamp (session : TcpSession) (header : UsbipHeader) : UsbipHeader :=
  { header with base := { header.base with seqnum := session.nextSeqnum } }

def sendHeader (session : TcpSession) (header : UsbipHeader) (payload : Option (List UInt8)) :
    Program ε (Except ProtocolError Unit × TcpSession) :=
  if session.closed then return (.error sessionClosed, session)
  else do
    let header := session.stamp header
    let session := { session with nextSeqnum := session.nextSeqnum + 1 }
    let result ← Program.attempt do
      let buf ← Program.ofOutcome (encodeHeader header payload)
      (Program.write buf).mapErr .ioError
    return (result, session)

def recvHeaderInnerOn (m : Usize) : Program ProtocolError Frame := do
  let buf ← readFrame (recvPayloadLenOn m)
  Program.ofOutcome (decodeHeaderOn m buf)

def recvHeaderInner : Program ProtocolError Frame := recvHeaderInnerOn .plain

def recvHeader (session : TcpSession) : Program ε (Except ProtocolError Frame × TcpSession) :=
  if session.closed then return (.error sessionClosed, session)
  else do
    let result ← recvHeaderInner.attempt
    return (result, session)

def recvHeaderOrClose (session : TcpSession) :
    Program ε (Except ProtocolError Frame × TcpSession) := do
  match ← recvHeaderInner.attempt with
  | .ok frame => return (.ok frame, session)
  | .error e => .shutdown (.done (.error e, { session with closed := true }))

end TcpSession

inductive Call where
  | sendHeader (header : UsbipHeader) (payload : Option (List UInt8))
  | recvHeader
  | recvHeaderOrClose
  deriving DecidableEq

/-- What a call answers; sending answers with no frame. -/
abbrev Answer := Except ProtocolError (Option Frame)

def TcpSession.call {ε : Type} (session : TcpSession) : Call → Program ε (Answer × TcpSession)
  | .sendHeader header payload => do
    let (result, session) ← session.sendHeader header payload
    return (result.map fun _ => none, session)
  | .recvHeader => do
    let (result, session) ← session.recvHeader
    return (result.map some, session)
  | .recvHeaderOrClose => do
    let (result, session) ← session.recvHeaderOrClose
    return (result.map some, session)

theorem recvHeaderInner_eq : TcpSession.recvHeaderInner =
    readFrame recvPayloadLen >>= fun buf => Program.ofOutcome (decodeHeader buf) := rfl

/-- What `recv_header_inner` leaves behind once the 48 header bytes are there. -/
theorem recvHeaderInner_wire {s : Socket} {h : UsbipHeader} {rest : List UInt8}
    (stream : s.incoming = h.wire ++ rest) :
    TcpSession.recvHeaderInner.run s =
      if h.u.word3 ≠ 0 then (.err .isochronousNotSupported, { s with incoming := rest })
      else if h.declaredLen > maxPayloadSize then
        (.err (.bufferTooLarge h.declaredLen maxPayloadSize), { s with incoming := rest })
      else if h.declaredLen ≤ rest.length then
        (decodeHeader (h.wire ++ rest.take h.declaredLen),
          { s with incoming := rest.drop h.declaredLen })
      else (.err (.ioError "early eof"), { s with incoming := [] }) := by
  have size := UsbipHeader.wire_length h
  have inspect := recvPayloadLen_wire h
  rw [recvHeaderInner_eq]
  by_cases packets : h.u.word3 ≠ 0
  · rw [if_pos packets] at inspect ⊢
    exact Program.run_bind_err (readFrame_refused size stream inspect)
  rw [if_neg packets, checkPayloadLen] at inspect
  rw [if_neg packets]
  by_cases large : h.declaredLen > maxPayloadSize
  · rw [if_pos large] at inspect ⊢
    exact Program.run_bind_err (readFrame_refused size stream inspect)
  rw [if_neg large] at inspect ⊢
  have read := readFrame_accepted size stream inspect
  by_cases enough : h.declaredLen ≤ rest.length
  · rw [if_pos enough] at read ⊢
    rw [Program.run_bind_ok read, Program.run_ofOutcome]
  · rw [if_neg enough] at read ⊢
    exact Program.run_bind_err read

theorem recvHeaderInner_short {s : Socket} (short : s.incoming.length < 48) :
    TcpSession.recvHeaderInner.run s = (.err (.ioError "early eof"), { s with incoming := [] }) :=
  Program.run_bind_err (readFrame_short short)

/-- Only the words of a SUBMIT header are looked at for an isochronous transfer
once its command is known. -/
theorem isochronous_iff_word3 {h : UsbipHeader}
    (submit : h.base.command = Constants.cmdSubmit ∨ h.base.command = Constants.retSubmit) :
    h.Isochronous ↔ h.u.word3 ≠ 0 := by
  have call : h.u.cmdSubmit.numberOfPackets = h.u.word3.toInt32 := rfl
  have reply : h.u.retSubmit.numberOfPackets = h.u.word3.toInt32 := rfl
  simp only [UsbipHeader.Isochronous, call, reply, ne_eq, toInt32_eq_zero]
  tauto

theorem not_isochronous_of_unlink {h : UsbipHeader}
    (unlink : h.base.command = Constants.cmdUnlink ∨ h.base.command = Constants.retUnlink) :
    ¬h.Isochronous := by
  rintro (⟨hc, _⟩ | ⟨hc, _⟩) <;> rw [hc] at unlink <;> exact absurd unlink (by decide)

end EasyUsb
