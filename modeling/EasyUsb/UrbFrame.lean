import EasyUsb.Session
import EasyUsb.Foundation.Exchange

namespace EasyUsb

open Foundation

/-- A frame that the encoder emits and the decoder takes: its payload is what its
header calls for. -/
structure UrbFrame where
  header : UsbipHeader
  payload : Option (List UInt8)
  direction : header.ValidDirection
  known : header.Known
  plain : ¬header.Isochronous
  small : header.declaredLen ≤ maxPayloadSize
  matching : header.Matching payload

namespace UrbFrame

def frame (f : UrbFrame) : Frame := (f.header, f.payload)

def bytes (frame : UrbFrame) : List UInt8 := frame.header.wire ++ frame.payload.getD []

theorem encode (frame : UrbFrame) : encodeHeader frame.header frame.payload = .ok frame.bytes :=
  encodeHeader_of_matching frame.direction frame.known frame.plain frame.small frame.matching

theorem decode (frame : UrbFrame) :
    decodeHeader frame.bytes = .ok (frame.header, frame.payload) := by
  have decoded := decodeHeader_of_matching frame.direction frame.known frame.small frame.matching []
  rwa [List.append_nil] at decoded

theorem payload_length (frame : UrbFrame) :
    (frame.payload.getD []).length = frame.header.declaredLen :=
  getD_length_of_matching frame.matching

end UrbFrame

theorem readExact_exchanges {bytes : List UInt8} {count : Nat} (size : bytes.length = count) :
    (readExact count).Exchanges bytes [] (.done bytes) :=
  (Program.Exchanges.read size).mapErr ProtocolError.ioError

theorem readFrame_exchanges {payloadLen : List UInt8 → Outcome ProtocolError Nat}
    {header payload : List UInt8} (size : header.length = 48)
    (found : payloadLen header = .ok payload.length) :
    (readFrame payloadLen).Exchanges (header ++ payload) [] (.done (header ++ payload)) := by
  have first : (readExact (basicHeaderSize + cmdHeaderSize)).Exchanges header [] (.done header) :=
    readExact_exchanges size
  rw [readFrame]
  refine (first.bind _).trans ?_
  show (Program.ofOutcome (payloadLen header) >>= _ : Program ProtocolError _).Exchanges _ _ _
  rw [found]
  show (if payload.length > 0 then _ else _ : Program ProtocolError _).Exchanges _ _ _
  by_cases more : payload.length > 0
  · rw [if_pos more]
    exact (readExact_exchanges rfl).bind_done rfl
  · have empty : payload = [] := List.length_eq_zero_iff.mp (by omega)
    subst empty
    rw [if_neg more, List.append_nil]
    exact .refl _

/-- The client finds the payload of a frame announced when nothing stands where it
looks for a packet count. -/
theorem UrbFrame.recv_finds {frame : UrbFrame} (clear : frame.header.u.word3 = 0) :
    recvPayloadLen frame.header.wire = .ok (frame.payload.getD []).length := by
  have small : ¬frame.header.declaredLen > maxPayloadSize := Nat.not_lt.mpr frame.small
  rw [recvPayloadLen_wire, if_neg (not_not.mpr clear), checkPayloadLen, if_neg small,
    frame.payload_length]

theorem UrbFrame.recv_exchanges (frame : UrbFrame) (clear : frame.header.u.word3 = 0) :
    TcpSession.recvHeaderInner.Exchanges frame.bytes [] (.done frame.frame) := by
  have decoded : decodeHeader (frame.header.wire ++ frame.payload.getD []) = _ := frame.decode
  have found := UrbFrame.recv_finds clear
  rw [recvHeaderInner_eq]
  refine (readFrame_exchanges frame.header.wire_length found).bind_done ?_
  rw [decoded]
  rfl

end EasyUsb
