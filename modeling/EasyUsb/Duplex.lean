import EasyUsb.Foundation.Interference
import EasyUsb.RejectedFrames
import EasyUsb.RequestReply
import EasyUsb.SendSequence

namespace EasyUsb

open Foundation

def Call.sends : Call → Bool
  | .sendHeader _ _ => true
  | _ => false

/-- Reading looks at the incoming bytes alone, and changes them alone. -/
theorem recvHeaderInner_local (stream : List UInt8) :
    ∃ (result : Except ProtocolError Frame) (left : List UInt8), ∀ s, s.incoming = stream →
      TcpSession.recvHeaderInner.run s =
        (match result with | .ok frame => .ok frame | .error e => .err e,
          { s with incoming := left }) := by
  by_cases short : stream.length < 48
  · exact ⟨.error _, [], fun s same => recvHeaderInner_short (by rwa [same])⟩
  obtain ⟨h, rest, image⟩ := exists_wire (by omega : 48 ≤ stream.length)
  have reads : ∀ s : Socket, s.incoming = stream → s.incoming = h.wire ++ rest :=
    fun s same => same.trans image
  by_cases packets : h.u.word3 ≠ 0
  · exact ⟨.error _, rest, fun s same => by
      rw [recvHeaderInner_wire (reads s same), if_pos packets]⟩
  by_cases large : h.declaredLen > maxPayloadSize
  · exact ⟨.error _, rest, fun s same => by
      rw [recvHeaderInner_wire (reads s same), if_neg packets, if_pos large]⟩
  by_cases enough : h.declaredLen ≤ rest.length
  · have taken : ∀ s, s.incoming = stream → TcpSession.recvHeaderInner.run s =
        (decodeHeader (h.wire ++ rest.take h.declaredLen),
          { s with incoming := rest.drop h.declaredLen }) := fun s same => by
      rw [recvHeaderInner_wire (reads s same), if_neg packets, if_neg large, if_pos enough]
    rcases decoded : decodeHeader (h.wire ++ rest.take h.declaredLen) with frame | e | _
    · exact ⟨.ok frame, _, fun s same => by rw [taken s same, decoded]⟩
    · exact ⟨.error e, _, fun s same => by rw [taken s same, decoded]⟩
    · exact absurd decoded (decodeHeader_ne_panic _)
  · exact ⟨.error _, [], fun s same => by
      rw [recvHeaderInner_wire (reads s same), if_neg packets, if_neg large, if_neg enough]⟩

/-- What receiving does on a session: on an open one it takes bytes off the stream,
and where that fails `recv_header_or_close` closes the session. -/
theorem perform_receive (stream : List UInt8) :
    ∃ (result : Except ProtocolError Frame) (left : List UInt8), ∀ o : Owned,
      o.socket.incoming = stream →
      (o.session.closed = false → o.perform .recvHeader =
        some (result.map some, ⟨o.session, { o.socket with incoming := left }⟩)) ∧
      o.perform .recvHeaderOrClose = some (result.map some, match result with
        | .ok _ => ⟨o.session, { o.socket with incoming := left }⟩
        | .error _ => ⟨{ o.session with closed := true },
            { o.socket with incoming := left, writeShut := true }⟩) := by
  obtain ⟨result, left, reads⟩ := recvHeaderInner_local stream
  refine ⟨result, left, fun o same => ⟨fun opened => ?_, ?_⟩⟩
  · rw [perform_recvHeader opened, reads o.socket same]
    cases result with
    | ok frame => rfl
    | error e => rfl
  · rw [perform_recvHeaderOrClose, reads o.socket same]
    cases result with
    | ok frame => rfl
    | error e => rfl

/-- Writing pays no regard to the incoming bytes. -/
theorem write_local (s : Socket) (incoming bytes : List UInt8) :
    ({ s with incoming := incoming } : Socket).write bytes =
      ((s.write bytes).1, { (s.write bytes).2 with incoming := incoming }) ∧
    (s.write bytes).2.incoming = s.incoming := by
  unfold Socket.write
  by_cases shut : s.writeShut = true
  · exact ⟨by rw [if_pos shut, if_pos shut], by rw [if_pos shut]⟩
  rw [if_neg shut, if_neg shut]
  cases s.fault with
  | none => exact ⟨rfl, rfl⟩
  | some limit =>
    obtain ⟨room, text⟩ := limit
    dsimp only
    split_ifs
    · exact ⟨rfl, rfl⟩
    · exact ⟨rfl, rfl⟩

/-- What sending does on an open session. -/
theorem perform_send {o : Owned} (opened : o.session.closed = false) (header : UsbipHeader)
    (payload : Option (List UInt8)) :
    o.perform (.sendHeader header payload) =
      match encodeHeader (o.session.stamp header) payload with
      | .ok buf => some (((o.socket.write buf).1.mapError .ioError).map fun _ => none,
          ⟨o.session.counted, (o.socket.write buf).2⟩)
      | .err e => some (.error e, ⟨o.session.counted, o.socket⟩)
      | .panic => none := by
  show o.send (header, payload) = _
  rcases send_cases opened (header, payload) with
    ⟨e, encoded, sent⟩ | ⟨buf, encoded, ⟨socket, written, sent⟩ | ⟨e, socket, written, sent⟩⟩
  · rw [sent, encoded]
  · rw [sent, encoded]
    dsimp only
    rw [written]
    rfl
  · rw [sent, encoded]
    dsimp only
    rw [written]
    rfl

theorem exists_perform (o : Owned) (call : Call) : ∃ r, o.perform call = some r := by
  cases call with
  | sendHeader header payload =>
    by_cases closed : o.session.closed = true
    · exact ⟨_, send_closed closed (header, payload)⟩
    · have opened := Bool.not_eq_true _ ▸ closed
      rcases send_cases opened (header, payload) with
        ⟨e, _, sent⟩ | ⟨buf, _, ⟨socket, _, sent⟩ | ⟨e, socket, _, sent⟩⟩
      · exact ⟨_, sent⟩
      · exact ⟨_, sent⟩
      · exact ⟨_, sent⟩
  | recvHeader =>
    by_cases closed : o.session.closed = true
    · exact ⟨_, perform_of_closed closed (by decide)⟩
    · obtain ⟨result, left, receives⟩ := perform_receive o.socket.incoming
      exact ⟨_, (receives o rfl).1 (Bool.not_eq_true _ ▸ closed)⟩
  | recvHeaderOrClose =>
    obtain ⟨result, left, receives⟩ := perform_receive o.socket.incoming
    exact ⟨_, (receives o rfl).2⟩

section

variable {o o' p : Owned} {header : UsbipHeader} {payload : Option (List UInt8)} {answer : Answer}
variable (sent : o.perform (.sendHeader header payload) = some (answer, o'))

include sent

theorem send_reading :
    o'.session.closed = o.session.closed ∧ o'.socket.incoming = o.socket.incoming := by
  by_cases closed : o.session.closed = true
  · cases (perform_of_closed closed Call.noConfusion).symm.trans sent
    exact ⟨rfl, rfl⟩
  have opened : o.session.closed = false := Bool.not_eq_true _ ▸ closed
  rw [perform_send opened] at sent
  rcases encoded : encodeHeader (o.session.stamp header) payload with buf | e | _
  · rw [encoded] at sent
    cases sent
    exact ⟨rfl, (write_local o.socket [] buf).2⟩
  · rw [encoded] at sent
    cases sent
    exact ⟨rfl, rfl⟩
  · exact absurd encoded (encodeHeader_ne_panic _ _)

end

end EasyUsb
