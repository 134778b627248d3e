import EasyUsb.Connection

namespace EasyUsb

open Foundation

def Call.receives : Call → Bool
  | .sendHeader _ _ => false
  | _ => true

theorem sendHeader_exchanges {ε : Type} {session : TcpSession} {header : UsbipHeader}
    {payload : Option (List UInt8)} {bytes : List UInt8} (opened : session.closed = false)
    (encoded : encodeHeader (session.stamp header) payload = .ok bytes) :
    (session.call (.sendHeader header payload) : Program ε _).Exchanges [] bytes
      (.done (.ok none, { session with nextSeqnum := session.nextSeqnum + 1 })) := by
  have written := (Program.Exchanges.write bytes).mapErr ProtocolError.ioError
  have attempted := @Program.Exchanges.attempt _ ε _ _ _ _ _ written
  have sent : (session.sendHeader header payload : Program ε _).Exchanges [] bytes
      (.done (.ok (), { session with nextSeqnum := session.nextSeqnum + 1 })) := by
    rw [TcpSession.sendHeader, if_neg (by simp [opened])]
    dsimp only
    rw [encoded]
    exact attempted.bind_done rfl
  exact sent.bind_done rfl

theorem recvHeader_exchanges {ε : Type} {session : TcpSession} {call : Call} {frame : UrbFrame}
    (opened : session.closed = false) (receives : call.receives = true)
    (clear : frame.header.u.word3 = 0) :
    (session.call call : Program ε _).Exchanges frame.bytes []
      (.done (.ok (some frame.frame), session)) := by
  have attempted := @Program.Exchanges.attempt _ ε _ _ _ _ _ (frame.recv_exchanges clear)
  cases call with
  | sendHeader header payload => cases receives
  | recvHeader =>
    have received : (session.recvHeader : Program ε _).Exchanges frame.bytes []
        (.done (.ok frame.frame, session)) := by
      rw [TcpSession.recvHeader, if_neg (by simp [opened])]
      exact attempted.bind_done rfl
    exact received.bind_done rfl
  | recvHeaderOrClose =>
    have received : (session.recvHeaderOrClose : Program ε _).Exchanges frame.bytes []
        (.done (.ok frame.frame, session)) :=
      attempted.bind_done rfl
    exact received.bind_done rfl

theorem ValidRequest.declared {header : UsbipHeader} {payload : Option (List UInt8)}
    (valid : ValidRequest header payload) (some_bytes : 0 < header.declaredLen) :
    ∃ bytes, payload = some bytes ∧ bytes.length = header.declaredLen ∧
      bytes.length ≤ maxPayloadSize := by
  rcases valid.command with hc | hc
  · have len := UsbipHeader.declaredLen_of_cmdSubmit hc
    by_cases out : 0 < header.u.cmdSubmit.transferBufferLength ∧
        header.base.direction = Constants.usbipDirOut
    · obtain ⟨bytes, carried, small, size⟩ := valid.payload hc out.2 out.1
      rw [if_pos out, asUsize_of_pos out.1] at len
      exact ⟨bytes, carried, by omega, small⟩
    · rw [if_neg out] at len
      omega
  · have len : header.declaredLen = 0 :=
      declaredLen_of_other (by rw [hc]; decide) (by rw [hc]; decide)
    omega

theorem ValidRequest.plain {header : UsbipHeader} {payload : Option (List UInt8)}
    (valid : ValidRequest header payload) : ¬header.Isochronous := by
  rcases valid.command with hc | hc
  · rintro (⟨_, packets⟩ | ⟨other, _⟩)
    · exact packets (valid.packets hc)
    · rw [hc] at other
      exact absurd other (by decide)
  · exact not_isochronous_of_unlink (Or.inl hc)

theorem ValidRequest.known {header : UsbipHeader} {payload : Option (List UInt8)}
    (valid : ValidRequest header payload) : header.Known := by
  rcases valid.command with hc | hc
  · exact Or.inl hc
  · exact Or.inr (Or.inr (Or.inl hc))

/-- A valid request goes out as a frame, whatever number it gets. -/
theorem exists_requestFrame {header : UsbipHeader} {payload : Option (List UInt8)}
    (valid : ValidRequest header payload) (seqnum : UInt32) :
    ∃ request : UrbFrame, request.frame =
        ({ header with base := { header.base with seqnum := seqnum } },
          if header.declaredLen = 0 then none else payload) ∧
      encodeHeader request.header payload = .ok request.bytes := by
  -- Neither the checks nor the length look at the number.
  let stamped : UsbipHeader := { header with base := { header.base with seqnum := seqnum } }
  have same : stamped.declaredLen = header.declaredLen := rfl
  have dir : stamped.ValidDirection := valid.direction
  have known : stamped.Known := valid.known
  have plain : ¬stamped.Isochronous := valid.plain
  by_cases len : header.declaredLen = 0
  · have matching : stamped.Matching none := matching_none len
    refine ⟨⟨stamped, none, dir, known, plain, by omega, matching⟩, ?_, ?_⟩
    · rw [if_pos len]
      rfl
    · exact encodeHeader_eq_ok.mpr ⟨dir, known, plain, Or.inl ⟨len, List.append_nil _⟩⟩
  · have some_bytes : 0 < stamped.declaredLen := Nat.pos_of_ne_zero len
    obtain ⟨bytes, rfl, size, small⟩ := valid.declared some_bytes
    have matching : stamped.Matching (some bytes) := matching_some some_bytes size
    refine ⟨⟨stamped, some bytes, dir, known, plain, by omega, matching⟩, ?_, ?_⟩
    · rw [if_neg len]
      rfl
    · exact encodeHeader_eq_ok.mpr
        ⟨dir, known, plain, Or.inr ⟨some_bytes, bytes, rfl, small, rfl⟩⟩

/-- The server answers a request with its echo, in which nothing stands where the
client looks for a packet count. -/
theorem exists_echo (frame : UrbFrame)
    (request : frame.header.base.command = Constants.cmdSubmit ∨
      frame.header.base.command = Constants.cmdUnlink) :
    ∃ reply : UrbFrame, reply.frame = echoOf frame.frame ∧ reply.header.u.word3 = 0 ∧
      serveUrbEcho.Exchanges frame.bytes reply.bytes (.done frame.header) := by
  by_cases hc : frame.header.base.command = Constants.cmdSubmit
  · obtain ⟨reply, header, payload⟩ := exists_submitReply frame frame.header.u.cmdSubmit
    have small : (frame.payload.getD []).length < 2 ^ 31 := by
      rw [frame.payload_length]
      exact frame.header.declaredLen_lt
    have same : (frame.payload.map List.length).getD 0 = (frame.payload.getD []).length := by
      cases frame.payload <;> rfl
    have length : echoLen frame.payload = Int32.ofNat (frame.payload.getD []).length := by
      rw [echoLen, same, if_pos small]
    refine ⟨reply, ?_, by rw [header]; rfl, serveUrbEcho_submit hc header payload⟩
    rw [UrbFrame.frame, UrbFrame.frame, header, payload, echoOf, if_pos hc, submitReply, length]
  · have hc : frame.header.base.command = Constants.cmdUnlink := request.resolve_left hc
    obtain ⟨reply, header, payload⟩ := exists_unlinkReply frame
    refine ⟨reply, ?_, by rw [header]; rfl, serveUrbEcho_unlink hc header payload⟩
    have other : ¬frame.header.base.command = Constants.cmdSubmit := by rw [hc]; decide
    rw [UrbFrame.frame, UrbFrame.frame, header, payload, echoOf, if_neg other, unlinkReply]

end EasyUsb
