import EasyUsb.IncrementalDecoding
import EasyUsb.Server

namespace EasyUsb

open Foundation

/-- The requests that are answered: transfers in one piece, and unlinks. -/
def UsbipHeader.Served (h : UsbipHeader) : Prop :=
  (h.base.command = Constants.cmdSubmit ∧ h.u.cmdSubmit.numberOfPackets = 0) ∨
    h.base.command = Constants.cmdUnlink

/-- The bytes of one frame that answers a request: it decodes completely, to the
reply that echoes the payload of a transfer or confirms an unlink. -/
def Answers (h : UsbipHeader) (p : Option (List UInt8)) (bytes : List UInt8) : Prop :=
  ∃ reply q, decodeHeader bytes = .ok (reply, q) ∧
    bytes.length = payloadOffset + (q.getD []).length ∧
    reply.base.seqnum = h.base.seqnum ∧ reply.base.devid = h.base.devid ∧
    reply.base.ep = h.base.ep ∧
    ((h.base.command = Constants.cmdSubmit ∧ reply.base.command = Constants.retSubmit ∧
        reply.u.retSubmit.actualLength.toInt = (p.getD []).length ∧ q = p) ∨
      (h.base.command = Constants.cmdUnlink ∧ reply.base.command = Constants.retUnlink ∧ q = none))

/-- Whatever is not a served request on its own is refused without a word. -/
theorem serveUrbEcho_refused {s : Socket}
    (refused : ∀ h p, decodeHeader s.incoming = .ok (h, p) → ¬h.Served) :
    ∃ e s', serveUrbEcho.run s = (.err e, s') ∧ s'.outgoing = s.outgoing := by
  rcases readFrame_cases servePayloadLen_ne_panic s with
    ⟨e, s', failed, same⟩ | ⟨header, body, len, stream, _, _, read⟩
  · exact ⟨e, s', Program.run_bind_err failed, same⟩
  let rest := body.drop len
  rw [serveUrbEcho_eq, Program.run_bind_ok read]
  rcases decoded : decodeHeader (header.wire ++ body.take len) with frame | e | _
  · obtain ⟨h, p⟩ := frame
    have whole : decodeHeader s.incoming = .ok (h, p) := by
      have final := decodeHeader_incremental.final _ rest (asks_of_ok decoded)
      rw [List.append_assoc, List.take_append_drop] at final
      rw [stream, final, decoded]
    have unserved := refused h p whole
    by_cases cs : h.base.command = Constants.cmdSubmit
    · have accessor : h.cmdSubmit = some h.u.cmdSubmit := if_pos cs
      have packets : h.u.cmdSubmit.numberOfPackets ≠ 0 := fun none => unserved (Or.inl ⟨cs, none⟩)
      refine ⟨.isochronousNotSupported, { s with incoming := rest }, ?_, rfl⟩
      show Program.run (if h.base.command = Constants.cmdSubmit then _ else _) _ = _
      rw [if_pos cs, accessor]
      show Program.run (if h.u.cmdSubmit.numberOfPackets ≠ 0 then _ else _) _ = _
      rw [if_pos packets]
      rfl
    · have cu : h.base.command ≠ Constants.cmdUnlink := fun same => unserved (Or.inr same)
      refine ⟨.invalidCommand h.base.command, { s with incoming := rest }, ?_, rfl⟩
      show Program.run (if h.base.command = Constants.cmdSubmit then _ else
        if h.base.command = Constants.cmdUnlink then _ else _) _ = _
      rw [if_neg cs, if_neg cu]
      rfl
  · exact ⟨e, { s with incoming := rest }, rfl, rfl⟩
  · exact absurd decoded (decodeHeader_ne_panic _)

theorem exists_urbFrame {stream : List UInt8} {h : UsbipHeader} {p : Option (List UInt8)}
    (decoded : decodeHeader stream = .ok (h, p)) (plain : ¬h.Isochronous) :
    ∃ (frame : UrbFrame) (rest : List UInt8), frame.header = h ∧ frame.payload = p ∧
      stream = frame.bytes ++ rest := by
  obtain ⟨dir, known, small, _⟩ := decodeHeader_eq_ok.mp decoded
  obtain ⟨rest, image⟩ := prefix_of_decodeHeader decoded
  exact ⟨⟨h, p, dir, known, plain, small, matching_of_decodeHeader decoded⟩, rest, rfl, rfl, image⟩

theorem UsbipHeader.Served.plain {h : UsbipHeader} (served : h.Served) : ¬h.Isochronous := by
  rcases served with ⟨cs, packets⟩ | cu
  · intro iso
    rcases iso with ⟨_, some_packets⟩ | ⟨rs, _⟩
    · exact some_packets packets
    · rw [cs] at rs
      exact absurd rs (by decide)
  · exact not_isochronous_of_unlink (Or.inl cu)

theorem UrbFrame.bytes_length (f : UrbFrame) :
    f.bytes.length = payloadOffset + (f.payload.getD []).length := by
  rw [UrbFrame.bytes, List.length_append, UsbipHeader.wire_length]
  rfl

theorem answers_submit {frame reply : UrbFrame}
    (cs : frame.header.base.command = Constants.cmdSubmit)
    (header : reply.header = submitReply frame.header frame.header.u.cmdSubmit frame.payload)
    (payload : reply.payload = frame.payload) :
    Answers frame.header frame.payload reply.bytes := by
  have small : (frame.payload.getD []).length < 2 ^ 31 := by
    rw [frame.payload_length]
    exact Nat.lt_of_le_of_lt frame.small (by decide)
  have length := reply.bytes_length
  have decoded := reply.decode
  rw [header] at decoded
  refine ⟨_, _, decoded, length, rfl, rfl, rfl, Or.inl ⟨cs, rfl, ?_, payload⟩⟩
  rw [submitReply, UsbipHeaderUnion.retSubmit_ofRetSubmit]
  exact echoLen_toInt small

theorem answers_unlink {frame reply : UrbFrame}
    (cu : frame.header.base.command = Constants.cmdUnlink)
    (header : reply.header = unlinkReply frame.header) (payload : reply.payload = none) :
    Answers frame.header frame.payload reply.bytes := by
  have length := reply.bytes_length
  have decoded := reply.decode
  rw [header] at decoded
  exact ⟨_, _, decoded, length, rfl, rfl, rfl, Or.inr ⟨cu, rfl, payload⟩⟩

/-- A served request at the front of the stream is taken whole and answered by
one frame. -/
theorem serveUrbEcho_served {s : Socket} (writable : s.Writable) {h : UsbipHeader}
    {p : Option (List UInt8)} (decoded : decodeHeader s.incoming = .ok (h, p))
    (served : h.Served) :
    ∃ used rest bytes, s.incoming = used ++ rest ∧
      used.length = payloadOffset + (p.getD []).length ∧ Answers h p bytes ∧
      serveUrbEcho.run s =
        (.ok h, { s with incoming := rest, outgoing := s.outgoing ++ bytes }) := by
  obtain ⟨frame, rest, rfl, rfl, stream⟩ := exists_urbFrame decoded served.plain
  rcases served with ⟨cs, _⟩ | cu
  · obtain ⟨reply, header, payload⟩ := exists_submitReply frame frame.header.u.cmdSubmit
    have ran := (serveUrbEcho_submit cs header payload).run writable stream
    exact ⟨_, rest, _, stream, frame.bytes_length, answers_submit cs header payload, ran⟩
  · obtain ⟨reply, header, payload⟩ := exists_unlinkReply frame
    have ran := (serveUrbEcho_unlink cu header payload).run writable stream
    exact ⟨_, rest, _, stream, frame.bytes_length, answers_unlink cu header payload, ran⟩

/-- While writing works, `serve_urb_echo` accepts exactly the served requests,
takes and answers each of them once, and otherwise writes nothing. -/
theorem serveUrbEcho_answers (s : Socket) (writable : s.Writable) :
    (∀ h, (serveUrbEcho.run s).1 = .ok h ↔
      ∃ p, decodeHeader s.incoming = .ok (h, p) ∧ h.Served) ∧
    (∀ h p, (serveUrbEcho.run s).1 = .ok h → decodeHeader s.incoming = .ok (h, p) →
      ∃ used bytes, s.incoming = used ++ (serveUrbEcho.run s).2.incoming ∧
        used.length = payloadOffset + (p.getD []).length ∧
        (serveUrbEcho.run s).2.outgoing = s.outgoing ++ bytes ∧ Answers h p bytes) ∧
    ((∀ h, (serveUrbEcho.run s).1 ≠ .ok h) → (serveUrbEcho.run s).2.outgoing = s.outgoing) := by
  by_cases request : ∃ h p, decodeHeader s.incoming = .ok (h, p) ∧ h.Served
  · obtain ⟨h, p, decoded, served⟩ := request
    obtain ⟨used, rest, bytes, stream, size, answers, ran⟩ :=
      serveUrbEcho_served writable decoded served
    rw [ran]
    refine ⟨fun h' => ⟨fun same => ?_, fun other => ?_⟩, fun h' p' same decoded' => ?_,
      fun failed => absurd rfl (failed h)⟩
    · cases same
      exact ⟨p, decoded, served⟩
    · obtain ⟨p', decoded', _⟩ := other
      cases decoded.symm.trans decoded'
      rfl
    · cases decoded.symm.trans decoded'
      exact ⟨used, bytes, stream, size, rfl, answers⟩
  · obtain ⟨e, s', ran, same⟩ := @serveUrbEcho_refused s
      (fun h p decoded served => request ⟨h, p, decoded, served⟩)
    rw [ran]
    refine ⟨fun h => ⟨fun accepted => ?_, fun other => ?_⟩, fun h p accepted => ?_,
      fun _ => same⟩
    · cases accepted
    · obtain ⟨p, decoded, served⟩ := other
      exact absurd ⟨h, p, decoded, served⟩ request
    · cases accepted

/-- An unlink request, and the stream it comes in. -/
def unlinkRequest : UsbipHeader :=
  ⟨⟨Constants.cmdUnlink, 7, 3, Constants.usbipDirOut, 0⟩,
    .ofCmdUnlink ⟨5, Vector.replicate 6 0⟩⟩

theorem serveUrbEcho_answers_unlink :
    (serveUrbEcho.run ⟨unlinkRequest.wire, [], false, none⟩).1 = .ok unlinkRequest :=
  ((serveUrbEcho_answers ⟨unlinkRequest.wire, [], false, none⟩ ⟨rfl, rfl⟩).1 unlinkRequest).mpr
    ⟨none, by decide, Or.inr rfl⟩

end EasyUsb
