import EasyUsb.Session

namespace EasyUsb

open Foundation

/-- The client's reader and the buffer decoder accept the same frames off a
stream, and the reader takes exactly the frame. -/
def ReaderAgrees (s : Socket) : Prop :=
  ∀ h p,
    ((TcpSession.recvHeaderInner.run s).1 = .ok (h, p) ↔
      decodeHeader s.incoming = .ok (h, p) ∧ ¬h.Isochronous) ∧
    ((TcpSession.recvHeaderInner.run s).1 = .ok (h, p) →
      ∃ used, s.incoming = used ++ (TcpSession.recvHeaderInner.run s).2.incoming ∧
        used.length = payloadOffset + (p.getD []).length)

/-- No complete unlink header stands at the front of the stream with a non-zero
word where a SUBMIT header keeps its packet count. -/
def UnlinkPaddingClear (stream : List UInt8) : Prop :=
  ∀ command direction word, payloadOffset ≤ stream.length →
    wordAt stream 0 = .ok command → wordAt stream directionOffset = .ok direction →
    wordAt stream numPacketsOffset = .ok word →
    (command = Constants.cmdUnlink ∨ command = Constants.retUnlink) →
    (direction = Constants.usbipDirOut ∨ direction = Constants.usbipDirIn) → word = 0

def UsbipHeader.Unlink (h : UsbipHeader) : Prop :=
  h.base.command = Constants.cmdUnlink ∨ h.base.command = Constants.retUnlink

instance (h : UsbipHeader) : Decidable h.Unlink := by
  unfold UsbipHeader.Unlink; infer_instance

theorem unlinkPaddingClear_wire (h : UsbipHeader) (rest : List UInt8) :
    UnlinkPaddingClear (h.wire ++ rest) ↔ (h.Unlink → h.ValidDirection → h.u.word3 = 0) := by
  constructor
  · intro clear unlink dir
    exact clear _ _ _ (by simp [payloadOffset, basicHeaderSize, cmdHeaderSize])
      (wordAt_command h rest) (wordAt_direction h rest) (wordAt_numPackets h rest) unlink dir
  · intro clear command direction word _ hc hd hw unlink dir
    cases (wordAt_command h rest).symm.trans hc
    cases (wordAt_direction h rest).symm.trans hd
    cases (wordAt_numPackets h rest).symm.trans hw
    exact clear unlink dir

theorem UsbipHeader.Known.submit_or_unlink {h : UsbipHeader} (known : h.Known) :
    (h.base.command = Constants.cmdSubmit ∨ h.base.command = Constants.retSubmit) ∨ h.Unlink := by
  unfold UsbipHeader.Known at known
  unfold UsbipHeader.Unlink
  tauto

/-- With its packet word clear, a header reaches the decoder unless the size
checks stop it. -/
theorem recvHeaderInner_ok {s : Socket} {h : UsbipHeader} {rest : List UInt8}
    (stream : s.incoming = h.wire ++ rest) (clear : h.u.word3 = 0)
    (small : h.declaredLen ≤ maxPayloadSize) (enough : h.declaredLen ≤ rest.length) :
    TcpSession.recvHeaderInner.run s =
      (decodeHeader (h.wire ++ rest), { s with incoming := rest.drop h.declaredLen }) := by
  have full : (rest.take h.declaredLen).length = h.declaredLen := by simpa using enough
  have same : decodeHeader (h.wire ++ rest.take h.declaredLen) =
      decodeHeader (h.wire ++ rest) := by
    rw [decodeHeader_wire, decodeHeader_wire, decodeWire, decodeWire, full, List.take_take,
      Nat.min_self, if_neg (Nat.lt_irrefl _), if_neg (Nat.not_lt.mpr enough)]
  rw [recvHeaderInner_wire stream, if_neg (not_not.mpr clear), if_neg (Nat.not_lt.mpr small),
    if_pos enough, same]

theorem decodeHeader_wire_fst {header h : UsbipHeader} {rest : List UInt8}
    {p : Option (List UInt8)} (decoded : decodeHeader (header.wire ++ rest) = .ok (h, p)) :
    h = header := by
  rw [decodeHeader_wire, decodeWire] at decoded
  split_ifs at decoded <;> cases decoded <;> rfl

theorem recvHeaderInner_eq_ok {s : Socket} {h : UsbipHeader} {p : Option (List UInt8)} :
    (TcpSession.recvHeaderInner.run s).1 = .ok (h, p) ↔
      h.u.word3 = 0 ∧ decodeHeader s.incoming = .ok (h, p) := by
  constructor
  · intro received
    have long : 48 ≤ s.incoming.length := by
      by_contra short
      rw [recvHeaderInner_short (by omega)] at received
      cases received
    obtain ⟨header, rest, stream⟩ := exists_wire long
    have result := recvHeaderInner_wire stream
    rw [result] at received
    split_ifs at received with packets large enough
    have clear : header.u.word3 = 0 := not_not.mp packets
    have ok := recvHeaderInner_ok stream clear (by omega) enough
    rw [result, if_neg packets, if_neg large, if_pos enough] at ok
    have decoded : decodeHeader (header.wire ++ rest) = .ok (h, p) :=
      (congrArg Prod.fst ok).symm.trans received
    have same := decodeHeader_wire_fst decoded
    subst same
    exact ⟨clear, by rw [stream, decoded]⟩
  · rintro ⟨clear, decoded⟩
    obtain ⟨_, _, small, rest, stream, enough, _⟩ := decodeHeader_eq_ok.mp decoded
    rw [recvHeaderInner_ok stream clear small enough, ← stream, decoded]

theorem recvHeaderInner_consumed {s : Socket} {h : UsbipHeader} {p : Option (List UInt8)}
    (received : (TcpSession.recvHeaderInner.run s).1 = .ok (h, p)) :
    s.incoming = h.wire ++ p.getD [] ++ (TcpSession.recvHeaderInner.run s).2.incoming := by
  obtain ⟨clear, decoded⟩ := recvHeaderInner_eq_ok.mp received
  obtain ⟨_, _, small, rest, stream, enough, payload⟩ := decodeHeader_eq_ok.mp decoded
  have bytes : p.getD [] = rest.take h.declaredLen := by
    rw [payload]
    split_ifs with empty
    · simp [empty]
    · rfl
  rw [recvHeaderInner_ok stream clear small enough, stream, bytes, List.append_assoc,
    List.take_append_drop]

theorem recvHeaderInner_agrees_iff (s : Socket) :
    ReaderAgrees s ↔ UnlinkPaddingClear s.incoming := by
  constructor
  · intro agrees command direction word long hc hd hw unlink dir
    obtain ⟨h, rest, stream⟩ := exists_wire long
    rw [stream] at hc hd hw
    cases (wordAt_command h rest).symm.trans hc
    cases (wordAt_direction h rest).symm.trans hd
    cases (wordAt_numPackets h rest).symm.trans hw
    have known : h.Known := Or.inr (Or.inr unlink)
    have empty : h.declaredLen = 0 := by
      apply declaredLen_of_other <;> rcases unlink with hc | hc <;> rw [hc] <;> decide
    have decoded : decodeHeader s.incoming = .ok (h, none) := by
      apply decodeHeader_eq_ok.mpr
      exact ⟨dir, known, by omega, rest, stream, by omega, by rw [if_pos empty]⟩
    have received := (agrees h none).1.mpr ⟨decoded, not_isochronous_of_unlink unlink⟩
    exact (recvHeaderInner_eq_ok.mp received).1
  · intro clear h p
    refine ⟨?_, ?_⟩
    · rw [recvHeaderInner_eq_ok]
      constructor
      · rintro ⟨packets, decoded⟩
        refine ⟨decoded, ?_⟩
        rcases (decodeHeader_eq_ok.mp decoded).2.1.submit_or_unlink with submit | unlink
        · exact fun iso => (isochronous_iff_word3 submit).mp iso packets
        · exact not_isochronous_of_unlink unlink
      · rintro ⟨decoded, iso⟩
        refine ⟨?_, decoded⟩
        obtain ⟨dir, known, _, rest, stream, _⟩ := decodeHeader_eq_ok.mp decoded
        rcases known.submit_or_unlink with submit | unlink
        · exact not_not.mp (fun packets => iso ((isochronous_iff_word3 submit).mpr packets))
        · rw [stream] at clear
          exact (unlinkPaddingClear_wire h rest).mp clear unlink dir
    · intro received
      have matching := matching_of_decodeHeader (recvHeaderInner_eq_ok.mp received).2
      refine ⟨h.wire ++ p.getD [], recvHeaderInner_consumed received, ?_⟩
      simp [payloadOffset, basicHeaderSize, cmdHeaderSize]

/-- A RET_UNLINK whose third padding word is not zero. -/
def paddedRetUnlink : UsbipHeader :=
  ⟨⟨Constants.retUnlink, 7, 0, Constants.usbipDirOut, 0⟩,
    .ofRetUnlink ⟨0, #v[0, 0, 1, 0, 0, 0]⟩⟩

/-- The decoder takes it; the client's reader calls it isochronous. -/
theorem recvHeaderInner_refuses_padding :
    ¬ReaderAgrees ⟨paddedRetUnlink.wire, [], false, none⟩ := by
  intro agrees
  have decoded : decodeHeader paddedRetUnlink.wire = .ok (paddedRetUnlink, none) := by decide
  have received := (agrees paddedRetUnlink none).1.mpr ⟨decoded, by decide⟩
  exact absurd received (by decide)

end EasyUsb
