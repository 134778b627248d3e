import EasyUsb.Foundation.Safety
import EasyUsb.ImportBijection
import EasyUsb.IncrementalDecoding
import EasyUsb.Server

namespace EasyUsb

open Foundation

/-- A 32-bit target that panics at a sum that overflows, and at a cast of anything
but a positive number. -/
def Usize.guarded : Usize where
  cast x := if 0 < x then .ok x.toInt.toNat else .panic
  add a b := if a + b < 2 ^ 32 then .ok (a + b) else .panic

section Guarded

theorem guarded_cast {x : Int32} (pos : 0 < x) : Usize.guarded.cast x = .ok (asUsize x) := by
  rw [asUsize_of_pos pos]
  exact if_pos pos

/-- The sum fits because a payload that is announced has less than 2^31 bytes. -/
theorem takePayloadOn_guarded {x : Int32} (pos : 0 < x) (buf : List UInt8) :
    takePayloadOn .guarded (asUsize x) buf = takePayloadOn .plain (asUsize x) buf := by
  have bound := asUsize_lt pos
  have fits : payloadOffset + asUsize x < 2 ^ 32 := by
    have offset : payloadOffset = 48 := rfl
    omega
  have sum : Usize.guarded.add payloadOffset (asUsize x) = .ok (payloadOffset + asUsize x) :=
    if_pos fits
  rw [takePayloadOn, sum, takePayloadOn, Usize.plain_add]

theorem decodeHeaderOn_guarded : decodeHeaderOn .guarded = decodeHeader := by
  funext buf
  refine Outcome.bind_congr fun basic => ?_
  split_ifs with short cs rs cu ru
  · rfl
  · refine Outcome.bind_congr fun body => Outcome.bind_congr fun cmd => ?_
    split_ifs with out
    · rw [guarded_cast out.1, Usize.plain_cast, Outcome.ok_bind, Outcome.ok_bind,
        takePayloadOn_guarded out.1]
    · rfl
  · refine Outcome.bind_congr fun body => Outcome.bind_congr fun ret => ?_
    split_ifs with reply
    · rw [guarded_cast reply, Usize.plain_cast, Outcome.ok_bind, Outcome.ok_bind,
        takePayloadOn_guarded reply]
    · rfl
  · rfl
  · rfl
  · rfl

theorem submitPayloadLenOn_guarded : submitPayloadLenOn .guarded = submitPayloadLenOn .plain := by
  funext buf direction
  refine Outcome.bind_congr fun tfl => ?_
  split_ifs with out
  · exact guarded_cast out.1
  · rfl

theorem replyPayloadLenOn_guarded : replyPayloadLenOn .guarded = replyPayloadLenOn .plain := by
  funext buf
  refine Outcome.bind_congr fun al => ?_
  split_ifs with reply
  · exact guarded_cast reply
  · rfl

theorem recvHeaderInnerOn_guarded :
    TcpSession.recvHeaderInnerOn .guarded = TcpSession.recvHeaderInner := by
  have announced : announcedLenOn .guarded = announcedLenOn .plain := by
    funext buf command direction
    rw [announcedLenOn, submitPayloadLenOn_guarded, replyPayloadLenOn_guarded]
    rfl
  have inspected : recvPayloadLenOn .guarded = recvPayloadLenOn .plain := by
    funext buf
    rw [recvPayloadLenOn, announced]
    rfl
  rw [TcpSession.recvHeaderInnerOn, inspected, decodeHeaderOn_guarded]
  rfl

theorem serveUrbEchoOn_guarded : serveUrbEchoOn .guarded = serveUrbEcho := by
  have inspected : servePayloadLenOn .guarded = servePayloadLenOn .plain := by
    funext buf
    rw [servePayloadLenOn, submitPayloadLenOn_guarded]
    rfl
  rw [serveUrbEchoOn, inspected, decodeHeaderOn_guarded]
  rfl

end Guarded

/-- The error of a field read that found too few bytes. -/
def ReadError (e : ProtocolError) : Prop :=
  ∃ name text, e = .encodingError ("failed to read " ++ name ++ ": " ++ text)

/-- The call keeps within its buffers, and none of its field reads fails. -/
abbrev Sound {α : Type} (x : Outcome ProtocolError α) : Prop := x.Avoids ReadError

theorem not_readError_of_ne {e : ProtocolError} (other : ∀ text, e ≠ .encodingError text) :
    ¬ReadError e := by
  intro ⟨name, why, same⟩
  exact other _ same

theorem not_readError_of_head {text : String} {c : Char} (head : text.toList.head? = some c)
    (other : c ≠ 'f') : ¬ReadError (.encodingError text) := by
  intro ⟨name, why, same⟩
  have spelled : text = "failed to read " ++ name ++ ": " ++ why :=
    ProtocolError.encodingError.inj same
  have first : text.toList.head? = some 'f' := by
    rw [spelled, String.toList_append, String.toList_append, String.toList_append]
    rfl
  rw [head] at first
  exact other (Option.some.inj first)

theorem not_readError_invalidDirection (direction : UInt32) :
    ¬ReadError (invalidDirection direction) := by
  apply @not_readError_of_head _ 'i'
  · rw [String.toList_append]
    rfl
  · decide

section Sound

theorem decodeHeader_sound (buf : List UInt8) : Sound (decodeHeader buf) := by
  rcases decodeStage buf with short | ⟨basic, rest, rfl, bad⟩ | ⟨basic, rest, rfl, short, fine⟩ |
    ⟨header, rest, rfl⟩
  · rw [decodeHeader_tiny short]
    exact not_readError_of_ne (by simp)
  · rw [decodeHeader_misdirected bad]
    exact not_readError_invalidDirection _
  · rw [decodeHeader_waiting fine short]
    exact not_readError_of_ne (by simp)
  · rw [decodeHeader_wire, decodeWire]
    split_ifs
    · trivial
    · exact not_readError_of_ne (by simp)
    · exact not_readError_of_ne (by simp)
    · trivial
    · exact not_readError_of_ne (by simp)
    · exact not_readError_invalidDirection _

theorem FixedSizeCodec.sound {α : Type} {encode : α → Outcome ProtocolError (List UInt8)}
    {decode : List UInt8 → Outcome ProtocolError α} {size : Nat}
    (codec : FixedSizeCodec encode decode size) (buf : List UInt8) : Sound (decode buf) := by
  by_cases enough : size ≤ buf.length
  · obtain ⟨message, decoded, _⟩ := codec.long buf enough
    rw [decoded]
    trivial
  · rw [codec.short buf (by omega)]
    exact not_readError_of_ne (by simp)

theorem encodeBasic_sound (basic : UsbipHeaderBasic) (buf : List UInt8) :
    Sound (encodeBasic basic buf) := by
  unfold encodeBasic
  split_ifs
  · exact not_readError_invalidDirection _
  · trivial

theorem encodeCmdSubmit_sound (cmd : UsbipHeaderCmdSubmit) (buf : List UInt8) :
    Sound (encodeCmdSubmit cmd buf) := by
  unfold encodeCmdSubmit
  split_ifs
  · exact not_readError_of_ne (by simp)
  · trivial

theorem encodeRetSubmit_sound (ret : UsbipHeaderRetSubmit) (buf : List UInt8) :
    Sound (encodeRetSubmit ret buf) := by
  unfold encodeRetSubmit
  split_ifs
  · exact not_readError_of_ne (by simp)
  · trivial

theorem putPayload_sound {missing : String} (fine : ¬ReadError (.encodingError missing))
    (payload : Option (List UInt8)) (buf : List UInt8) : Sound (putPayload missing payload buf) := by
  cases payload with
  | none => exact fine
  | some bytes =>
    dsimp only [putPayload]
    split_ifs
    · exact not_readError_of_ne (by simp)
    · trivial

theorem encodeHeader_sound (header : UsbipHeader) (payload : Option (List UInt8)) :
    Sound (encodeHeader header payload) := by
  refine (encodeBasic_sound header.base []).bind fun buf => ?_
  split_ifs
  · refine (encodeCmdSubmit_sound _ buf).bind fun image => ?_
    split_ifs
    · exact putPayload_sound (@not_readError_of_head _ 'C' rfl (by decide)) payload image
    · trivial
  · refine (encodeRetSubmit_sound _ buf).bind fun image => ?_
    split_ifs
    · exact putPayload_sound (@not_readError_of_head _ 'R' rfl (by decide)) payload image
    · trivial
  · trivial
  · trivial
  · exact not_readError_of_ne (by simp)

theorem readExact_sound (count : Nat) : (readExact count).Avoids ReadError :=
  Program.avoids_mapErr_read (fun _ => not_readError_of_ne (by simp)) count

/-- A reader inspects a whole header only. -/
theorem readFrame_sound {payloadLen : List UInt8 → Outcome ProtocolError Nat}
    (inspected : ∀ h : UsbipHeader, Sound (payloadLen h.wire)) :
    (readFrame payloadLen).Avoids ReadError := by
  refine (readExact_sound _).bind fun buf returned => ?_
  have size : buf.length = 48 := returned.length_read
  obtain ⟨h, image⟩ := exists_wire_eq size
  subst image
  refine (Program.avoids_ofOutcome (inspected h)).bind fun len _ => ?_
  split_ifs
  · exact (readExact_sound len).bind fun payload _ => Program.avoids_done _
  · exact Program.avoids_done _

theorem checkPayloadLen_sound (len : Nat) : Sound (checkPayloadLen len) := by
  unfold checkPayloadLen
  split_ifs
  · exact not_readError_of_ne (by simp)
  · trivial

theorem recvHeaderInner_sound : TcpSession.recvHeaderInner.Avoids ReadError := by
  rw [recvHeaderInner_eq]
  refine (readFrame_sound fun h => ?_).bind fun buf _ =>
    Program.avoids_ofOutcome (decodeHeader_sound buf)
  rw [recvPayloadLen_wire]
  split_ifs
  · exact not_readError_of_ne (by simp)
  · exact checkPayloadLen_sound _

theorem echoReply_sound (frame : Frame) : (echoReply frame).Avoids ReadError := by
  obtain ⟨header, payload⟩ := frame
  have written (bytes : List UInt8) :
      ((Program.write bytes).mapErr ProtocolError.ioError).Avoids ReadError :=
    Program.avoids_mapErr_write (fun _ => not_readError_of_ne (by simp)) bytes
  have sent (reply : UsbipHeader) (payload : Option (List UInt8)) :
      (do
        let encoded ← Program.ofOutcome (encodeHeader reply payload)
        (Program.write encoded).mapErr .ioError
        return header : Program ProtocolError UsbipHeader).Avoids ReadError :=
    (Program.avoids_ofOutcome (encodeHeader_sound reply payload)).bind fun encoded _ =>
      (written encoded).bind fun _ _ => Program.avoids_done _
  unfold echoReply
  dsimp only
  split_ifs
  · split
    · exact Program.avoids_fail (@not_readError_of_head _ 'C' rfl (by decide))
    · split_ifs
      · exact Program.avoids_fail (not_readError_of_ne (by simp))
      · exact sent _ _
  · exact sent _ _
  · exact Program.avoids_fail (not_readError_of_ne (by simp))

theorem serveUrbEcho_sound : serveUrbEcho.Avoids ReadError := by
  rw [serveUrbEcho_eq]
  refine (readFrame_sound fun h => ?_).bind fun buf _ =>
    (Program.avoids_ofOutcome (decodeHeader_sound buf)).bind fun frame _ => echoReply_sound frame
  rw [servePayloadLen_wire]
  exact checkPayloadLen_sound _

end Sound

/-- Whatever bytes arrive, the decoders and the readers neither panic nor meet a
field they cannot read. This is so also where casts and sums are guarded, since
there they answer the same. -/
theorem decoding_sound :
    (decodeHeaderOn .guarded = decodeHeader ∧ ∀ buf, Sound (decodeHeader buf)) ∧
      (∀ buf, Sound (decodeOpReqImport buf)) ∧
      (∀ buf, Sound (decodeOpRepImport buf)) ∧
      (TcpSession.recvHeaderInnerOn .guarded = TcpSession.recvHeaderInner ∧
        TcpSession.recvHeaderInner.Avoids ReadError) ∧
      (serveUrbEchoOn .guarded = serveUrbEcho ∧ serveUrbEcho.Avoids ReadError) :=
  ⟨⟨decodeHeaderOn_guarded, decodeHeader_sound⟩, reqImport_fixedSizeCodec.sound,
    repImport_fixedSizeCodec.sound, ⟨recvHeaderInnerOn_guarded, recvHeaderInner_sound⟩,
    serveUrbEchoOn_guarded, serveUrbEcho_sound⟩

end EasyUsb
