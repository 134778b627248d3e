import EasyUsb.ReaderAgreement
import EasyUsb.IncrementalDecoding
import EasyUsb.Server

namespace EasyUsb

open Foundation

/-- The buffer that a reader hands to the decoder, when it gets so far. -/
def Reaches (payloadLen : List UInt8 → Outcome ProtocolError Nat) (s : Socket)
    (buf : List UInt8) : Prop :=
  ((readFrame payloadLen).run s).1 = .ok buf

/-- What the reader fetches is never too little for the decoder nor more than it
takes, and as long as the frame that the decoder finds in the stream. -/
structure FetchesFrame (payloadLen : List UInt8 → Outcome ProtocolError Nat) (s : Socket) :
    Prop where
  enough : ∀ buf, Reaches payloadLen s buf →
    ∀ needed available, decodeHeader buf ≠ .err (.incompleteBuffer needed available)
  noMore : ∀ buf h p, Reaches payloadLen s buf → decodeHeader buf = .ok (h, p) →
    p.getD [] = buf.drop payloadOffset
  length : ∀ buf h p, Reaches payloadLen s buf → decodeHeader s.incoming = .ok (h, p) →
    buf.length = payloadOffset + (p.getD []).length

structure ReadersFetchExactly (s : Socket) : Prop where
  recv : FetchesFrame recvPayloadLen s
  serve : FetchesFrame servePayloadLen s
  unserved : ∀ (h : UsbipHeader) (rest : List UInt8), s.incoming = h.wire ++ rest →
    h.ValidDirection → h.base.command ≠ Constants.cmdSubmit →
    h.base.command ≠ Constants.cmdUnlink →
    (serveUrbEcho.run s).1 = .err (.invalidCommand h.base.command)

/-- The stream starts with the header of a RET_SUBMIT that has a payload. -/
def ReplyAhead (stream : List UInt8) : Prop :=
  payloadOffset ≤ stream.length ∧ wordAt stream 0 = .ok Constants.retSubmit ∧
    ∃ direction word, wordAt stream directionOffset = .ok direction ∧
      (direction = Constants.usbipDirOut ∨ direction = Constants.usbipDirIn) ∧
      wordAt stream tflOffset = .ok word ∧ 0 < word.toInt32

theorem reaches_cases {payloadLen : List UInt8 → Outcome ProtocolError Nat}
    (total : ∀ h : UsbipHeader, payloadLen h.wire ≠ .panic) {s : Socket} {buf : List UInt8}
    (reached : Reaches payloadLen s buf) :
    ∃ (h : UsbipHeader) (rest : List UInt8) (len : Nat), s.incoming = h.wire ++ rest ∧
      payloadLen h.wire = .ok len ∧ len ≤ rest.length ∧ buf = h.wire ++ rest.take len := by
  unfold Reaches at reached
  rcases readFrame_cases total s with
    ⟨e, s', failed, _⟩ | ⟨h, rest, len, stream, found, enough, read⟩
  · rw [failed] at reached
    cases reached
  · rw [read] at reached
    cases reached
    exact ⟨h, rest, len, stream, found, enough, rfl⟩

/-- What a decoded frame says about the header that the stream starts with. -/
theorem declared_of_decoded {h header : UsbipHeader} {bytes : List UInt8}
    {p : Option (List UInt8)} (decoded : decodeHeader (h.wire ++ bytes) = .ok (header, p)) :
    header = h ∧ h.ValidDirection ∧ h.Known ∧ (p.getD []).length = h.declaredLen := by
  have same := decodeHeader_wire_fst decoded
  subst same
  obtain ⟨dir, known, _⟩ := decodeHeader_eq_ok.mp decoded
  exact ⟨rfl, dir, known, getD_length_of_matching (matching_of_decodeHeader decoded)⟩

/-- A reader fetches the frame when the length it finds announced is the declared
one, for the headers the decoder gets to the payload of. -/
theorem fetchesFrame_of_declared {payloadLen : List UInt8 → Outcome ProtocolError Nat}
    (total : ∀ h : UsbipHeader, payloadLen h.wire ≠ .panic) {s : Socket}
    (declared : ∀ (h : UsbipHeader) (rest : List UInt8) (len : Nat), s.incoming = h.wire ++ rest →
      payloadLen h.wire = .ok len → h.ValidDirection → h.Known → len = h.declaredLen) :
    FetchesFrame payloadLen s := by
  refine ⟨fun buf reached needed available incomplete => ?_,
    fun buf header p reached decoded => ?_, fun buf header p reached decoded => ?_⟩
  · obtain ⟨h, rest, len, stream, found, enough, rfl⟩ := reaches_cases total reached
    have asked : headerAsks (h.wire ++ rest.take len) = some needed := asks_of_err incomplete
    obtain ⟨dir, known, short, _⟩ := headerAsks_wire_some asked
    have same := declared h rest len stream found dir known
    rw [List.length_take] at short
    omega
  · obtain ⟨h, rest, len, stream, found, enough, rfl⟩ := reaches_cases total reached
    obtain ⟨rfl, dir, known, size⟩ := declared_of_decoded decoded
    obtain ⟨more, image⟩ := prefix_of_decodeHeader decoded
    rw [List.append_assoc, List.append_cancel_left_eq] at image
    have fits : len = header.declaredLen := declared header rest len stream found dir known
    have whole : more = [] := by
      have lengths := congrArg List.length image
      rw [List.length_take, List.length_append] at lengths
      exact List.length_eq_zero_iff.mp (by omega)
    rw [image, whole, List.append_nil]
    exact (List.drop_left' header.wire_length).symm
  · obtain ⟨h, rest, len, stream, found, enough, rfl⟩ := reaches_cases total reached
    rw [stream] at decoded
    obtain ⟨rfl, dir, known, size⟩ := declared_of_decoded decoded
    have fits : len = header.declaredLen := declared header rest len stream found dir known
    rw [List.length_append, UsbipHeader.wire_length, List.length_take, size, payloadOffset,
      basicHeaderSize, cmdHeaderSize]
    omega

theorem fetchesFrame_recv (s : Socket) : FetchesFrame recvPayloadLen s := by
  apply fetchesFrame_of_declared recvPayloadLen_ne_panic
  intro h rest len _ found _ _
  rw [recvPayloadLen_wire, checkPayloadLen] at found
  split_ifs at found
  cases found
  rfl

theorem replyAhead_wire (h : UsbipHeader) (rest : List UInt8) :
    ReplyAhead (h.wire ++ rest) ↔
      h.ValidDirection ∧ h.base.command = Constants.retSubmit ∧ 0 < h.declaredLen := by
  have field : h.u.word1.toInt32 = h.u.retSubmit.actualLength := rfl
  constructor
  · intro ahead
    obtain ⟨_, hc, direction, word, hd, dir, hw, pos⟩ := ahead
    have rs := Outcome.ok.inj ((wordAt_command h rest).symm.trans hc)
    cases (wordAt_direction h rest).symm.trans hd
    cases (wordAt_tfl h rest).symm.trans hw
    rw [field] at pos
    refine ⟨dir, rs, ?_⟩
    rw [UsbipHeader.declaredLen_of_retSubmit rs, if_pos pos]
    exact asUsize_pos pos
  · intro ahead
    obtain ⟨dir, rs, pos⟩ := ahead
    have reply : 0 < h.u.retSubmit.actualLength := by
      by_contra none_sent
      rw [UsbipHeader.declaredLen_of_retSubmit rs, if_neg none_sent] at pos
      omega
    refine ⟨?_, ?_, _, _, wordAt_direction h rest, dir, wordAt_tfl h rest, reply⟩
    · rw [List.length_append, UsbipHeader.wire_length]
      exact Nat.le_add_right _ _
    · rw [wordAt_command, rs]

theorem servePayloadLen_other {h : UsbipHeader} (cs : h.base.command ≠ Constants.cmdSubmit) :
    servePayloadLen h.wire = .ok 0 := by
  rw [servePayloadLen_wire, if_neg cs]
  rfl

theorem fetchesFrame_serve {s : Socket} (clear : ¬ReplyAhead s.incoming) :
    FetchesFrame servePayloadLen s := by
  apply fetchesFrame_of_declared servePayloadLen_ne_panic
  intro h rest len stream found dir known
  by_cases cs : h.base.command = Constants.cmdSubmit
  · rw [servePayloadLen_wire, if_pos cs, checkPayloadLen] at found
    split_ifs at found
    cases found
    rfl
  · cases found.symm.trans (servePayloadLen_other cs)
    by_contra some_bytes
    have pos : 0 < h.declaredLen := by omega
    rcases submit_of_declaredLen pos with submit | rs
    · exact cs submit
    · rw [stream] at clear
      exact clear ((replyAhead_wire h rest).mpr ⟨dir, rs, pos⟩)

/-- A header that announces no payload to the server is decoded by itself. -/
theorem readFrame_headerOnly {s : Socket} {h : UsbipHeader} {rest : List UInt8}
    (stream : s.incoming = h.wire ++ rest) (cs : h.base.command ≠ Constants.cmdSubmit) :
    (readFrame servePayloadLen).run s = (.ok h.wire, { s with incoming := rest }) := by
  have read := readFrame_accepted h.wire_length stream (servePayloadLen_other cs)
  rw [if_pos (Nat.zero_le _), List.take_zero, List.append_nil, List.drop_zero] at read
  exact read

theorem serveUrbEcho_unserved {s : Socket} {h : UsbipHeader} {rest : List UInt8}
    (stream : s.incoming = h.wire ++ rest) (dir : h.ValidDirection)
    (cs : h.base.command ≠ Constants.cmdSubmit) (cu : h.base.command ≠ Constants.cmdUnlink)
    (empty : h.declaredLen = 0) :
    (serveUrbEcho.run s).1 = .err (.invalidCommand h.base.command) := by
  have decoded := decodeHeader_wire h []
  rw [List.append_nil, decodeWire, if_neg (not_not.mpr dir), if_pos empty] at decoded
  rw [serveUrbEcho_eq, Program.run_bind_ok (readFrame_headerOnly stream cs), decoded]
  by_cases known : h.Known
  · rw [if_neg (not_not.mpr known)]
    show (Program.run (if h.base.command = Constants.cmdSubmit then _ else
      if h.base.command = Constants.cmdUnlink then _ else _) _).1 = _
    rw [if_neg cs, if_neg cu]
    rfl
  · rw [if_pos known]
    rfl

/-- The server leaves RET_SUBMIT out of its length rule: the readers agree with
the decoder exactly when no reply with a payload comes next. -/
theorem readersFetchExactly_iff (s : Socket) :
    ReadersFetchExactly s ↔ ¬ReplyAhead s.incoming := by
  constructor
  · intro exactly ahead
    obtain ⟨h, rest, stream⟩ := exists_wire ahead.1
    rw [stream] at ahead
    obtain ⟨dir, rs, pos⟩ := (replyAhead_wire h rest).mp ahead
    have cs : h.base.command ≠ Constants.cmdSubmit := by
      rw [rs]
      decide
    have reached : Reaches servePayloadLen s h.wire := by
      unfold Reaches
      rw [readFrame_headerOnly stream cs]
    have known : h.Known := Or.inr (Or.inl rs)
    have asked := headerAsks_wire h []
    rw [List.append_nil, if_pos ⟨dir, known, pos⟩] at asked
    exact exactly.serve.enough h.wire reached _ _ (decodeHeader_of_asks asked)
  · intro clear
    refine ⟨fetchesFrame_recv s, fetchesFrame_serve clear, fun h rest stream dir cs cu => ?_⟩
    apply serveUrbEcho_unserved stream dir cs cu
    by_contra some_bytes
    have pos : 0 < h.declaredLen := by omega
    rcases submit_of_declaredLen pos with submit | rs
    · exact cs submit
    · rw [stream] at clear
      exact clear ((replyAhead_wire h rest).mpr ⟨dir, rs, pos⟩)

/-- A RET_SUBMIT with four payload bytes. -/
def payloadReply : UsbipHeader :=
  ⟨⟨Constants.retSubmit, 1, 3, Constants.usbipDirIn, 2⟩,
    .ofRetSubmit ⟨0, 4, 0, 0, 0, Vector.replicate 8 0⟩⟩

/-- All of it is there, and the server reports a truncated buffer. -/
theorem serveUrbEcho_truncates_reply :
    (serveUrbEcho.run ⟨payloadReply.wire ++ [1, 2, 3, 4], [], false, none⟩).1 =
        .err (.incompleteBuffer 52 48) ∧
      ¬ReadersFetchExactly ⟨payloadReply.wire ++ [1, 2, 3, 4], [], false, none⟩ := by
  have truncated : (serveUrbEcho.run ⟨payloadReply.wire ++ [1, 2, 3, 4], [], false, none⟩).1 =
      .err (.incompleteBuffer 52 48) := by rfl
  refine ⟨truncated, fun exactly => ?_⟩
  have reported := exactly.unserved payloadReply [1, 2, 3, 4] rfl (by decide) (by decide)
    (by decide)
  cases truncated.symm.trans reported

end EasyUsb
