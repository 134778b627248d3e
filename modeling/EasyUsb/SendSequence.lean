import EasyUsb.ClosedSession
import EasyUsb.FrameConsistency

namespace EasyUsb

open Foundation

def seqnumOffset : Nat := 4

/-- `send_header`, with the session and the stream it leaves. -/
def Owned.send (o : Owned) (message : Frame) : Option (Answer × Owned) :=
  o.perform (.sendHeader message.1 message.2)

def Owned.afterSend (o : Owned) (message : Frame) : Owned :=
  match o.send message with
  | some (_, o') => o'
  | none => o

/-- The session after sends made one after the other. -/
def Owned.sends (o : Owned) (messages : List Frame) : Owned :=
  messages.foldl Owned.afterSend o

/-- Call `k` of the sequence succeeds, and these are the bytes it puts on the
stream. -/
def Owned.WroteAt (o : Owned) (messages : List Frame) (k : Nat) (bytes : List UInt8) : Prop :=
  ∃ message o', messages[k]? = some message ∧
    (o.sends (messages.take k)).send message = some (.ok none, o') ∧
    o'.socket.outgoing = (o.sends (messages.take k)).socket.outgoing ++ bytes

/-- The call is refused before it reaches the stream. -/
def Owned.Rejects (o : Owned) (message : Frame) : Prop :=
  o.session.closed = true ∨ ∃ e, encodeHeader (o.session.stamp message.1) message.2 = .err e

/-- Nothing was written and the session is what it was. -/
def Owned.SameAs (o o' : Owned) : Prop :=
  o'.socket.outgoing = o.socket.outgoing ∧ o'.session.nextSeqnum = o.session.nextSeqnum ∧
    o'.session.closed = o.session.closed

/-- What sends mixed with refused ones should do: a refused call leaves the
session as it was, and a frame carries the number after that of the frame
written before it. -/
structure SendsKeepSession (o : Owned) (messages : List Frame) : Prop where
  refused : ∀ k message, messages[k]? = some message →
    (o.sends (messages.take k)).Rejects message →
    (o.sends (messages.take k)).SameAs (o.sends (messages.take (k + 1)))
  consecutive : ∀ i j first second, i < j → o.WroteAt messages i first →
    o.WroteAt messages j second → (∀ k bytes, i < k → k < j → ¬o.WroteAt messages k bytes) →
    ∃ seqnum, wordAt first seqnumOffset = .ok seqnum ∧
      wordAt second seqnumOffset = .ok (seqnum + 1)

theorem encodeHeader_ne_panic (h : UsbipHeader) (p : Option (List UInt8)) :
    encodeHeader h p ≠ .panic := by
  obtain ⟨missing, eq⟩ := encodeHeader_wire h p
  have body : putPayload missing p h.wire ≠ .panic := by
    cases p with
    | none => simp [putPayload]
    | some payload =>
      simp only [putPayload]
      split_ifs <;> simp
  rw [eq, encodeWire]
  split_ifs <;> simp [body]

/-- The session after one more number is used. -/
def TcpSession.counted (session : TcpSession) : TcpSession :=
  { session with nextSeqnum := session.nextSeqnum + 1 }

/-- An open session counts the call before it encodes the message, and whether or
not the encoding goes out. -/
theorem send_cases {o : Owned} (opened : o.session.closed = false) (message : Frame) :
    (∃ e, encodeHeader (o.session.stamp message.1) message.2 = .err e ∧
      o.send message = some (.error e, ⟨o.session.counted, o.socket⟩)) ∨
    (∃ buf, encodeHeader (o.session.stamp message.1) message.2 = .ok buf ∧
      ((∃ socket, o.socket.write buf = (.ok (), socket) ∧
        o.send message = some (.ok none, ⟨o.session.counted, socket⟩)) ∨
      (∃ e socket, o.socket.write buf = (.error e, socket) ∧
        o.send message = some (.error (.ioError e), ⟨o.session.counted, socket⟩)))) := by
  rw [Owned.send, Owned.perform, TcpSession.call, TcpSession.sendHeader, opened]
  rcases encoded : encodeHeader (o.session.stamp message.1) message.2 with buf | e | _
  · refine Or.inr ⟨buf, rfl, ?_⟩
    rcases written : o.socket.write buf with ⟨result, socket⟩
    cases result with
    | ok =>
      refine Or.inl ⟨socket, rfl, ?_⟩
      simp [encoded, Program.run_bind, Program.run_attempt, Program.run_mapErr, Program.write,
        Program.run, written, Except.map, Outcome.mapErr, TcpSession.counted, opened]
    | error e =>
      refine Or.inr ⟨e, socket, rfl, ?_⟩
      simp [encoded, Program.run_bind, Program.run_attempt, Program.run_mapErr, Program.write,
        Program.run, written, Except.map, Outcome.mapErr, TcpSession.counted, opened]
  · refine Or.inl ⟨e, rfl, ?_⟩
    simp [encoded, Program.run_bind, Program.run_attempt, Except.map, TcpSession.counted, opened]
  · exact absurd encoded (encodeHeader_ne_panic _ _)

/-- A call that succeeds has written the encoding of its message. -/
theorem written_of_send {o o' : Owned} {message : Frame} (opened : o.session.closed = false)
    (sent : o.send message = some (.ok none, o')) :
    ∃ buf, encodeHeader (o.session.stamp message.1) message.2 = .ok buf ∧
      o.socket.write buf = (.ok (), o'.socket) := by
  rcases send_cases opened message with
    ⟨e, _, sent'⟩ | ⟨buf, encoded, ⟨socket, written, sent'⟩ | ⟨e, socket, _, sent'⟩⟩
  · cases sent'.symm.trans sent
  · cases sent'.symm.trans sent
    exact ⟨buf, encoded, written⟩
  · cases sent'.symm.trans sent

theorem send_closed {o : Owned} (closed : o.session.closed = true) (message : Frame) :
    o.send message = some (.error sessionClosed, o) :=
  perform_of_closed closed (fun same => Call.noConfusion same)

theorem afterSend_of_send {o o' : Owned} {message : Frame} {answer : Answer}
    (sent : o.send message = some (answer, o')) : o.afterSend message = o' := by
  rw [Owned.afterSend, sent]

/-- Whatever it answers, a call on an open session is counted. -/
theorem afterSend_session {o : Owned} (opened : o.session.closed = false) (message : Frame) :
    (o.afterSend message).session = o.session.counted := by
  rcases send_cases opened message with
    ⟨e, _, sent⟩ | ⟨buf, _, ⟨socket, _, sent⟩ | ⟨e, socket, _, sent⟩⟩
  · rw [afterSend_of_send sent]
  · rw [afterSend_of_send sent]
  · rw [afterSend_of_send sent]

theorem afterSend_closed {o : Owned} (closed : o.session.closed = true) (message : Frame) :
    o.afterSend message = o :=
  afterSend_of_send (send_closed closed message)

theorem sends_append (o : Owned) (first second : List Frame) :
    o.sends (first ++ second) = (o.sends first).sends second := by
  simp [Owned.sends, List.foldl_append]

theorem sends_take_succ {o : Owned} {messages : List Frame} {k : Nat} {message : Frame}
    (here : messages[k]? = some message) :
    o.sends (messages.take (k + 1)) = (o.sends (messages.take k)).afterSend message := by
  rw [List.take_add_one, here, Option.toList_some, sends_append]
  rfl

theorem sends_closed {o : Owned} (closed : o.session.closed = true) (messages : List Frame) :
    o.sends messages = o := by
  induction messages with
  | nil => rfl
  | cons message messages ih =>
    rw [Owned.sends, List.foldl_cons, afterSend_closed closed]
    exact ih

theorem sends_session {o : Owned} (opened : o.session.closed = false) (messages : List Frame) :
    (o.sends messages).session = { o.session with
      nextSeqnum := o.session.nextSeqnum + UInt32.ofNat messages.length } := by
  induction messages generalizing o with
  | nil => simp [Owned.sends]
  | cons message messages ih =>
    have first := afterSend_session opened message
    have later := @ih (o.afterSend message) (by rw [first]; exact opened)
    rw [Owned.sends, List.foldl_cons]
    refine later.trans ?_
    rw [first, List.length_cons, UInt32.ofNat_add, TcpSession.counted, UInt32.add_assoc,
      UInt32.add_comm 1]
    rfl

theorem open_sends {o : Owned} (opened : o.session.closed = false) (messages : List Frame) :
    (o.sends messages).session.closed = false := by
  rw [sends_session opened]
  exact opened

theorem wordAt_seqnum (h : UsbipHeader) (rest : List UInt8) :
    wordAt (h.wire ++ rest) seqnumOffset = .ok h.base.seqnum := by
  obtain ⟨tail, image⟩ := wire_words h
  rw [image, List.append_assoc]
  exact wordAt_middle (u32Bytes_length h.base.command)

theorem encodeHeader_seqnum {h : UsbipHeader} {p : Option (List UInt8)} {buf : List UInt8}
    (encoded : encodeHeader h p = .ok buf) : wordAt buf seqnumOffset = .ok h.base.seqnum := by
  obtain ⟨_, _, _, sizes⟩ := encodeHeader_eq_ok.mp encoded
  rcases sizes with ⟨_, rfl⟩ | ⟨_, payload, _, _, rfl⟩
  · have whole := wordAt_seqnum h []
    rwa [List.append_nil] at whole
  · exact wordAt_seqnum h payload

theorem encodeHeader_pos {h : UsbipHeader} {p : Option (List UInt8)} {buf : List UInt8}
    (encoded : encodeHeader h p = .ok buf) : 0 < buf.length := by
  obtain ⟨_, _, _, sizes⟩ := encodeHeader_eq_ok.mp encoded
  rcases sizes with ⟨_, rfl⟩ | ⟨_, payload, _, _, rfl⟩
  · rw [UsbipHeader.wire_length]
    omega
  · rw [List.length_append, UsbipHeader.wire_length]
    omega

/-- A header as the call at position `k` sends it. -/
def Owned.numbered (o : Owned) (k : Nat) (header : UsbipHeader) : UsbipHeader :=
  { header with base := { header.base with
      seqnum := o.session.nextSeqnum + UInt32.ofNat k } }

theorem opened_of_wroteAt {o : Owned} {messages : List Frame} {k : Nat} {bytes : List UInt8}
    (wrote : o.WroteAt messages k bytes) : o.session.closed = false := by
  obtain ⟨message, o', _, sent, _⟩ := wrote
  cases closed : o.session.closed with
  | false => rfl
  | true =>
    rw [sends_closed closed, send_closed closed] at sent
    cases sent

theorem stamp_sends {o : Owned} (opened : o.session.closed = false) {messages : List Frame}
    {k : Nat} (inside : k ≤ messages.length) (header : UsbipHeader) :
    (o.sends (messages.take k)).session.stamp header = o.numbered k header := by
  rw [sends_session opened, List.length_take, Nat.min_eq_left inside]
  rfl

/-- The bytes of a call are the encoding of its message under its own number. -/
theorem wroteAt_encoded {o : Owned} {messages : List Frame} {k : Nat} {bytes : List UInt8}
    (wrote : o.WroteAt messages k bytes) :
    ∃ message, messages[k]? = some message ∧
      encodeHeader (o.numbered k message.1) message.2 = .ok bytes := by
  have opened := opened_of_wroteAt wrote
  obtain ⟨message, o', here, sent, appended⟩ := wrote
  have inside : k < messages.length := (List.getElem?_eq_some_iff.mp here).1
  have still := open_sends opened (messages.take k)
  obtain ⟨buf, encoded, written⟩ := written_of_send still sent
  rw [stamp_sends opened (Nat.le_of_lt inside)] at encoded
  have same := (Socket.outgoing_of_write written).symm.trans appended
  exact ⟨message, here, by rw [encoded, List.append_cancel_left same]⟩

theorem wroteAt_seqnum {o : Owned} {messages : List Frame} {k : Nat} {bytes : List UInt8}
    (wrote : o.WroteAt messages k bytes) :
    wordAt bytes seqnumOffset = .ok (o.session.nextSeqnum + UInt32.ofNat k) := by
  obtain ⟨message, _, encoded⟩ := wroteAt_encoded wrote
  exact encodeHeader_seqnum encoded

theorem seqnum_ne {start : UInt32} {i j : Nat} (before : i < j) (near : j < i + 2 ^ 32) :
    start + UInt32.ofNat i ≠ start + UInt32.ofNat j := by
  intro same
  have values := congrArg UInt32.toNat same
  simp only [UInt32.toNat_add, UInt32.toNat_ofNat'] at values
  omega

theorem decodeHeader_of_fitting {h : UsbipHeader} {p : Option (List UInt8)} {buf : List UInt8}
    (encoded : encodeHeader h p = .ok buf) (fits : h.PayloadFits p) :
    decodeHeader buf = .ok (h, if h.declaredLen = 0 then none else p) := by
  obtain ⟨dir, known, _, sizes⟩ := encodeHeader_eq_ok.mp encoded
  apply decodeHeader_eq_ok.mpr
  rcases sizes with ⟨empty, rfl⟩ | ⟨pos, body, rfl, small, rfl⟩
  · refine ⟨dir, known, by omega, [], (List.append_nil _).symm, by omega, ?_⟩
    rw [if_pos empty, if_pos empty]
  · have size : body.length = h.declaredLen := fits pos
    have some_bytes : h.declaredLen ≠ 0 := by omega
    refine ⟨dir, known, by omega, body, rfl, by omega, ?_⟩
    rw [if_neg some_bytes, if_neg some_bytes, ← size, List.take_length]

/-- Frames written by calls less than `2 ^ 32` apart carry different numbers,
and a frame whose payload fits decodes to its message with that number. -/
theorem wroteAt_distinct (o : Owned) (messages : List Frame) :
    (∀ i j first second, i < j → j < i + 2 ^ 32 → o.WroteAt messages i first →
      o.WroteAt messages j second →
      ∃ x y, wordAt first seqnumOffset = .ok x ∧ wordAt second seqnumOffset = .ok y ∧ x ≠ y) ∧
    (∀ k bytes header payload, o.WroteAt messages k bytes →
      messages[k]? = some (header, payload) → header.PayloadFits payload →
      ∃ seqnum, wordAt bytes seqnumOffset = .ok seqnum ∧
        decodeHeader bytes = .ok ({ header with base := { header.base with seqnum := seqnum } },
          if header.declaredLen = 0 then none else payload)) := by
  refine ⟨fun i j first second before near wrote later => ?_,
    fun k bytes header payload wrote here fits => ?_⟩
  · exact ⟨_, _, wroteAt_seqnum wrote, wroteAt_seqnum later, seqnum_ne before near⟩
  · refine ⟨_, wroteAt_seqnum wrote, ?_⟩
    obtain ⟨message, here', encoded⟩ := wroteAt_encoded wrote
    cases here.symm.trans here'
    have same : (o.numbered k header).declaredLen = header.declaredLen := rfl
    have fits' : (o.numbered k header).PayloadFits payload := fits
    rw [← same]
    exact decodeHeader_of_fitting encoded fits'

theorem broken_afterSend {o : Owned} (broken : o.socket.Broken) (message : Frame) :
    (o.afterSend message).socket.Broken := by
  cases closed : o.session.closed with
  | true =>
    rw [afterSend_closed closed]
    exact broken
  | false =>
    rcases send_cases closed message with
      ⟨e, _, sent⟩ | ⟨buf, encoded, ⟨socket, written, _⟩ | ⟨e, socket, failed, sent⟩⟩
    · rw [afterSend_of_send sent]
      exact broken
    · exact absurd written (broken.write (encodeHeader_pos encoded))
    · rw [afterSend_of_send sent]
      exact Socket.broken_of_write failed

theorem broken_sends {o : Owned} (broken : o.socket.Broken) (messages : List Frame) :
    (o.sends messages).socket.Broken := by
  induction messages generalizing o with
  | nil => exact broken
  | cons message messages ih => exact ih (broken_afterSend broken message)

/-- After a call that fails on the stream, no later call writes a frame. -/
theorem not_wroteAt_of_broken {o : Owned} {messages : List Frame} {k j : Nat}
    {bytes : List UInt8} (broken : (o.sends (messages.take k)).socket.Broken) (later : k ≤ j) :
    ¬o.WroteAt messages j bytes := by
  intro wrote
  have opened := opened_of_wroteAt wrote
  obtain ⟨message, o', here, sent, _⟩ := wrote
  have split : messages.take j = messages.take k ++ (messages.take j).drop k := by
    have parts := List.take_append_drop k (messages.take j)
    rw [List.take_take, Nat.min_eq_left later] at parts
    exact parts.symm
  have still := open_sends opened (messages.take j)
  have broken' : (o.sends (messages.take j)).socket.Broken := by
    rw [split, sends_append]
    exact broken_sends broken _
  obtain ⟨buf, encoded, written⟩ := written_of_send still sent
  exact broken'.write (encodeHeader_pos encoded) written

/-- The encoder accepts the message. -/
def Encodes (message : Frame) : Prop := ∃ buf, encodeHeader message.1 message.2 = .ok buf

theorem Encodes.renumber {h : UsbipHeader} {p : Option (List UInt8)} (accepted : Encodes (h, p))
    (seqnum : UInt32) : Encodes ({ h with base := { h.base with seqnum := seqnum } }, p) := by
  obtain ⟨buf, encoded⟩ := accepted
  obtain ⟨dir, known, iso, sizes⟩ := encodeHeader_eq_ok.mp encoded
  rcases sizes with ⟨empty, _⟩ | ⟨pos, body, payload, small, _⟩
  · exact ⟨_, encodeHeader_eq_ok.mpr ⟨dir, known, iso, Or.inl ⟨empty, rfl⟩⟩⟩
  · exact ⟨_, encodeHeader_eq_ok.mpr ⟨dir, known, iso, Or.inr ⟨pos, body, payload, small, rfl⟩⟩⟩

/-- Whether a message is accepted does not depend on the number it is sent with. -/
theorem encodes_stamp (session : TcpSession) (message : Frame) :
    Encodes (session.stamp message.1, message.2) ↔ Encodes message :=
  ⟨fun accepted => accepted.renumber message.1.base.seqnum,
    fun accepted => accepted.renumber session.nextSeqnum⟩

theorem rejects_iff {o : Owned} (opened : o.session.closed = false) (message : Frame) :
    o.Rejects message ↔ ¬Encodes message := by
  rw [← encodes_stamp o.session]
  constructor
  · rintro (closed | ⟨e, refused⟩) ⟨buf, encoded⟩
    · rw [opened] at closed
      cases closed
    · cases refused.symm.trans encoded
  · intro refused
    refine Or.inr ?_
    rcases encoded : encodeHeader (o.session.stamp message.1) message.2 with buf | e | _
    · exact absurd ⟨buf, encoded⟩ refused
    · exact ⟨e, rfl⟩
    · exact absurd encoded (encodeHeader_ne_panic _ _)

theorem not_sameAs_afterSend {o : Owned} (opened : o.session.closed = false) (message : Frame) :
    ¬o.SameAs (o.afterSend message) := by
  rintro ⟨_, same, _⟩
  rw [afterSend_session opened, TcpSession.counted] at same
  have values := congrArg UInt32.toNat same
  simp only [UInt32.toNat_add, UInt32.reduceToNat] at values
  omega

theorem broken_of_unwritten {o : Owned} {messages : List Frame} {k : Nat} {message : Frame}
    (opened : o.session.closed = false) (here : messages[k]? = some message)
    (accepted : Encodes message) (unwritten : ∀ bytes, ¬o.WroteAt messages k bytes) :
    (o.sends (messages.take (k + 1))).socket.Broken := by
  have still := open_sends opened (messages.take k)
  have accepted' := (encodes_stamp (o.sends (messages.take k)).session message).mpr accepted
  obtain ⟨buf, encoded⟩ := accepted'
  rw [sends_take_succ here]
  rcases send_cases still message with
    ⟨e, refused, _⟩ | ⟨buf, _, ⟨socket, written, sent⟩ | ⟨e, socket, failed, sent⟩⟩
  · cases refused.symm.trans encoded
  · exact absurd ⟨message, _, here, sent, Socket.outgoing_of_write written⟩ (unwritten buf)
  · rw [afterSend_of_send sent]
    exact Socket.broken_of_write failed

theorem succ_of_gap {o : Owned} {messages : List Frame} {i j : Nat} {first second : List UInt8}
    (accepted : ∀ message ∈ messages, Encodes message) (before : i < j)
    (wrote : o.WroteAt messages i first) (later : o.WroteAt messages j second)
    (gap : ∀ k bytes, i < k → k < j → ¬o.WroteAt messages k bytes) : j = i + 1 := by
  by_contra apart
  have between : i + 1 < j := by omega
  obtain ⟨_, last, _⟩ := wroteAt_encoded later
  have inside := (List.getElem?_eq_some_iff.mp last).1
  obtain ⟨message, here⟩ : ∃ message, messages[i + 1]? = some message :=
    ⟨_, List.getElem?_eq_getElem (by omega)⟩
  have unwritten : ∀ bytes, ¬o.WroteAt messages (i + 1) bytes :=
    fun bytes => gap (i + 1) bytes (by omega) between
  have broken := broken_of_unwritten (opened_of_wroteAt wrote) here
    (accepted message (List.mem_of_getElem? here)) unwritten
  exact not_wroteAt_of_broken broken between later

theorem sameAs_of_closed {o : Owned} (closed : o.session.closed = true)
    (first second : List Frame) : (o.sends first).SameAs (o.sends second) := by
  rw [sends_closed closed, sends_closed closed]
  exact ⟨rfl, rfl, rfl⟩

/-- The number is used up before the message is encoded: a session keeps to what
refused sends should do exactly when it is closed or no message is refused. -/
theorem sendsKeepSession_iff (o : Owned) (messages : List Frame) :
    SendsKeepSession o messages ↔
      o.session.closed = true ∨ ∀ message ∈ messages, Encodes message := by
  constructor
  · intro keeps
    cases opened : o.session.closed with
    | true => exact Or.inl rfl
    | false =>
      refine Or.inr fun message mem => ?_
      by_contra refused
      obtain ⟨k, here⟩ := List.mem_iff_getElem?.mp mem
      have still := open_sends opened (messages.take k)
      have same := keeps.refused k message here ((rejects_iff still message).mpr refused)
      rw [sends_take_succ here] at same
      exact not_sameAs_afterSend still message same
  · intro condition
    refine ⟨fun k message here rejected => ?_, fun i j first second before wrote later gap => ?_⟩
    · cases opened : o.session.closed with
      | true => exact sameAs_of_closed opened _ _
      | false =>
        have still := open_sends opened (messages.take k)
        rcases condition with closed | accepted
        · exact absurd (opened.symm.trans closed) (by decide)
        · have mem := List.mem_of_getElem? here
          exact absurd (accepted message mem) ((rejects_iff still message).mp rejected)
    · rcases condition with closed | accepted
      · exact absurd ((opened_of_wroteAt wrote).symm.trans closed) (by decide)
      · have next := succ_of_gap accepted before wrote later gap
        refine ⟨_, wroteAt_seqnum wrote, ?_⟩
        rw [wroteAt_seqnum later, next, UInt32.ofNat_add, UInt32.add_assoc]
        rfl

/-- A request in one isochronous packet. -/
def isochronousRequest : UsbipHeader :=
  ⟨⟨Constants.cmdSubmit, 0, 3, Constants.usbipDirIn, 2⟩,
    .ofCmdSubmit ⟨0, 0, 0, 1, 0, Vector.replicate 8 0⟩⟩

/-- Between two frames with the numbers 0 and 2, a refused one used up 1. -/
theorem send_refused_counted :
    let messages : List Frame :=
      [(emptyReply, none), (isochronousRequest, none), (emptyReply, none)]
    (freshOwned []).session.nextSeqnum = 0 ∧
    (∃ o', ((freshOwned []).sends (messages.take 1)).send (isochronousRequest, none) =
      some (.error .isochronousNotSupported, o') ∧ o'.session.nextSeqnum = 2) ∧
    (∃ o', ((freshOwned []).sends (messages.take 2)).send (emptyReply, none) =
      some (.ok none, o') ∧ (wordAt (o'.socket.outgoing.drop 48) seqnumOffset = .ok 2)) ∧
    ¬SendsKeepSession (freshOwned []) messages := by
  refine ⟨rfl, ⟨_, rfl, rfl⟩, ⟨_, rfl, rfl⟩, fun keeps => ?_⟩
  have same := keeps.refused 1 (isochronousRequest, none) rfl
    (Or.inr ⟨.isochronousNotSupported, rfl⟩)
  exact absurd same.2.1 (by decide)

end EasyUsb
