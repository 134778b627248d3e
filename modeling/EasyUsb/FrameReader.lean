import EasyUsb.CodecSpec
import EasyUsb.Foundation.Program

namespace EasyUsb

open Foundation

def directionOffset : Nat := 12

def tflOffset : Nat := basicHeaderSize + 4

def numPacketsOffset : Nat := basicHeaderSize + 12

/-- `u32::from_be_bytes([buf[at], buf[at + 1], buf[at + 2], buf[at + 3]])`. -/
def wordAt (buf : List UInt8) (offset : Nat) : Outcome ProtocolError UInt32 := do
  let b0 ← index buf offset
  let b1 ← index buf (offset + 1)
  let b2 ← index buf (offset + 2)
  let b3 ← index buf (offset + 3)
  return u32Value [b0, b1, b2, b3]

def checkPayloadLen (payloadLen : Nat) : Outcome ProtocolError Nat :=
  if payloadLen > maxPayloadSize then .err (.bufferTooLarge payloadLen maxPayloadSize)
  else .ok payloadLen

section Targets

variable (m : Usize)

def submitPayloadLenOn (buf : List UInt8) (direction : UInt32) : Outcome ProtocolError Nat := do
  let tfl ← wordAt buf tflOffset
  if 0 < tfl.toInt32 ∧ direction = Constants.usbipDirOut then m.cast tfl.toInt32
  else return 0

def replyPayloadLenOn (buf : List UInt8) : Outcome ProtocolError Nat := do
  let al ← wordAt buf tflOffset
  if 0 < al.toInt32 then m.cast al.toInt32 else return 0

/-- The payload length `recv_header_inner` derives from the raw header bytes. -/
def announcedLenOn (buf : List UInt8) (command direction : UInt32) : Outcome ProtocolError Nat :=
  if command = Constants.cmdSubmit then submitPayloadLenOn m buf direction
  else if command = Constants.retSubmit then replyPayloadLenOn m buf
  else return 0

/-- What `recv_header_inner` does between its two reads: it inspects the raw
header and settles how many payload bytes follow. -/
def recvPayloadLenOn (buf : List UInt8) : Outcome ProtocolError Nat := do
  let command ← wordAt buf 0
  let direction ← wordAt buf directionOffset
  let numPackets ← wordAt buf numPacketsOffset
  if numPackets.toInt32 ≠ 0 then .err .isochronousNotSupported
  else
    let payloadLen ← announcedLenOn m buf command direction
    checkPayloadLen payloadLen

/-- The same stretch of `serve_urb_echo`. -/
def servePayloadLenOn (buf : List UInt8) : Outcome ProtocolError Nat := do
  let command ← wordAt buf 0
  let direction ← wordAt buf directionOffset
  let payloadLen ←
    if command = Constants.cmdSubmit then submitPayloadLenOn m buf direction
    else return 0
  checkPayloadLen payloadLen

end Targets

def announcedLen : List UInt8 → UInt32 → UInt32 → Outcome ProtocolError Nat :=
  announcedLenOn .plain

def recvPayloadLen : List UInt8 → Outcome ProtocolError Nat := recvPayloadLenOn .plain

def servePayloadLen : List UInt8 → Outcome ProtocolError Nat := servePayloadLenOn .plain

/-- `read_exact` with its i/o error as the protocol reports it. -/
def readExact (count : Nat) : Program ProtocolError (List UInt8) :=
  (Program.read count).mapErr .ioError

/-- The buffer both stream readers hand to `decode_header`: the 48 header bytes
and then as many payload bytes as the reader found announced. -/
def readFrame (payloadLen : List UInt8 → Outcome ProtocolError Nat) :
    Program ProtocolError (List UInt8) := do
  let buf ← readExact (basicHeaderSize + cmdHeaderSize)
  let len ← Program.ofOutcome (payloadLen buf)
  if len > 0 then
    let payload ← readExact len
    return buf ++ payload
  else return buf

theorem readExact_of_le {count : Nat} {s : Socket} (h : count ≤ s.incoming.length) :
    (readExact count).run s =
      (.ok (s.incoming.take count), { s with incoming := s.incoming.drop count }) := by
  rw [readExact, Program.run_mapErr, Program.run_read_of_le h]
  rfl

theorem readExact_of_lt {count : Nat} {s : Socket} (h : s.incoming.length < count) :
    (readExact count).run s = (.err (.ioError "early eof"), { s with incoming := [] }) := by
  rw [readExact, Program.run_mapErr, Program.run_read_of_lt h]
  rfl

theorem readExact_append {count : Nat} {s : Socket} {item rest : List UInt8}
    (size : item.length = count) (stream : s.incoming = item ++ rest) :
    (readExact count).run s = (.ok item, { s with incoming := rest }) := by
  rw [readExact_of_le (by simp [stream, size]), stream, List.take_left' size,
    List.drop_left' size]

theorem wordAt_middle {before after : List UInt8} {x : UInt32} {offset : Nat}
    (start : before.length = offset) :
    wordAt (before ++ (u32Bytes x ++ after)) offset = .ok x := by
  have four := u32Bytes_length x
  obtain ⟨b0, b1, b2, b3, eq⟩ : ∃ b0 b1 b2 b3, u32Bytes x = [b0, b1, b2, b3] :=
    ⟨_, _, _, _, rfl⟩
  have value : u32Value [b0, b1, b2, b3] = x := by rw [← eq, u32Value_u32Bytes]
  subst start
  simp [wordAt, index, eq, value]

/-- The first ten words of a frame, whatever its layout: the base fields and the
words of the union. -/
theorem wire_words (h : UsbipHeader) :
    ∃ tail, h.wire = u32Bytes h.base.command ++ (u32Bytes h.base.seqnum ++
      (u32Bytes h.base.devid ++ (u32Bytes h.base.direction ++ (u32Bytes h.base.ep ++
      (u32Bytes h.u.word0 ++ (u32Bytes h.u.word1 ++ (u32Bytes h.u.word2 ++
      (u32Bytes h.u.word3 ++ (u32Bytes h.u.word4 ++ tail))))))))) := by
  unfold UsbipHeader.wire
  split_ifs
  · exact ⟨h.u.tail.toList, by
      simp [putBasic, putCmdSubmit, putI32, UsbipHeaderUnion.cmdSubmit]⟩
  · exact ⟨h.u.tail.toList, by
      simp [putBasic, putRetSubmit, putI32, UsbipHeaderUnion.retSubmit]⟩
  · exact ⟨u32Bytes h.u.padding[4] ++ u32Bytes h.u.padding[5], by
      simp [putBasic, putCmdUnlink, putPadding, UsbipHeaderUnion.cmdUnlink,
        UsbipHeaderUnion.padding]⟩
  · exact ⟨u32Bytes h.u.padding[4] ++ u32Bytes h.u.padding[5], by
      simp [putBasic, putRetUnlink, putPadding, putI32, UsbipHeaderUnion.retUnlink,
        UsbipHeaderUnion.padding]⟩

theorem wordAt_command (h : UsbipHeader) (rest : List UInt8) :
    wordAt (h.wire ++ rest) 0 = .ok h.base.command := by
  obtain ⟨tail, image⟩ := wire_words h
  rw [image, List.append_assoc]
  exact @wordAt_middle [] _ _ 0 rfl

theorem wordAt_direction (h : UsbipHeader) (rest : List UInt8) :
    wordAt (h.wire ++ rest) directionOffset = .ok h.base.direction := by
  obtain ⟨tail, image⟩ := wire_words h
  have split : h.wire ++ rest = (u32Bytes h.base.command ++ u32Bytes h.base.seqnum ++
      u32Bytes h.base.devid) ++ (u32Bytes h.base.direction ++ (u32Bytes h.base.ep ++
      (u32Bytes h.u.word0 ++ (u32Bytes h.u.word1 ++ (u32Bytes h.u.word2 ++
      (u32Bytes h.u.word3 ++ (u32Bytes h.u.word4 ++ (tail ++ rest)))))))) := by simp [image]
  rw [split]
  exact wordAt_middle (by simp [directionOffset])

theorem wordAt_tfl (h : UsbipHeader) (rest : List UInt8) :
    wordAt (h.wire ++ rest) tflOffset = .ok h.u.word1 := by
  obtain ⟨tail, image⟩ := wire_words h
  have split : h.wire ++ rest = (u32Bytes h.base.command ++ u32Bytes h.base.seqnum ++
      u32Bytes h.base.devid ++ u32Bytes h.base.direction ++ u32Bytes h.base.ep ++
      u32Bytes h.u.word0) ++ (u32Bytes h.u.word1 ++ (u32Bytes h.u.word2 ++
      (u32Bytes h.u.word3 ++ (u32Bytes h.u.word4 ++ (tail ++ rest))))) := by simp [image]
  rw [split]
  exact wordAt_middle (by simp [tflOffset, basicHeaderSize])

theorem wordAt_numPackets (h : UsbipHeader) (rest : List UInt8) :
    wordAt (h.wire ++ rest) numPacketsOffset = .ok h.u.word3 := by
  obtain ⟨tail, image⟩ := wire_words h
  have split : h.wire ++ rest = (u32Bytes h.base.command ++ u32Bytes h.base.seqnum ++
      u32Bytes h.base.devid ++ u32Bytes h.base.direction ++ u32Bytes h.base.ep ++
      u32Bytes h.u.word0 ++ u32Bytes h.u.word1 ++ u32Bytes h.u.word2) ++
      (u32Bytes h.u.word3 ++ (u32Bytes h.u.word4 ++ (tail ++ rest))) := by simp [image]
  rw [split]
  exact wordAt_middle (by simp [numPacketsOffset, basicHeaderSize])

theorem submitPayloadLen_wire {h : UsbipHeader} (hc : h.base.command = Constants.cmdSubmit)
    (rest : List UInt8) :
    submitPayloadLenOn .plain (h.wire ++ rest) h.base.direction = .ok h.declaredLen := by
  have field : h.u.word1.toInt32 = h.u.cmdSubmit.transferBufferLength := rfl
  rw [submitPayloadLenOn, wordAt_tfl, Outcome.ok_bind, field,
    UsbipHeader.declaredLen_of_cmdSubmit hc]
  split_ifs
  · rfl
  · rfl

theorem replyPayloadLen_wire {h : UsbipHeader} (hc : h.base.command = Constants.retSubmit)
    (rest : List UInt8) : replyPayloadLenOn .plain (h.wire ++ rest) = .ok h.declaredLen := by
  have field : h.u.word1.toInt32 = h.u.retSubmit.actualLength := rfl
  rw [replyPayloadLenOn, wordAt_tfl, Outcome.ok_bind, field,
    UsbipHeader.declaredLen_of_retSubmit hc]
  split_ifs
  · rfl
  · rfl

theorem declaredLen_of_other {h : UsbipHeader} (cs : h.base.command ≠ Constants.cmdSubmit)
    (rs : h.base.command ≠ Constants.retSubmit) : h.declaredLen = 0 := by
  simp [UsbipHeader.declaredLen, cs, rs]

/-- A payload is declared by the SUBMIT commands alone. -/
theorem submit_of_declaredLen {h : UsbipHeader} (pos : 0 < h.declaredLen) :
    h.base.command = Constants.cmdSubmit ∨ h.base.command = Constants.retSubmit := by
  by_contra other
  obtain ⟨cs, rs⟩ := not_or.mp other
  rw [declaredLen_of_other cs rs] at pos
  exact Nat.lt_irrefl _ pos

theorem announcedLen_wire (h : UsbipHeader) (rest : List UInt8) :
    announcedLen (h.wire ++ rest) h.base.command h.base.direction = .ok h.declaredLen := by
  unfold announcedLen announcedLenOn
  by_cases cs : h.base.command = Constants.cmdSubmit
  · rw [if_pos cs, submitPayloadLen_wire cs]
  by_cases rs : h.base.command = Constants.retSubmit
  · rw [if_neg cs, if_pos rs, replyPayloadLen_wire rs]
  · rw [if_neg cs, if_neg rs, declaredLen_of_other cs rs]
    rfl

theorem recvPayloadLen_wire (h : UsbipHeader) :
    recvPayloadLen h.wire =
      if h.u.word3 ≠ 0 then .err .isochronousNotSupported else checkPayloadLen h.declaredLen := by
  rw [← List.append_nil h.wire, recvPayloadLen, recvPayloadLenOn, wordAt_command,
    wordAt_direction, wordAt_numPackets]
  simp only [Outcome.ok_bind, ne_eq, toInt32_eq_zero]
  by_cases packets : h.u.word3 = 0
  swap
  · simp [packets]
  have announced := announcedLen_wire h []
  rw [announcedLen] at announced
  simp only [packets, not_true_eq_false, if_false, announced, Outcome.ok_bind]

theorem servePayloadLen_wire (h : UsbipHeader) :
    servePayloadLen h.wire =
      checkPayloadLen (if h.base.command = Constants.cmdSubmit then h.declaredLen else 0) := by
  rw [← List.append_nil h.wire, servePayloadLen, servePayloadLenOn, wordAt_command,
    wordAt_direction]
  simp only [Outcome.ok_bind]
  by_cases cs : h.base.command = Constants.cmdSubmit
  · rw [if_pos cs, if_pos cs, submitPayloadLen_wire cs, Outcome.ok_bind]
  · rw [if_neg cs, if_neg cs]
    rfl

theorem readFrame_short {payloadLen : List UInt8 → Outcome ProtocolError Nat} {s : Socket}
    (short : s.incoming.length < 48) :
    (readFrame payloadLen).run s = (.err (.ioError "early eof"), { s with incoming := [] }) :=
  Program.run_bind_err (readExact_of_lt short)

/-- A reader whose inspection of the header fails has taken the header and
nothing after it. -/
theorem readFrame_refused {payloadLen : List UInt8 → Outcome ProtocolError Nat} {s : Socket}
    {header rest : List UInt8} {e : ProtocolError} (size : header.length = 48)
    (stream : s.incoming = header ++ rest) (refused : payloadLen header = .err e) :
    (readFrame payloadLen).run s = (.err e, { s with incoming := rest }) := by
  have first : (readExact (basicHeaderSize + cmdHeaderSize)).run s =
      (.ok header, { s with incoming := rest }) := readExact_append size stream
  rw [readFrame, Program.run_bind_ok first]
  exact Program.run_bind_err (by rw [refused, Program.run_ofOutcome])

/-- A reader that found `len` payload bytes announced takes exactly those, or
drains a stream that ends before. -/
theorem readFrame_accepted {payloadLen : List UInt8 → Outcome ProtocolError Nat} {s : Socket}
    {header rest : List UInt8} {len : Nat} (size : header.length = 48)
    (stream : s.incoming = header ++ rest) (found : payloadLen header = .ok len) :
    (readFrame payloadLen).run s =
      if len ≤ rest.length then
        (.ok (header ++ rest.take len), { s with incoming := rest.drop len })
      else (.err (.ioError "early eof"), { s with incoming := [] }) := by
  have first : (readExact (basicHeaderSize + cmdHeaderSize)).run s =
      (.ok header, { s with incoming := rest }) := readExact_append size stream
  have inspect : ∀ s' : Socket, (Program.ofOutcome (payloadLen header)).run s' = (.ok len, s') :=
    fun s' => by rw [found, Program.run_ofOutcome]
  rw [readFrame, Program.run_bind_ok first, Program.run_bind_ok (inspect _)]
  by_cases pos : len > 0
  · rw [if_pos pos]
    by_cases enough : len ≤ rest.length
    · rw [if_pos enough, Program.run_bind_ok (readExact_of_le enough)]
      rfl
    · rw [if_neg enough, Program.run_bind_err (readExact_of_lt (by simpa using enough))]
  · have zero : len = 0 := by omega
    subst zero
    rw [if_neg pos, if_pos (Nat.zero_le _), List.take_zero, List.append_nil, List.drop_zero]
    rfl

theorem checkPayloadLen_ne_panic (len : Nat) : checkPayloadLen len ≠ .panic := by
  unfold checkPayloadLen
  split_ifs <;> simp

theorem recvPayloadLen_ne_panic (h : UsbipHeader) : recvPayloadLen h.wire ≠ .panic := by
  rw [recvPayloadLen_wire]
  split_ifs
  · simp
  · exact checkPayloadLen_ne_panic _

theorem servePayloadLen_ne_panic (h : UsbipHeader) : servePayloadLen h.wire ≠ .panic := by
  rw [servePayloadLen_wire]
  exact checkPayloadLen_ne_panic _

/-- A reader fails, or cuts off the stream the header and as many payload bytes
as it found announced. It writes nothing. -/
theorem readFrame_cases {payloadLen : List UInt8 → Outcome ProtocolError Nat}
    (total : ∀ h : UsbipHeader, payloadLen h.wire ≠ .panic) (s : Socket) :
    (∃ e s', (readFrame payloadLen).run s = (.err e, s') ∧ s'.outgoing = s.outgoing) ∨
    ∃ (h : UsbipHeader) (rest : List UInt8) (len : Nat), s.incoming = h.wire ++ rest ∧
      payloadLen h.wire = .ok len ∧ len ≤ rest.length ∧
      (readFrame payloadLen).run s =
        (.ok (h.wire ++ rest.take len), { s with incoming := rest.drop len }) := by
  by_cases short : s.incoming.length < 48
  · exact Or.inl ⟨_, _, readFrame_short short, rfl⟩
  obtain ⟨h, rest, stream⟩ := exists_wire (Nat.not_lt.mp short)
  rcases found : payloadLen h.wire with len | e | _
  · have read := readFrame_accepted h.wire_length stream found
    by_cases enough : len ≤ rest.length
    · rw [if_pos enough] at read
      exact Or.inr ⟨h, rest, len, stream, found, enough, read⟩
    · rw [if_neg enough] at read
      exact Or.inl ⟨_, _, read, rfl⟩
  · exact Or.inl ⟨e, _, readFrame_refused h.wire_length stream found, rfl⟩
  · exact absurd found (total h)

end EasyUsb
