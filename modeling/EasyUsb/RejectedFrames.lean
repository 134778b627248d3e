import EasyUsb.ClosedSession

namespace EasyUsb

open Foundation

/-- A frame as a peer sends it: any header, and the payload bytes it declares. -/
structure SentFrame where
  header : UsbipHeader
  payload : List UInt8
  size : payload.length = header.declaredLen

namespace SentFrame

def bytes (f : SentFrame) : List UInt8 := f.header.wire ++ f.payload

def frame (f : SentFrame) : Frame :=
  (f.header, if f.header.declaredLen = 0 then none else some f.payload)

end SentFrame

/-- The frames that the first so many calls of `recv_header` return; the calls
that fail return none. -/
def Owned.received : Nat → Owned → List Frame
  | 0, _ => []
  | n + 1, o => match o.perform .recvHeader with
    | some (.ok (some frame), o') => frame :: o'.received n
    | some (_, o') => o'.received n
    | none => []

/-- Whatever the session and however many calls it makes, what it receives are
frames that were sent, in the order they were sent in. -/
def Unforged (frames : List SentFrame) : Prop :=
  ∀ (o : Owned) (n : Nat), o.socket.incoming = (frames.map SentFrame.bytes).flatten →
    (o.received n).Sublist (frames.map SentFrame.frame)

/-- No payload bytes are left behind by the checks that reject a frame before
its payload is read. -/
def UsbipHeader.Drained (h : UsbipHeader) : Prop :=
  (h.Isochronous → h.declaredLen = 0) ∧ h.declaredLen ≤ maxPayloadSize

theorem perform_recvHeader {o : Owned} (opened : o.session.closed = false) :
    o.perform .recvHeader = match TcpSession.recvHeaderInner.run o.socket with
      | (.ok frame, socket) => some (.ok (some frame), ⟨o.session, socket⟩)
      | (.err e, socket) => some (.error e, ⟨o.session, socket⟩)
      | (.panic, _) => none := by
  rcases received : TcpSession.recvHeaderInner.run o.socket with ⟨result, socket⟩
  cases result <;>
    simp [Owned.perform, TcpSession.call, TcpSession.recvHeader, opened, Program.run_bind,
      Program.run_attempt, received, Except.map]

theorem received_of_closed {o : Owned} (closed : o.session.closed = true) (n : Nat) :
    o.received n = [] := by
  induction n with
  | zero => rfl
  | succ n ih =>
    rw [Owned.received, perform_of_closed closed (by decide)]
    exact ih

theorem received_ok {o : Owned} {frame : Frame} {socket : Socket}
    (opened : o.session.closed = false)
    (run : TcpSession.recvHeaderInner.run o.socket = (.ok frame, socket)) (n : Nat) :
    o.received (n + 1) = frame :: Owned.received n ⟨o.session, socket⟩ := by
  rw [Owned.received, perform_recvHeader opened, run]

theorem received_err {o : Owned} {e : ProtocolError} {socket : Socket}
    (opened : o.session.closed = false)
    (run : TcpSession.recvHeaderInner.run o.socket = (.err e, socket)) (n : Nat) :
    o.received (n + 1) = Owned.received n ⟨o.session, socket⟩ := by
  rw [Owned.received, perform_recvHeader opened, run]

theorem declaredLen_of_packets {h : UsbipHeader} (drained : h.Drained) (packets : h.u.word3 ≠ 0) :
    h.declaredLen = 0 := by
  by_contra some_bytes
  have submit := submit_of_declaredLen (Nat.pos_of_ne_zero some_bytes)
  exact some_bytes (drained.1 ((isochronous_iff_word3 submit).mpr packets))

theorem decodeHeader_sent (f : SentFrame) (small : f.header.declaredLen ≤ maxPayloadSize) :
    decodeHeader f.bytes = .ok f.frame ∨ ∃ e, decodeHeader f.bytes = .err e := by
  rw [SentFrame.bytes, decodeHeader_wire, decodeWire, SentFrame.frame, ← f.size,
    if_neg (Nat.lt_irrefl _), List.take_length, f.size, if_neg (Nat.not_lt.mpr small)]
  by_cases dir : f.header.ValidDirection
  swap
  · exact Or.inr ⟨_, if_pos dir⟩
  by_cases known : f.header.Known
  swap
  · exact Or.inr ⟨_, by rw [if_neg (not_not.mpr dir), if_pos known]⟩
  rw [if_neg (not_not.mpr dir), if_neg (not_not.mpr known)]
  split_ifs
  · exact Or.inl rfl
  · exact Or.inl rfl

/-- A drained frame is taken off the stream whole, whether it is returned or
rejected. -/
theorem recvHeaderInner_sent {f : SentFrame} (drained : f.header.Drained) {s : Socket}
    {rest : List UInt8} (stream : s.incoming = f.bytes ++ rest) :
    TcpSession.recvHeaderInner.run s = (.ok f.frame, { s with incoming := rest }) ∨
      ∃ e, TcpSession.recvHeaderInner.run s = (.err e, { s with incoming := rest }) := by
  have size := f.size
  rw [SentFrame.bytes, List.append_assoc] at stream
  rw [recvHeaderInner_wire stream]
  by_cases packets : f.header.u.word3 ≠ 0
  · have empty : f.payload = [] := by
      rw [declaredLen_of_packets drained packets] at size
      exact List.length_eq_zero_iff.mp size
    rw [if_pos packets, empty]
    exact Or.inr ⟨_, rfl⟩
  have enough : f.header.declaredLen ≤ (f.payload ++ rest).length := by
    rw [List.length_append]
    omega
  rw [if_neg packets, if_neg (Nat.not_lt.mpr drained.2), if_pos enough, List.take_left' size,
    List.drop_left' size]
  rcases decodeHeader_sent f drained.2 with decoded | ⟨e, refused⟩
  · exact Or.inl (by rw [← decoded]; rfl)
  · exact Or.inr ⟨e, by rw [← refused]; rfl⟩

theorem received_ended {o : Owned} (ended : o.socket.incoming = []) (n : Nat) :
    o.received n = [] := by
  induction n generalizing o with
  | zero => rfl
  | succ n ih =>
    cases closed : o.session.closed with
    | true => exact received_of_closed closed (n + 1)
    | false =>
      have run := @recvHeaderInner_short o.socket (by simp [ended])
      rw [received_err closed run]
      exact ih rfl

theorem unforged_of_drained {frames : List SentFrame}
    (drained : ∀ f ∈ frames, f.header.Drained) : Unforged frames := by
  intro o n stream
  cases closed : o.session.closed with
  | true =>
    rw [received_of_closed closed]
    exact List.nil_sublist _
  | false =>
    induction frames generalizing o n with
    | nil =>
      rw [received_ended stream]
      exact List.nil_sublist _
    | cons f frames ih =>
      cases n with
      | zero => exact List.nil_sublist _
      | succ n =>
        have rest := ih (fun g mem => drained g (List.mem_cons_of_mem f mem))
          ⟨o.session, { o.socket with incoming := (frames.map SentFrame.bytes).flatten }⟩ n rfl
          closed
        rcases recvHeaderInner_sent (drained f List.mem_cons_self) stream with ok | ⟨e, refused⟩
        · rw [received_ok closed ok]
          exact List.Sublist.cons_cons _ rest
        · rw [received_err closed refused]
          exact List.Sublist.cons _ rest

/-- Any other frame leaves all its payload in the stream. -/
theorem recvHeaderInner_undrained {h : UsbipHeader} (undrained : ¬h.Drained) {s : Socket}
    {rest : List UInt8} (stream : s.incoming = h.wire ++ rest) :
    ∃ e, TcpSession.recvHeaderInner.run s = (.err e, { s with incoming := rest }) := by
  rw [recvHeaderInner_wire stream]
  by_cases packets : h.u.word3 ≠ 0
  · exact ⟨_, if_pos packets⟩
  by_cases large : h.declaredLen > maxPayloadSize
  · exact ⟨_, by rw [if_neg packets, if_pos large]⟩
  refine absurd ⟨fun iso => ?_, Nat.not_lt.mp large⟩ undrained
  have submit : h.base.command = Constants.cmdSubmit ∨ h.base.command = Constants.retSubmit :=
    Or.imp And.left And.left iso
  exact absurd ((isochronous_iff_word3 submit).mp iso) packets

/-- The frame a peer hides in a payload. -/
def forgedHeader : UsbipHeader :=
  ⟨⟨Constants.retUnlink, 0, 0, Constants.usbipDirOut, 0⟩,
    .ofRetUnlink ⟨0, Vector.replicate 6 0⟩⟩

theorem recvHeaderInner_forged {s : Socket} {rest : List UInt8}
    (stream : s.incoming = forgedHeader.wire ++ rest) :
    TcpSession.recvHeaderInner.run s =
      (.ok (forgedHeader, none), { s with incoming := rest }) := by
  have clear : forgedHeader.u.word3 = 0 := by decide
  have empty : forgedHeader.declaredLen = 0 := by decide
  have decoded : decodeHeader (forgedHeader.wire ++ rest) = .ok (forgedHeader, none) := by
    rw [decodeHeader_wire, decodeWire, if_neg (by decide), if_neg (by decide), if_pos empty]
  rw [recvHeaderInner_ok stream clear (by omega) (by omega), decoded, empty, List.drop_zero]

theorem received_forged {o : Owned} {h : UsbipHeader} {tail : List UInt8}
    (undrained : ¬h.Drained) (opened : o.session.closed = false)
    (stream : o.socket.incoming = h.wire ++ (forgedHeader.wire ++ tail)) :
    o.received 2 = [(forgedHeader, none)] := by
  obtain ⟨e, refused⟩ := recvHeaderInner_undrained undrained stream
  let left : Socket := { o.socket with incoming := forgedHeader.wire ++ tail }
  have forged : TcpSession.recvHeaderInner.run left = _ := recvHeaderInner_forged rfl
  have second := @received_ok ⟨o.session, left⟩ _ _ opened forged 0
  exact (received_err opened refused 1).trans second

theorem not_unforged_of_stream {frames : List SentFrame} {h : UsbipHeader} {tail : List UInt8}
    (undrained : ¬h.Drained)
    (stream : (frames.map SentFrame.bytes).flatten = h.wire ++ (forgedHeader.wire ++ tail))
    (genuine : ∀ f ∈ frames, f.header ≠ forgedHeader) : ¬Unforged frames := by
  intro unforged
  have sublist := unforged (freshOwned (h.wire ++ (forgedHeader.wire ++ tail))) 2 stream.symm
  rw [received_forged undrained rfl rfl] at sublist
  obtain ⟨f, mem, same⟩ := List.mem_map.mp (List.singleton_sublist.mp sublist)
  exact genuine f mem (congrArg Prod.fst same)

theorem forgedHeader_wire : forgedHeader.wire = [0, 0, 0, 4] ++ List.replicate 44 0 := rfl

/-- What is left of the forged frame when its front part was a payload does not
start with a SUBMIT command, nor with the command it is forged with. -/
theorem wordAt_forged_drop {n : Nat} (pos : 0 < n) (short : n < 48) :
    ∃ word, wordAt (forgedHeader.wire.drop n ++ List.replicate n 0) 0 = .ok word ∧
      word ∉ [Constants.cmdSubmit, Constants.retSubmit, Constants.retUnlink] := by
  rw [forgedHeader_wire]
  match n with
  | 1 => exact ⟨0x400, rfl, by decide⟩
  | 2 => exact ⟨0x40000, rfl, by decide⟩
  | 3 => exact ⟨0x4000000, rfl, by decide⟩
  | k + 4 =>
    have zeros : ([0, 0, 0, 4] ++ List.replicate 44 (0 : UInt8)).drop (k + 4) ++
        List.replicate (k + 4) 0 = List.replicate 48 0 := by
      show (List.replicate 44 0).drop k ++ _ = _
      rw [List.drop_replicate, List.replicate_append_replicate]
      congr 1
      omega
    rw [zeros]
    exact ⟨0, rfl, by decide⟩

/-- The header that completes a forged frame begun in a payload of `n` bytes. -/
theorem exists_completion {n : Nat} (pos : 0 < n) (short : n < 48) :
    ∃ g : SentFrame, g.bytes = forgedHeader.wire.drop n ++ List.replicate n 0 ∧
      g.header.declaredLen = 0 ∧ g.header ≠ forgedHeader := by
  have size : (forgedHeader.wire.drop n ++ List.replicate n 0).length = 48 := by
    simp only [List.length_append, List.length_drop, UsbipHeader.wire_length,
      List.length_replicate]
    omega
  obtain ⟨header, image⟩ := exists_wire_eq size
  have command := wordAt_command header []
  rw [List.append_nil, image] at command
  obtain ⟨word, left, outside⟩ := wordAt_forged_drop pos short
  cases command.symm.trans left
  have differs : ∀ c ∈ [Constants.cmdSubmit, Constants.retSubmit, Constants.retUnlink],
      header.base.command ≠ c := fun c mem same => outside (same ▸ mem)
  have empty : header.declaredLen = 0 :=
    declaredLen_of_other (differs _ (by simp)) (differs _ (by simp))
  refine ⟨⟨header, [], empty.symm⟩, ?_, empty, fun same => ?_⟩
  · rw [← image]
    exact List.append_nil _
  · have command : header.base.command = Constants.retUnlink := congrArg (·.base.command) same
    exact differs _ (by simp) command

theorem exists_forgery {h : UsbipHeader} (undrained : ¬h.Drained) :
    ∃ (f : SentFrame) (others : List SentFrame), f.header = h ∧
      (∀ g ∈ others, g.header.Drained) ∧ ¬Unforged (f :: others) := by
  have pos : 0 < h.declaredLen := by
    by_contra empty
    have zero : h.declaredLen = 0 := by omega
    exact undrained ⟨fun _ => zero, by omega⟩
  have other : h ≠ forgedHeader := by
    intro same
    rw [same] at pos
    exact absurd pos (by decide)
  by_cases long : 48 ≤ h.declaredLen
  · -- the payload holds a whole frame
    let f : SentFrame := ⟨h, forgedHeader.wire ++ List.replicate (h.declaredLen - 48) 0, by
      simp only [List.length_append, UsbipHeader.wire_length, List.length_replicate]
      omega⟩
    have stream : ([f].map SentFrame.bytes).flatten =
        h.wire ++ (forgedHeader.wire ++ List.replicate (h.declaredLen - 48) 0) := by
      simp [f, SentFrame.bytes]
    refine ⟨f, [], rfl, by simp, not_unforged_of_stream undrained stream ?_⟩
    intro g mem
    rw [List.mem_singleton.mp mem]
    exact other
  · -- it holds the front of one, and the header of the next frame the rest
    obtain ⟨g, bytes, empty, genuine⟩ := exists_completion pos (Nat.not_le.mp long)
    let f : SentFrame := ⟨h, forgedHeader.wire.take h.declaredLen, by
      simp only [List.length_take, UsbipHeader.wire_length]
      omega⟩
    have stream : ([f, g].map SentFrame.bytes).flatten =
        h.wire ++ (forgedHeader.wire ++ List.replicate h.declaredLen 0) := by
      have first : f.bytes = h.wire ++ forgedHeader.wire.take h.declaredLen := rfl
      simp only [List.map_cons, List.map_nil, List.flatten_cons, List.flatten_nil,
        List.append_nil, first, bytes, List.append_assoc]
      rw [← List.append_assoc (forgedHeader.wire.take _), List.take_append_drop]
    refine ⟨f, [g], rfl, ?_, not_unforged_of_stream undrained stream ?_⟩
    · intro g' mem
      rw [List.mem_singleton.mp mem]
      exact ⟨fun _ => empty, by omega⟩
    · intro g' mem
      rcases List.mem_cons.mp mem with first | second
      · rw [first]
        exact other
      · rw [List.mem_singleton.mp second]
        exact genuine

/-- While the checks made before a payload is read only ever reject frames that
have none, nothing is forged; any other header can be followed by a payload, and
by frames that are taken whole, out of which a frame is forged. -/
theorem unforged_while_drained (frames : List SentFrame) :
    ((∀ f ∈ frames, f.header.Drained) → Unforged frames) ∧
    (∀ f ∈ frames, ¬f.header.Drained → ∃ (g : SentFrame) (others : List SentFrame),
      g.header = f.header ∧ (∀ g' ∈ others, g'.header.Drained) ∧ ¬Unforged (g :: others)) :=
  ⟨fun drained => unforged_of_drained drained, fun _ _ undrained => exists_forgery undrained⟩

/-- An isochronous request whose payload is a RET_UNLINK frame. -/
def isochronousCarrier : SentFrame :=
  ⟨⟨⟨Constants.cmdSubmit, 1, 3, Constants.usbipDirOut, 2⟩,
    .ofCmdSubmit ⟨0, 48, 0, 1, 0, Vector.replicate 8 0⟩⟩, forgedHeader.wire, by decide⟩

/-- The second call returns the payload of the rejected request as a frame. -/
theorem received_smuggled :
    Owned.received 2 (freshOwned isochronousCarrier.bytes) = [(forgedHeader, none)] ∧
      ¬Unforged [isochronousCarrier] := by
  have returned : Owned.received 2 (freshOwned isochronousCarrier.bytes) =
      [(forgedHeader, none)] := by rfl
  refine ⟨returned, fun unforged => ?_⟩
  have sublist := unforged (freshOwned isochronousCarrier.bytes) 2 (List.append_nil _).symm
  rw [returned] at sublist
  exact absurd sublist (by decide)

end EasyUsb
