import EasyUsb.ReaderAgreement

namespace EasyUsb

open Foundation

/-- A session and the socket it owns. -/
structure Owned where
  session : TcpSession
  socket : Socket
  deriving DecidableEq

/-- Make a call; no answer means that it panicked. -/
def Owned.perform (o : Owned) (call : Call) : Option (Answer × Owned) :=
  match (o.session.call call : Program Empty (Answer × TcpSession)).run o.socket with
  | (.ok (answer, session), socket) => some (answer, ⟨session, socket⟩)
  | _ => none

/-- Every call of the sequence fails, writes nothing, takes nothing off the
stream and uses no sequence number. -/
def StaysClosed : Owned → List Call → Prop
  | _, [] => True
  | o, call :: calls => ∃ e o', o.perform call = some (.error e, o') ∧
      o'.socket.outgoing = o.socket.outgoing ∧ o'.socket.incoming = o.socket.incoming ∧
      o'.session.nextSeqnum = o.session.nextSeqnum ∧ StaysClosed o' calls

theorem perform_recvHeaderOrClose (o : Owned) :
    o.perform .recvHeaderOrClose = match TcpSession.recvHeaderInner.run o.socket with
      | (.ok frame, socket) => some (.ok (some frame), ⟨o.session, socket⟩)
      | (.err e, socket) =>
        some (.error e, ⟨{ o.session with closed := true }, { socket with writeShut := true }⟩)
      | (.panic, _) => none := by
  rcases received : TcpSession.recvHeaderInner.run o.socket with ⟨result, socket⟩
  cases result <;>
    simp [Owned.perform, TcpSession.call, TcpSession.recvHeaderOrClose, Program.run_bind,
      Program.run_attempt, received, Program.run, Except.map]

theorem perform_of_closed {o : Owned} {call : Call} (closed : o.session.closed = true)
    (other : call ≠ .recvHeaderOrClose) : o.perform call = some (.error sessionClosed, o) := by
  cases call with
  | sendHeader header payload =>
    simp [Owned.perform, TcpSession.call, TcpSession.sendHeader, closed, Except.map]
  | recvHeader =>
    simp [Owned.perform, TcpSession.call, TcpSession.recvHeader, closed, Except.map]
  | recvHeaderOrClose => exact absurd rfl other

theorem closed_of_recvHeaderOrClose {o o' : Owned} {e : ProtocolError}
    (failed : o.perform .recvHeaderOrClose = some (.error e, o')) : o'.session.closed = true := by
  rw [perform_recvHeaderOrClose] at failed
  rcases received : TcpSession.recvHeaderInner.run o.socket with ⟨result, socket⟩
  rw [received] at failed
  cases result with
  | ok frame => cases failed
  | err e' => cases failed; rfl
  | panic => cases failed

theorem recvHeaderInner_takes {s : Socket} (more : s.incoming ≠ []) :
    (TcpSession.recvHeaderInner.run s).2.incoming.length < s.incoming.length := by
  have pos : 0 < s.incoming.length := List.length_pos_iff.mpr more
  by_cases short : s.incoming.length < 48
  · rw [recvHeaderInner_short short]
    exact pos
  obtain ⟨h, rest, stream⟩ := exists_wire (by omega : 48 ≤ s.incoming.length)
  have size : s.incoming.length = 48 + rest.length := by simp [stream]
  rw [recvHeaderInner_wire stream]
  split_ifs
  · show rest.length < _
    omega
  · show rest.length < _
    omega
  · have := @List.length_drop _ h.declaredLen rest
    show (rest.drop h.declaredLen).length < _
    omega
  · exact pos

theorem perform_recvHeaderOrClose_takes {o o' : Owned} {answer : Answer}
    (more : o.socket.incoming ≠ [])
    (performed : o.perform .recvHeaderOrClose = some (answer, o')) :
    o'.socket.incoming ≠ o.socket.incoming := by
  have takes := recvHeaderInner_takes more
  rw [perform_recvHeaderOrClose] at performed
  rcases received : TcpSession.recvHeaderInner.run o.socket with ⟨result, socket⟩
  rw [received] at performed takes
  intro same
  have shorter : o'.socket.incoming.length < o.socket.incoming.length := by
    cases result with
    | ok frame => cases performed; exact takes
    | err e => cases performed; exact takes
    | panic => cases performed
  rw [same] at shorter
  exact Nat.lt_irrefl _ shorter

theorem perform_recvHeaderOrClose_ended {o : Owned} (ended : o.socket.incoming = []) :
    o.perform .recvHeaderOrClose = some (.error (.ioError "early eof"),
      ⟨{ o.session with closed := true }, { o.socket with incoming := [], writeShut := true }⟩) := by
  rw [perform_recvHeaderOrClose, recvHeaderInner_short (by simp [ended])]

/-- On a closed session only `recv_header_or_close` still reads, so the calls
leave everything alone as long as it finds the stream at its end. -/
theorem staysClosed_iff (calls : List Call) {o : Owned} (closed : o.session.closed = true) :
    StaysClosed o calls ↔ .recvHeaderOrClose ∉ calls ∨ o.socket.incoming = [] := by
  induction calls generalizing o with
  | nil => simp [StaysClosed]
  | cons call calls ih =>
    by_cases reads : call = .recvHeaderOrClose
    · subst reads
      constructor
      · rintro ⟨e, o', performed, _, same, _⟩
        refine Or.inr (Classical.byContradiction fun more => ?_)
        exact perform_recvHeaderOrClose_takes more performed same
      · rintro (absent | ended)
        · exact absurd List.mem_cons_self absent
        · refine ⟨_, _, perform_recvHeaderOrClose_ended ended, rfl, ended.symm, rfl, ?_⟩
          exact (ih rfl).mpr (Or.inr rfl)
    · have performed := perform_of_closed closed reads
      have member : Call.recvHeaderOrClose ∈ call :: calls ↔ Call.recvHeaderOrClose ∈ calls := by
        simp [List.mem_cons, Ne.symm reads]
      rw [member, ← ih closed]
      constructor
      · rintro ⟨e, o', performed', _, _, _, rest⟩
        cases performed.symm.trans performed'
        exact rest
      · exact fun rest => ⟨_, _, performed, rfl, rfl, rfl, rest⟩

theorem recvHeaderOrClose_staysClosed_iff {o o' : Owned} {e : ProtocolError}
    (failed : o.perform .recvHeaderOrClose = some (.error e, o')) (calls : List Call) :
    StaysClosed o' calls ↔ .recvHeaderOrClose ∉ calls ∨ o'.socket.incoming = [] :=
  staysClosed_iff calls (closed_of_recvHeaderOrClose failed)

/-- A RET_SUBMIT without payload. -/
def emptyReply : UsbipHeader :=
  ⟨⟨Constants.retSubmit, 1, 3, Constants.usbipDirIn, 2⟩,
    .ofRetSubmit ⟨0, 0, 0, 0, 0, Vector.replicate 8 0⟩⟩

/-- A fresh session whose peer sent these bytes. -/
def freshOwned (incoming : List UInt8) : Owned :=
  ⟨⟨0, 3, "1-1.2.3", ⟨0, Vector.replicate 256 0, Vector.replicate 32 0, 1, 3, 3, 0x1234, 0x5678,
    0x0200, 0, 0, 0, 1, 1, 2⟩, false⟩, ⟨incoming, [], false, none⟩⟩

/-- That session after it was closed by 48 garbage bytes, with a frame still
to be read behind them. -/
def shutOwned : Owned :=
  ⟨{ (freshOwned []).session with closed := true }, ⟨emptyReply.wire, [], true, none⟩⟩

theorem perform_garbage :
    (freshOwned (List.replicate 48 255 ++ emptyReply.wire)).perform .recvHeaderOrClose =
      some (.error .isochronousNotSupported, shutOwned) := by rfl

theorem recvHeaderOrClose_garbage :
    StaysClosed shutOwned [.recvHeader, .sendHeader emptyReply none] ↔
      Call.recvHeaderOrClose ∉ [.recvHeader, .sendHeader emptyReply none] ∨
        shutOwned.socket.incoming = [] :=
  recvHeaderOrClose_staysClosed_iff perform_garbage _

/-- The next `recv_header_or_close` still returns it. -/
theorem recvHeaderOrClose_reopens :
    ∃ (o o' : Owned) (e : ProtocolError), o.perform .recvHeaderOrClose = some (.error e, o') ∧
      (∃ o'', o'.perform .recvHeaderOrClose = some (.ok (some (emptyReply, none)), o'')) ∧
      ¬StaysClosed o' [.recvHeaderOrClose] := by
  have reopened : shutOwned.perform .recvHeaderOrClose = some (.ok (some (emptyReply, none)),
      ⟨shutOwned.session, ⟨[], [], true, none⟩⟩) := by rfl
  refine ⟨_, _, _, perform_garbage, ⟨_, reopened⟩, ?_⟩
  rintro ⟨e, o', performed, _⟩
  cases reopened.symm.trans performed

end EasyUsb
