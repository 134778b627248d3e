import EasyUsb.Duplex
import EasyUsb.StreamTranscript

namespace EasyUsb

open Foundation

/-- The frames among the answers. -/
def returned (log : List (Call × Answer)) : List Frame :=
  log.filterMap fun
    | (_, .ok (some frame)) => some frame
    | _ => none

theorem recvHeaderInner_suffix (s : Socket) :
    (TcpSession.recvHeaderInner.run s).2.incoming <:+ s.incoming := by
  by_cases short : s.incoming.length < 48
  · rw [recvHeaderInner_short short]
    exact List.nil_suffix
  obtain ⟨h, rest, stream⟩ := exists_wire (by omega : 48 ≤ s.incoming.length)
  rw [recvHeaderInner_wire stream, stream]
  split_ifs
  · exact List.suffix_append _ _
  · exact List.suffix_append _ _
  · exact (List.drop_suffix _ _).trans (List.suffix_append _ _)
  · exact List.nil_suffix

/-- What is returned was taken off the front of the stream. -/
theorem recvHeaderInner_takes_frame {s t : Socket} {frame : Frame}
    (received : TcpSession.recvHeaderInner.run s = (.ok frame, t)) :
    ∃ f : UrbFrame, f.frame = frame ∧ s.incoming = f.bytes ++ t.incoming := by
  obtain ⟨f, clear, rest, stream⟩ := exists_clear (congrArg Prod.fst received)
  have taken := recvHeaderInner_frame clear stream.symm
  rw [taken] at received
  cases received
  exact ⟨f, rfl, stream.symm⟩

theorem send_returns_none {o o' : Owned} {message : Frame} {answer : Answer}
    (sent : o.send message = some (answer, o')) (frame : Frame) : answer ≠ .ok (some frame) := by
  intro same
  subst same
  by_cases closed : o.session.closed = true
  · cases (send_closed closed message).symm.trans sent
  · rcases send_cases (Bool.not_eq_true _ ▸ closed) message with
      ⟨e, _, refused⟩ | ⟨buf, _, ⟨socket, _, written⟩ | ⟨e, socket, _, failed⟩⟩
    · cases refused.symm.trans sent
    · cases written.symm.trans sent
    · cases failed.symm.trans sent

/-- What one call does to the incoming bytes. -/
theorem perform_takes {o o' : Owned} {call : Call} {answer : Answer}
    (performed : o.perform call = some (answer, o')) :
    (∃ f : UrbFrame, answer = .ok (some f.frame) ∧
      o.socket.incoming = f.bytes ++ o'.socket.incoming) ∨
    (∀ frame, answer ≠ .ok (some frame)) ∧ o'.socket.incoming <:+ o.socket.incoming := by
  cases call with
  | sendHeader header payload =>
    have none := @send_returns_none o o' (header, payload) answer performed
    rw [(send_reading performed).2]
    exact Or.inr ⟨none, List.suffix_refl _⟩
  | recvHeader =>
    by_cases closed : o.session.closed = true
    · cases (perform_of_closed closed (by decide)).symm.trans performed
      exact Or.inr ⟨fun _ same => (by cases same), List.suffix_refl _⟩
    rw [perform_recvHeader (Bool.not_eq_true _ ▸ closed)] at performed
    have suffix := recvHeaderInner_suffix o.socket
    rcases received : TcpSession.recvHeaderInner.run o.socket with ⟨frame | e | _, socket⟩
    · rw [received] at performed
      cases performed
      obtain ⟨f, rfl, stream⟩ := recvHeaderInner_takes_frame received
      exact Or.inl ⟨f, rfl, stream⟩
    · rw [received] at performed suffix
      cases performed
      exact Or.inr ⟨fun _ same => (by cases same), suffix⟩
    · rw [received] at performed
      cases performed
  | recvHeaderOrClose =>
    rw [perform_recvHeaderOrClose] at performed
    have suffix := recvHeaderInner_suffix o.socket
    rcases received : TcpSession.recvHeaderInner.run o.socket with ⟨frame | e | _, socket⟩
    · rw [received] at performed
      cases performed
      obtain ⟨f, rfl, stream⟩ := recvHeaderInner_takes_frame received
      exact Or.inl ⟨f, rfl, stream⟩
    · rw [received] at performed suffix
      cases performed
      exact Or.inr ⟨fun _ same => (by cases same), suffix⟩
    · rw [received] at performed
      cases performed

theorem returned_transcript (calls : List Call) {o o' : Owned} {log : List (Call × Answer)}
    (made : transcript Owned.perform o calls = some (log, o')) :
    ∃ frames : List UrbFrame, returned log = frames.map UrbFrame.frame ∧
      (frames.flatMap UrbFrame.bytes ++ o'.socket.incoming).Sublist o.socket.incoming := by
  induction calls generalizing o log with
  | nil =>
    cases made
    exact ⟨[], rfl, List.Sublist.refl _⟩
  | cons call calls ih =>
    obtain ⟨answer, next, others, first, later, rfl⟩ := transcript_cons_some made
    obtain ⟨frames, same, within⟩ := ih later
    rcases perform_takes first with ⟨f, rfl, stream⟩ | ⟨none, suffix⟩
    · refine ⟨f :: frames, congrArg _ same, ?_⟩
      rw [stream, List.flatMap_cons, List.append_assoc]
      exact (List.Sublist.refl _).append within
    · have skipped : returned ((call, answer) :: others) = returned others := by
        rw [returned, List.filterMap_cons]
        rcases answer with e | _ | frame
        · rfl
        · rfl
        · exact absurd rfl (none frame)
      exact ⟨frames, skipped.trans same, within.trans suffix.sublist⟩

theorem flatMap_room (frames : List UrbFrame) :
    payloadOffset * frames.length ≤ (frames.flatMap UrbFrame.bytes).length := by
  induction frames with
  | nil => exact Nat.zero_le _
  | cons f frames ih =>
    have size := f.bytes_length
    rw [List.flatMap_cons, List.length_append, List.length_cons, Nat.mul_succ]
    omega

/-- Whatever the peer sends and whatever calls are made, also after errors: the frames
a session returns are well formed, their bytes are pieces of the stream in its order, each
used once, and so there are no more of them than the stream has room for headers. -/
theorem session_returns (o : Owned) (calls : List Call) :
    ∃ log o', transcript Owned.perform o calls = some (log, o') ∧
      ∃ frames : List UrbFrame, returned log = frames.map UrbFrame.frame ∧
        (frames.flatMap UrbFrame.bytes ++ o'.socket.incoming).Sublist o.socket.incoming ∧
        payloadOffset * frames.length ≤ o.socket.incoming.length := by
  obtain ⟨log, o', made⟩ := exists_transcript exists_perform calls o
  obtain ⟨frames, same, within⟩ := returned_transcript calls made
  refine ⟨log, o', made, frames, same, within, ?_⟩
  have room := flatMap_room frames
  have size := within.length_le
  rw [List.length_append] at size
  omega

end EasyUsb
