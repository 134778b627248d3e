import Mathlib.Data.List.Forall2
import EasyUsb.ReaderAgreement
import EasyUsb.UrbFrame

namespace EasyUsb

open Foundation

/-- A frame whose unlink layouts are padded with zeros, as the constructors and
`serve_urb_echo` fill them. -/
structure StreamFrame extends UrbFrame where
  padding : header.Unlink → header.u.padding = Vector.replicate 6 0

/-- So many calls of `recv_header_inner` in a row, up to the first error. -/
def recvFrames : Nat → Program ProtocolError (List Frame)
  | 0 => return []
  | n + 1 => do
    let frame ← TcpSession.recvHeaderInner
    let frames ← recvFrames n
    return frame :: frames

theorem word3_of_padding {u : UsbipHeaderUnion} (zeros : u.padding = Vector.replicate 6 0) :
    u.word3 = 0 := by
  have words := congrArg Vector.toList zeros
  simp only [UsbipHeaderUnion.padding, Vector.toList_mk, Vector.toList_replicate,
    List.replicate, List.cons.injEq] at words
  exact words.2.2.1

theorem StreamFrame.word3 (f : StreamFrame) : f.header.u.word3 = 0 := by
  rcases f.known.submit_or_unlink with submit | unlink
  · by_contra packets
    exact f.plain ((isochronous_iff_word3 submit).mpr packets)
  · exact word3_of_padding (f.padding unlink)

/-- One call takes exactly the frame at the front of the stream. -/
theorem recvHeaderInner_frame {f : UrbFrame} {s : Socket} {rest : List UInt8}
    (clear : f.header.u.word3 = 0) (stream : s.incoming = f.bytes ++ rest) :
    TcpSession.recvHeaderInner.run s = (.ok f.frame, { s with incoming := rest }) := by
  have split : s.incoming = f.header.wire ++ (f.payload.getD [] ++ rest) := by
    rw [stream, UrbFrame.bytes, List.append_assoc]
  have enough : f.header.declaredLen ≤ (f.payload.getD [] ++ rest).length := by
    rw [List.length_append, f.payload_length]
    omega
  have decoded := decodeHeader_of_matching f.direction f.known f.small f.matching rest
  rw [List.append_assoc] at decoded
  rw [recvHeaderInner_ok split clear f.small enough, decoded, List.drop_left' f.payload_length]
  rfl

theorem recvFrames_bytes (frames : List StreamFrame) {s : Socket} {rest : List UInt8}
    (stream : s.incoming = (frames.map fun f => f.bytes).flatten ++ rest) :
    (recvFrames frames.length).run s =
      (.ok (frames.map fun f => f.frame), { s with incoming := rest }) := by
  induction frames generalizing s with
  | nil =>
    have same : s.incoming = rest := stream
    subst same
    rfl
  | cons f frames ih =>
    rw [List.map_cons, List.flatten_cons, List.append_assoc] at stream
    have first := recvHeaderInner_frame f.word3 stream
    have others := @ih { s with incoming := (frames.map fun f => f.bytes).flatten ++ rest } rfl
    rw [List.length_cons, recvFrames, Program.run_bind_ok first, Program.run_bind_ok others]
    rfl

/-- Frames sent one after the other are received one by one: every encoding
succeeds, and the calls return the frames in order and leave what follows. -/
theorem recvFrames_of_encodeHeader (frames : List StreamFrame) :
    ∃ encodings : List (List UInt8),
      List.Forall₂ (fun f e => encodeHeader f.header f.payload = .ok e) frames encodings ∧
      ∀ (s : Socket) (rest : List UInt8), s.incoming = encodings.flatten ++ rest →
        (recvFrames frames.length).run s =
          (.ok (frames.map fun f => (f.header, f.payload)), { s with incoming := rest }) := by
  refine ⟨frames.map fun f => f.bytes, ?_, fun s rest stream => recvFrames_bytes frames stream⟩
  rw [List.forall₂_map_right_iff, List.forall₂_same]
  exact fun f _ => f.encode

/-- A transfer of two bytes with its reply, and a cancellation with its reply. -/
def fourMessages : List Frame :=
  [(⟨⟨Constants.cmdSubmit, 1, 65539, Constants.usbipDirOut, 2⟩,
      .ofCmdSubmit ⟨0, 2, 0, 0, 0, Vector.replicate 8 0⟩⟩, some [7, 8]),
    (⟨⟨Constants.retSubmit, 1, 65539, Constants.usbipDirIn, 2⟩,
      .ofRetSubmit ⟨0, 2, 0, 0, 0, Vector.replicate 8 0⟩⟩, some [7, 8]),
    (⟨⟨Constants.cmdUnlink, 2, 65539, Constants.usbipDirOut, 2⟩,
      .ofCmdUnlink ⟨1, Vector.replicate 6 0⟩⟩, none),
    (⟨⟨Constants.retUnlink, 2, 65539, Constants.usbipDirOut, 2⟩,
      .ofRetUnlink ⟨0, Vector.replicate 6 0⟩⟩, none)]

/-- They are such frames, and so they are received as they were sent. -/
theorem recvFrames_fourMessages :
    ∃ frames : List StreamFrame, frames.map (fun f => (f.header, f.payload)) = fourMessages ∧
      ∃ encodings : List (List UInt8),
        List.Forall₂ (fun f e => encodeHeader f.header f.payload = .ok e) frames encodings ∧
        ∀ (s : Socket) (rest : List UInt8), s.incoming = encodings.flatten ++ rest →
          (recvFrames frames.length).run s =
            (.ok (frames.map fun f => (f.header, f.payload)), { s with incoming := rest }) := by
  refine ⟨[⟨⟨_, some _, ?_, ?_, ?_, ?_, matching_some ?_ ?_⟩, fun other => absurd other ?_⟩,
    ⟨⟨_, some _, ?_, ?_, ?_, ?_, matching_some ?_ ?_⟩, fun other => absurd other ?_⟩,
    ⟨⟨_, none, ?_, ?_, ?_, ?_, matching_none ?_⟩, fun _ => ?_⟩,
    ⟨⟨_, none, ?_, ?_, ?_, ?_, matching_none ?_⟩, fun _ => ?_⟩], rfl,
    recvFrames_of_encodeHeader _⟩
  all_goals decide

end EasyUsb
