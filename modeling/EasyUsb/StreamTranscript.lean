import EasyUsb.Foundation.Rounds
import EasyUsb.FrameStream
import EasyUsb.BusidRoundTrip
import EasyUsb.ImportRefused
import EasyUsb.ServeEcho

namespace EasyUsb

open Foundation

theorem UrbFrame.eq_of_frame {f g : UrbFrame} (same : f.frame = g.frame) : f = g := by
  obtain ⟨header, payload⟩ := f
  obtain ⟨header', payload'⟩ := g
  cases same
  rfl

theorem UrbFrame.decode_front {f : UrbFrame} {stream : List UInt8} (front : f.bytes <+: stream) :
    decodeHeader stream = .ok f.frame := by
  obtain ⟨rest, rfl⟩ := front
  exact decodeHeader_of_matching f.direction f.known f.small f.matching rest

theorem UrbFrame.bytes_ne_nil (f : UrbFrame) : f.bytes ≠ [] := by
  intro empty
  have size := f.bytes_length
  rw [empty, List.length_nil, payloadOffset, basicHeaderSize] at size
  omega

/-- What a frame decodes to does not depend on what follows it, so none begins another. -/
theorem UrbFrame.eq_of_front {f g : UrbFrame} (front : f.bytes <+: g.bytes) : f = g := by
  have first := UrbFrame.decode_front front
  have second := UrbFrame.decode_front (List.prefix_refl g.bytes)
  exact UrbFrame.eq_of_frame (Outcome.ok.inj (first.symm.trans second))

/-- The frames as words of a code. -/
def urbCode : PrefixCode UInt8 UrbFrame where
  word := UrbFrame.bytes
  nonempty := UrbFrame.bytes_ne_nil
  prefixFree _ _ := UrbFrame.eq_of_front

/-- Nothing stands where the client looks for a packet count. -/
def UrbFrame.Clear (f : UrbFrame) : Prop := f.header.u.word3 = 0

/-- The server answers this request. -/
def UrbFrame.Request (f : UrbFrame) : Prop := f.header.Served

theorem plain_of_clear {h : UsbipHeader} (known : h.Known) (clear : h.u.word3 = 0) :
    ¬h.Isochronous := by
  rcases known.submit_or_unlink with submit | unlink
  · exact fun iso => (isochronous_iff_word3 submit).mp iso clear
  · exact not_isochronous_of_unlink unlink

theorem exists_clear {s : Socket} {frame : Frame}
    (received : (TcpSession.recvHeaderInner.run s).1 = .ok frame) :
    ∃ f : UrbFrame, f.Clear ∧ f.bytes <+: s.incoming := by
  obtain ⟨clear, decoded⟩ := recvHeaderInner_eq_ok.mp received
  have known := (decodeHeader_eq_ok.mp decoded).2.1
  obtain ⟨f, rest, header, _, stream⟩ := exists_urbFrame decoded (plain_of_clear known clear)
  refine ⟨f, ?_, ⟨rest, stream.symm⟩⟩
  rw [UrbFrame.Clear, header]
  exact clear

theorem exists_echoOf (f : UrbFrame) :
    ∃ reply : UrbFrame, reply.frame = echoOf f.frame ∧ reply.Clear := by
  by_cases hc : f.header.base.command = Constants.cmdSubmit
  · obtain ⟨reply, frame, clear, _⟩ := exists_echo f (Or.inl hc)
    exact ⟨reply, frame, clear⟩
  · obtain ⟨reply, header, payload⟩ := exists_unlinkReply f
    refine ⟨reply, ?_, ?_⟩
    · have other : ¬f.frame.1.base.command = Constants.cmdSubmit := hc
      rw [UrbFrame.frame, header, payload, echoOf, if_neg other, unlinkReply]
      rfl
    · rw [UrbFrame.Clear, header]
      rfl

/-- What holds of every frame holds of the echo of one. -/
theorem holds_of_echoOf {P : Frame → Prop} (all : ∀ g : UrbFrame, P g.frame) (f : UrbFrame) :
    P (echoOf f.frame) := by
  obtain ⟨reply, same, _⟩ := exists_echoOf f
  rw [← same]
  exact all reply

/-- The frame the server answers with. -/
def UrbFrame.echo (f : UrbFrame) : UrbFrame where
  header := (echoOf f.frame).1
  payload := (echoOf f.frame).2
  direction := holds_of_echoOf (P := fun m => m.1.ValidDirection) UrbFrame.direction f
  known := holds_of_echoOf (P := fun m => m.1.Known) UrbFrame.known f
  plain := holds_of_echoOf (P := fun m => ¬m.1.Isochronous) UrbFrame.plain f
  small := holds_of_echoOf (P := fun m => m.1.declaredLen ≤ maxPayloadSize) UrbFrame.small f
  matching := holds_of_echoOf (P := fun m => m.1.Matching m.2) UrbFrame.matching f

theorem UrbFrame.echo_clear (f : UrbFrame) : f.echo.Clear := by
  obtain ⟨reply, same, clear⟩ := exists_echoOf f
  have reply : reply = f.echo := UrbFrame.eq_of_frame same
  rwa [reply] at clear

theorem UrbFrame.Request.command {f : UrbFrame} (request : f.Request) :
    f.header.base.command = Constants.cmdSubmit ∨ f.header.base.command = Constants.cmdUnlink :=
  request.imp_left And.left

/-- An echo is as long as the request. -/
theorem UrbFrame.Request.echo_length {f : UrbFrame} (request : f.Request) :
    f.echo.bytes.length = f.bytes.length := by
  have sizes : ((echoOf f.frame).2.getD []).length = (f.payload.getD []).length := by
    by_cases hc : f.frame.1.base.command = Constants.cmdSubmit
    · rw [echoOf, if_pos hc]
      rfl
    · have cu := request.command.resolve_left hc
      have empty : f.header.declaredLen = 0 := declaredLen_of_other hc (by rw [cu]; decide)
      rw [echoOf, if_neg hc, f.payload_length, empty]
      rfl
  rw [UrbFrame.bytes_length, UrbFrame.bytes_length]
  exact congrArg (payloadOffset + ·) sizes

/-- The server takes the requests and writes their echoes. -/
theorem serve_handles :
    Program.Handles urbCode UrbFrame.Request UrbFrame.header (fun f => f.echo.bytes)
      serveUrbEcho where
  takes f s rest request able stream := by
    obtain ⟨reply, frame, _, exchanges⟩ := exists_echo f request.command
    have same : f.echo = reply := UrbFrame.eq_of_frame frame.symm
    have writable : s.Writable := able.resolve_left (urbCode.nonempty f.echo)
    rw [same]
    exact exchanges.run writable stream
  fails s none := by
    apply serveUrbEcho_refused
    intro h p decoded served
    obtain ⟨f, rest, header, _, stream⟩ := exists_urbFrame decoded served.plain
    refine none f ?_ ⟨rest, stream.symm⟩
    rw [UrbFrame.Request, header]
    exact served

/-- A connection as the server of the interop tests handles it: it accepts the import,
replies, and serves up to `n` requests, as long as that succeeds. -/
def hostDevice (reply : OpRepImport) (n : Nat) :
    Program (AcceptError ⊕ ProtocolError)
      (OpReqImport × List UsbipHeader × Option ProtocolError) := do
  let req ← (acceptDevice (.ok ())).mapErr .inl
  (sendOpRepImport reply).mapErr .inr
  let (served, ended) ← serveUrbEcho.rounds n
  return (req, served, ended)

theorem hostDevice_refused {reply : OpRepImport} {n : Nat} {s t : Socket} {e : AcceptError}
    (refused : (acceptDevice (.ok ())).run s = (.err e, t)) :
    (hostDevice reply n).run s = (.err (.inl e), t) := by
  have first := Program.run_mapErr (Sum.inl : _ → AcceptError ⊕ ProtocolError)
    (acceptDevice (.ok ())) s
  rw [refused] at first
  exact Program.run_bind_err first

theorem hostDevice_accepted {reply : OpRepImport} {n : Nat} {s t u : Socket} {req : OpReqImport}
    {served : List UsbipHeader} {ended : Option ProtocolError} (writable : t.Writable)
    (accepted : (acceptDevice (.ok ())).run s = (.ok req, t))
    (serves : (serveUrbEcho.rounds n : Program (AcceptError ⊕ ProtocolError) _).run
      { t with outgoing := t.outgoing ++ (repItems reply).flatten } = (.ok (served, ended), u)) :
    (hostDevice reply n).run s = (.ok (req, served, ended), u) := by
  have first := Program.run_mapErr (Sum.inl : _ → AcceptError ⊕ ProtocolError)
    (acceptDevice (.ok ())) s
  rw [accepted] at first
  have second := @Program.Exchanges.run _ _ _ _ _ _ (sendOpRepImport_exchanges reply) t t.incoming
    writable rfl
  have third := Program.run_mapErr (Sum.inr : _ → AcceptError ⊕ ProtocolError)
    (sendOpRepImport reply) t
  rw [second] at third
  rw [hostDevice, Program.run_bind_ok first, Program.run_bind_ok third]
  exact Program.run_bind_ok serves

theorem acceptDevice_short {s : Socket} (short : s.incoming.length < opReqImportSize) :
    (acceptDevice (.ok ())).run s =
      (.err (.acceptFailed "read OP_REQ_IMPORT: early eof"), { s with incoming := [] }) := by
  have read := Program.run_mapErr (fun e => AcceptError.acceptFailed ("read OP_REQ_IMPORT: " ++ e))
    (Program.read opReqImportSize) s
  rw [Program.run_read_of_lt short] at read
  exact Program.run_bind_err read

theorem flatMap_echo_length {requests : List UrbFrame} (kind : ∀ f ∈ requests, f.Request) :
    (requests.flatMap fun f => f.echo.bytes).length = (requests.flatMap UrbFrame.bytes).length := by
  induction requests with
  | nil => rfl
  | cons f requests ih =>
    obtain ⟨here, later⟩ := List.forall_mem_cons.mp kind
    rw [List.flatMap_cons, List.flatMap_cons, List.length_append, List.length_append,
      here.echo_length, ih later]

/-- The requests served on a stream, and what was written for them. -/
theorem serves_cuts {ε : Type} {s : Socket} (writable : s.Writable) {requests : List UrbFrame}
    {rest : List UInt8} (cuts : urbCode.Cuts UrbFrame.Request s.incoming requests rest) (n : Nat) :
    ∃ ended t, (serveUrbEcho.rounds n : Program ε _).run s =
        (.ok ((requests.take n).map UrbFrame.header, ended), t) ∧
      (ended = none ↔ n ≤ requests.length) ∧
      t.outgoing = s.outgoing ++ (requests.take n).flatMap fun f => f.echo.bytes := by
  have able : ∀ f ∈ requests, f.echo.bytes = [] ∨ s.Writable := fun _ _ => Or.inr writable
  by_cases few : n ≤ requests.length
  · obtain ⟨t, ran, wrote⟩ := serve_handles.rounds_within able cuts few
    exact ⟨none, t, ran, ⟨fun _ => few, fun _ => rfl⟩, wrote⟩
  · obtain ⟨e, t, _, ran, wrote⟩ := serve_handles.rounds_beyond able cuts (Nat.lt_of_not_le few)
    have all : requests.take n = requests := List.take_of_length_le (by omega)
    refine ⟨some e, t, ?_, ⟨fun none => ?_, fun within => absurd within few⟩, ?_⟩
    · rw [all]
      exact ran
    · cases none
    · rw [all]
      exact wrote

/-- What the server does with the bytes of a client: it writes nothing before it has
an import request that it accepts, and then its reply and the echoes of the requests
that lead the rest, in their order and no longer than they were. -/
structure Hosts (reply : OpRepImport) (s : Socket) : Prop where
  short : s.incoming.length < opReqImportSize → ∀ n, (hostDevice reply n).run s =
    (.err (.inl (.acceptFailed "read OP_REQ_IMPORT: early eof")), { s with incoming := [] })
  refused : ∀ req stream e, s.incoming = (reqItems req).flatten ++ stream →
    req.refusal = some e → ∀ n,
      (hostDevice reply n).run s = (.err (.inl e), { s with incoming := stream })
  served : ∀ req stream, s.incoming = (reqItems req).flatten ++ stream → req.refusal = none →
    ∃ requests rest, urbCode.Cuts UrbFrame.Request stream requests rest ∧ ∀ n, ∃ ended t,
      (hostDevice reply n).run s = (.ok (req, (requests.take n).map UrbFrame.header, ended), t) ∧
      (ended = none ↔ n ≤ requests.length) ∧
      t.outgoing = s.outgoing ++ (repItems reply).flatten ++
        (requests.take n).flatMap (fun f => f.echo.bytes) ∧
      t.outgoing.length ≤ s.outgoing.length + opRepImportSize + stream.length

theorem flatMap_take_length {requests : List UrbFrame} {stream rest : List UInt8}
    (cuts : urbCode.Cuts UrbFrame.Request stream requests rest) (n : Nat) :
    ((requests.take n).flatMap fun f => f.echo.bytes).length ≤ stream.length := by
  have kind : ∀ f ∈ requests.take n, f.Request :=
    fun f mem => cuts.taken f (List.mem_of_mem_take mem)
  have parts : (requests.take n).flatMap UrbFrame.bytes ++
      ((requests.drop n).flatMap UrbFrame.bytes ++ rest) = stream := by
    rw [← List.append_assoc, ← List.flatMap_append, List.take_append_drop]
    exact cuts.split.symm
  have used := congrArg List.length parts
  rw [List.length_append] at used
  rw [flatMap_echo_length kind]
  omega

/-- This is so for every stream of bytes. -/
theorem hostDevice_hosts (reply : OpRepImport) (s : Socket) (writable : s.Writable) :
    Hosts reply s where
  short few n := hostDevice_refused (acceptDevice_short few)
  refused req stream e image refused n := by
    have refuses := (acceptDevice_refuses refused).run writable image
    rw [List.append_nil] at refuses
    exact hostDevice_refused refuses
  served req stream image accepted := by
    have accepts := (acceptDevice_accepts accepted).run writable image
    rw [List.append_nil] at accepts
    obtain ⟨requests, rest, cuts⟩ := urbCode.exists_cuts UrbFrame.Request stream
    refine ⟨requests, rest, cuts, fun n => ?_⟩
    let taken : Socket := { s with incoming := stream }
    let replied : Socket := { taken with outgoing := s.outgoing ++ (repItems reply).flatten }
    obtain ⟨ended, t, ran, all, wrote⟩ := @serves_cuts _ replied writable requests rest cuts n
    have hosted := @hostDevice_accepted reply n s taken t req _ ended writable accepts ran
    refine ⟨ended, t, hosted, all, wrote, ?_⟩
    have echoed := flatMap_take_length cuts n
    rw [wrote, List.length_append, List.length_append, repItems_length]
    omega

/-- An import and an unlink request right behind it. -/
theorem hostDevice_hosts_unlink :
    Hosts makeOpRepImportOk
      ⟨importRequest "1-1.2.3" 65539 ++ unlinkRequest.wire, [], false, none⟩ :=
  hostDevice_hosts _ _ ⟨rfl, rfl⟩

section

variable {requests : List UrbFrame} (kind : ∀ f ∈ requests, f.Request) (n m k calls : Nat)
variable {server client : Socket} (writable : server.Writable) (fresh : server.outgoing = [])
variable (arrived : server.incoming = (requests.flatMap UrbFrame.bytes).take n)

include kind writable fresh arrived

end

end EasyUsb
