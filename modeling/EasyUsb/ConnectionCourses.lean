import EasyUsb.StreamTranscript
import EasyUsb.Foundation.NarrowNetwork

namespace EasyUsb

open Foundation

/-- The moves of a client that makes these calls, when the frames it takes and the
frames it sends have these sizes. -/
def callMoves : List Call → List Nat → List Nat → List Move
  | [], _, _ => []
  | call :: calls, replies, requests =>
    if call.receives then
      List.replicate (replies.headD 0) .read ++ callMoves calls replies.tail requests
    else
      List.replicate (requests.headD 0) .write ++ callMoves calls replies requests.tail

/-- The moves of a server that echoes requests of these sizes. -/
def echoMoves (sizes : List Nat) : List Move :=
  sizes.flatMap fun size => List.replicate size .read ++ List.replicate size .write

theorem fed_of_receives {call : Call} {calls : List Call} {pending : Nat}
    (receives : call.receives = true) (fed : Fed pending (call :: calls)) :
    ∃ left, pending = left + 1 ∧ Fed left calls := by
  cases call with
  | sendHeader header payload => cases receives
  | _ =>
    cases pending with
    | zero => cases fed
    | succ left => exact ⟨left, rfl, fed⟩

theorem requestsFrom_of_receives {call : Call} (receives : call.receives = true) (n : Nat)
    (calls : List Call) : requestsFrom n (call :: calls) = requestsFrom n calls := by
  cases call with
  | sendHeader header payload => cases receives
  | _ => rfl

section Courses

variable (busid : String) (devid : UInt32) (reply : OpRepImport)

theorem exists_serve_turns {f : UrbFrame} (request : f.Request) :
    ∃ waiting, serveUrbEcho.Exchanges f.bytes [] waiting ∧
      waiting.Exchanges [] f.echo.bytes (.done f.header) := by
  obtain ⟨echo, same, _, whole⟩ := exists_echo f request.command
  have same : echo = f.echo := UrbFrame.eq_of_frame same
  rw [same] at whole
  have reads : ∃ waiting, serveUrbEcho.Exchanges f.bytes [] waiting := by
    rw [serveUrbEcho_eq]
    exact ⟨_, (serve_reads f request.command).bind _⟩
  obtain ⟨waiting, reads⟩ := reads
  rw [← List.append_nil f.bytes] at whole
  exact ⟨waiting, reads, reads.afterReads rfl whole⟩

/-- The server takes the requests one after the other and echoes each. -/
theorem exists_server_course {requests : List UrbFrame} (kind : ∀ f ∈ requests, f.Request)
    (log : List (Outcome (AcceptError ⊕ ProtocolError) ServerResult)) :
    ∃ n log', Follows serverTask (serverAt busid devid reply log') n
      (serverAt busid devid reply log) [] (requests.flatMap UrbFrame.bytes)
      (requests.flatMap fun f => f.echo.bytes)
      (echoMoves (requests.map fun f => f.bytes.length)) := by
  induction requests generalizing log with
  | nil => exact ⟨0, log, .rest rfl (Or.inl rfl)⟩
  | cons f requests ih =>
    obtain ⟨here, later⟩ := List.forall_mem_cons.mp kind
    obtain ⟨waiting, reads, writes⟩ := exists_serve_turns here
    obtain ⟨n, log', onward⟩ := ih later (log ++ [.ok (.served f.header)])
    have served := @Follows.done _ _ _ serverTask _ (serverAt busid devid reply log).memory _ _ _ _
      (.served f.header) (.begin rfl onward)
    have answers := (writes.mapErr (Sum.inr : _ → AcceptError ⊕ ProtocolError)).bind
      fun header => (.done (.served header) : Program _ ServerResult)
    have takes := (reads.mapErr (Sum.inr : _ → AcceptError ⊕ ProtocolError)).bind
      fun header => (.done (.served header) : Program _ ServerResult)
    obtain ⟨_, wrote⟩ := exists_follows_writes answers rfl served
    obtain ⟨m, course⟩ := exists_follows_reads takes rfl wrote
    refine ⟨m, log', ?_⟩
    have size := here.echo_length
    rw [size] at course
    rw [List.flatMap_cons, List.flatMap_cons, List.map_cons, echoMoves, List.flatMap_cons,
      List.append_assoc]
    exact course

section

variable {final : Party Client HandshakeError ClientResult} {n sent : Nat} {calls : List Call}
variable {log : List (Outcome HandshakeError ClientResult)} {ins outs : List UInt8}
variable {moves : List Move}

/-- The course of a client that begins with a send. -/
theorem exists_sends_course {header : UsbipHeader} {payload : Option (List UInt8)}
    {bytes : List UInt8}
    (encoded : encodeHeader ((sessionAt busid devid reply sent).stamp header) payload = .ok bytes)
    (onward : Follows clientTask final n
      ⟨clientAt busid devid reply (sent + 1) calls
        (log ++ [.ok (.called (.ok none) (sessionAt busid devid reply (sent + 1)))]), none⟩ []
      ins outs moves) :
    ∃ m, Follows clientTask final m
      ⟨clientAt busid devid reply sent (.sendHeader header payload :: calls) log, none⟩ []
      ins (bytes ++ outs) (List.replicate bytes.length .write ++ moves) := by
  have sends := @sendHeader_exchanges HandshakeError (sessionAt busid devid reply sent) header
    payload bytes rfl encoded
  rw [sessionAt_succ] at sends
  have whole := @Program.Exchanges.bind_done _ _ ClientResult _ _ _ _ sends
    (fun called => .done (.called called.1 called.2)) _ rfl
  have called := @Follows.done _ _ _ clientTask _
    (clientAt busid devid reply sent (.sendHeader header payload :: calls) log) _ _ _ _
    (.called (.ok none) (sessionAt busid devid reply (sent + 1))) onward
  obtain ⟨m, course⟩ := exists_follows_writes whole rfl called
  exact ⟨m + 1, .begin rfl course⟩

/-- The course of a client that begins with taking a frame. -/
theorem exists_takes_course {call : Call} {frame : UrbFrame} (receives : call.receives = true)
    (clear : frame.Clear)
    (onward : Follows clientTask final n
      ⟨clientAt busid devid reply sent calls
        (log ++ [.ok (.called (.ok (some frame.frame)) (sessionAt busid devid reply sent))]),
        none⟩ [] ins outs moves) :
    ∃ m, Follows clientTask final m
      ⟨clientAt busid devid reply sent (call :: calls) log, none⟩ []
      (frame.bytes ++ ins) outs (List.replicate frame.bytes.length .read ++ moves) := by
  have gets := @recvHeader_exchanges HandshakeError (sessionAt busid devid reply sent) call frame
    rfl receives clear
  have whole := @Program.Exchanges.bind_done _ _ ClientResult _ _ _ _ gets
    (fun called => .done (.called called.1 called.2)) _ rfl
  have called := @Follows.done _ _ _ clientTask _
    (clientAt busid devid reply sent (call :: calls) log) _ _ _ _
    (.called (.ok (some frame.frame)) (sessionAt busid devid reply sent)) onward
  obtain ⟨m, course⟩ := exists_follows_reads whole rfl called
  exact ⟨m + 1, .begin rfl course⟩

end

/-- The client makes its calls one after the other, as long as it never asks for more
replies than it has sent requests. -/
theorem exists_client_course {calls : List Call} {pending requests : List UrbFrame} {sent : Nat}
    (valid : ∀ call ∈ calls, call.Valid) (fed : Fed pending.length calls)
    (clear : ∀ f ∈ pending, f.Clear)
    (frames : requests.map UrbFrame.frame = requestsFrom sent calls)
    (kind : ∀ f ∈ requests, f.Request)
    (log : List (Outcome HandshakeError ClientResult)) :
    ∃ n sent' log', (receivedFrames log').length =
        (receivedFrames log).length + calls.countP Call.receives ∧
      Follows clientTask ⟨clientAt busid devid reply sent' [] log', none⟩ n
        ⟨clientAt busid devid reply sent calls log, none⟩ []
        ((pending ++ requests.map UrbFrame.echo).flatMap UrbFrame.bytes)
        (requests.flatMap UrbFrame.bytes)
        (callMoves calls ((pending ++ requests.map UrbFrame.echo).map fun f => f.bytes.length)
          (requests.map fun f => f.bytes.length)) := by
  induction calls generalizing pending requests sent log with
  | nil =>
    cases List.map_eq_nil_iff.mp frames
    exact ⟨0, sent, log, rfl, .rest rfl (Or.inr rfl)⟩
  | cons call calls ih =>
    obtain ⟨here, later⟩ := List.forall_mem_cons.mp valid
    let session := sessionAt busid devid reply
    by_cases receives : call.receives = true
    · obtain ⟨left, waiting, fed⟩ := fed_of_receives receives fed
      rcases pending with _ | ⟨frame, pending⟩
      · cases waiting
      cases Nat.succ.inj waiting
      obtain ⟨ready, behind⟩ := List.forall_mem_cons.mp clear
      rw [requestsFrom_of_receives receives] at frames
      obtain ⟨n, sent', log', taken, onward⟩ := ih later fed behind frames kind
        (log ++ [.ok (.called (.ok (some frame.frame)) (session sent))])
      obtain ⟨m, course⟩ := exists_takes_course busid devid reply receives ready onward
      refine ⟨m, sent', log', ?_, ?_⟩
      · rw [taken, receivedFrames_called, List.countP_cons_of_pos receives, List.length_append]
        exact Nat.add_right_comm _ _ _
      · rw [callMoves, if_pos receives]
        exact course
    · cases call with
      | sendHeader header payload =>
        rcases requests with _ | ⟨request, requests⟩
        · cases frames
        obtain ⟨known, others⟩ := List.forall_mem_cons.mp kind
        obtain ⟨first, frames⟩ := List.cons.inj frames
        obtain ⟨request', image, encoded⟩ := exists_requestFrame here (UInt32.ofNat sent)
        cases UrbFrame.eq_of_frame (first.trans image.symm)
        have stamped : (session sent).stamp header = request.header :=
          (congrArg Prod.fst image).symm
        have queued : ∀ f ∈ pending ++ [request.echo], f.Clear :=
          List.forall_mem_append.mpr ⟨clear, List.forall_mem_singleton.mpr request.echo_clear⟩
        have fed : Fed (pending ++ [request.echo]).length calls := by
          rw [List.length_append]
          exact fed
        obtain ⟨n, sent', log', taken, onward⟩ := ih later fed queued frames others
          (log ++ [.ok (.called (.ok none) (session (sent + 1)))])
        obtain ⟨m, course⟩ := @exists_sends_course busid devid reply _ n sent calls log _ _ _
          header payload request.bytes (by rw [stamped, encoded]) onward
        refine ⟨m, sent', log', ?_, ?_⟩
        · rw [taken, receivedFrames_called, List.countP_cons_of_neg receives,
            Option.toList_none, List.append_nil]
        · rw [List.append_assoc] at course
          exact course
      | recvHeader => exact absurd rfl receives
      | recvHeaderOrClose => exact absurd rfl receives

/-- The requests of valid calls as they go out. -/
theorem exists_requests {calls : List Call} (valid : ∀ call ∈ calls, call.Valid) (n : Nat) :
    ∃ requests : List UrbFrame, requests.map UrbFrame.frame = requestsFrom n calls ∧
      ∀ f ∈ requests, f.Request := by
  induction calls generalizing n with
  | nil => exact ⟨[], rfl, List.forall_mem_nil _⟩
  | cons call calls ih =>
    obtain ⟨here, later⟩ := List.forall_mem_cons.mp valid
    cases call with
    | sendHeader header payload =>
      have here : ValidRequest header payload := here
      obtain ⟨request, image, _⟩ := exists_requestFrame here (UInt32.ofNat n)
      obtain ⟨requests, frames, kind⟩ := ih later (n + 1)
      have served : request.Request := by
        have stamped := congrArg Prod.fst image
        rw [UrbFrame.Request, show request.header = _ from stamped]
        exact here.command.imp (fun hc => ⟨hc, here.packets hc⟩) id
      exact ⟨request :: requests, by rw [List.map_cons, image, frames]; rfl,
        List.forall_mem_cons.mpr ⟨served, kind⟩⟩
    | recvHeader => exact ih later n
    | recvHeaderOrClose => exact ih later n

/-- The bytes of a frame. -/
def frameSize (frame : Frame) : Nat := payloadOffset + (frame.2.getD []).length

/-- The sizes of the requests among some calls, and of their echoes. -/
def requestSizes (calls : List Call) : List Nat := (requestsFrom 0 calls).map frameSize

theorem requestSizes_eq {calls : List Call} {requests : List UrbFrame}
    (frames : requests.map UrbFrame.frame = requestsFrom 0 calls) :
    (requests.map fun f => f.bytes.length) = requestSizes calls := by
  rw [requestSizes, ← frames, List.map_map]
  exact List.map_congr_left fun f _ => f.bytes_length

theorem echoSizes_eq {calls : List Call} {requests : List UrbFrame}
    (frames : requests.map UrbFrame.frame = requestsFrom 0 calls)
    (kind : ∀ f ∈ requests, f.Request) :
    ((requests.map UrbFrame.echo).map fun f => f.bytes.length) = requestSizes calls := by
  rw [← requestSizes_eq frames, List.map_map]
  exact List.map_congr_left fun f mem => (kind f mem).echo_length

def clientMoves (calls : List Call) : List Move :=
  List.replicate opReqImportSize .write ++ (List.replicate opRepImportSize .read ++
    callMoves calls (requestSizes calls) (requestSizes calls))

def serverMoves (calls : List Call) : List Move :=
  List.replicate opReqImportSize .read ++ (List.replicate opRepImportSize .write ++
    echoMoves (requestSizes calls))

theorem exists_client_start {calls : List Call} {requests : List UrbFrame}
    (accepted : reply.Accepted) (valid : ∀ call ∈ calls, call.Valid) (fed : Fed 0 calls)
    (frames : requests.map UrbFrame.frame = requestsFrom 0 calls)
    (kind : ∀ f ∈ requests, f.Request) :
    ∃ n sent' log', (receivedFrames log').length = calls.countP Call.receives ∧
      Follows clientTask ⟨clientAt busid devid reply sent' [] log', none⟩ n
        ⟨⟨busid, devid, none, calls, []⟩, none⟩ []
        ((repItems reply).flatten ++ (requests.map UrbFrame.echo).flatMap UrbFrame.bytes)
        ((reqItems (makeImportRequest busid devid)).flatten ++ requests.flatMap UrbFrame.bytes)
        (clientMoves calls) := by
  obtain ⟨n, sent', log', taken, calling⟩ := @exists_client_course busid devid reply calls []
    requests 0 valid fed (List.forall_mem_nil _) frames kind []
  rw [List.nil_append, echoSizes_eq frames kind, requestSizes_eq frames] at calling
  let client : Client := ⟨busid, devid, none, calls, []⟩
  have connected := @Follows.done _ _ _ clientTask _ client _ _ _ _ (.connected reply) calling
  obtain ⟨waiting, asks, answered⟩ := doHandshake_exchanges (makeImportRequest busid devid)
  have request := asks.bind fun reply => (.done (.connected reply) : Program _ ClientResult)
  have response := (answered reply accepted).bind
    fun reply => (.done (.connected reply) : Program _ ClientResult)
  obtain ⟨_, reads⟩ := exists_follows_reads response rfl connected
  obtain ⟨m, course⟩ := exists_follows_writes request rfl reads
  rw [reqItems_length, repItems_length] at course
  exact ⟨m + 1, sent', log', by rw [taken]; exact Nat.zero_add _, .begin rfl course⟩

theorem exists_server_start {calls : List Call} {requests : List UrbFrame}
    (importable : ImportableBusid busid)
    (frames : requests.map UrbFrame.frame = requestsFrom 0 calls)
    (kind : ∀ f ∈ requests, f.Request) :
    ∃ n log', Follows serverTask (serverAt busid devid reply log') n ⟨⟨reply, []⟩, none⟩ []
      ((reqItems (makeImportRequest busid devid)).flatten ++ requests.flatMap UrbFrame.bytes)
      ((repItems reply).flatten ++ (requests.map UrbFrame.echo).flatMap UrbFrame.bytes)
      (serverMoves calls) := by
  obtain ⟨n, log', serving⟩ := exists_server_course busid devid reply kind []
  rw [requestSizes_eq frames] at serving
  have request := (acceptDevice_exchanges devid importable).mapErr
    (Sum.inl : _ → AcceptError ⊕ ProtocolError)
  have response := (sendOpRepImport_exchanges reply).mapErr
    (Sum.inr : _ → AcceptError ⊕ ProtocolError)
  have takes := @Program.Exchanges.bind_done _ _ ServerResult _ _ _ _ request
    (fun req => .done (.accepted req)) _ rfl
  have replies := @Program.Exchanges.bind_done _ _ ServerResult _ _ _ _ response
    (fun _ => .done .replied) _ rfl
  have replied := @Follows.done _ _ _ serverTask _
    ⟨reply, [.ok (.accepted (makeImportRequest busid devid))]⟩ _ _ _ _ .replied (.begin rfl serving)
  obtain ⟨_, writes⟩ := exists_follows_writes replies rfl replied
  have accepted := @Follows.done _ _ _ serverTask _ ⟨reply, []⟩ _ _ _ _
    (.accepted (makeImportRequest busid devid)) (.begin rfl writes)
  obtain ⟨m, course⟩ := exists_follows_reads takes rfl accepted
  rw [reqItems_length, repItems_length] at course
  refine ⟨m + 1, log', ?_⟩
  rw [List.flatMap_map]
  exact .begin rfl course

/-- What a connection comes to where each direction holds only so many bytes. -/
theorem exists_carries {calls : List Call} (importable : ImportableBusid busid)
    (accepted : reply.Accepted) (valid : ∀ call ∈ calls, call.Valid) (fed : Fed 0 calls) :
    ∃ work sent' log' serverLog, (receivedFrames log').length = calls.countP Call.receives ∧
      Network.Carries clientTask serverTask ⟨clientAt busid devid reply sent' [] log', none⟩
        (serverAt busid devid reply serverLog) work (Connection.start busid devid reply calls)
        ⟨clientMoves calls, serverMoves calls, 0, 0⟩ := by
  obtain ⟨requests, frames, kind⟩ := exists_requests valid 0
  obtain ⟨_, sent', log', taken, client⟩ :=
    exists_client_start busid devid reply accepted valid fed frames kind
  obtain ⟨_, serverLog, server⟩ :=
    exists_server_start busid devid reply importable frames kind
  exact ⟨_, sent', log', serverLog, taken, .mk client server⟩

end Courses

end EasyUsb
