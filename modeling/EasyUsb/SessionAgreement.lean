import EasyUsb.RequestReply

namespace EasyUsb

open Foundation

def serveJob : Program (AcceptError ⊕ ProtocolError) ServerResult := do
  let header ← serveUrbEcho.mapErr Sum.inr
  return .served header

/-- A point between two calls at which all requests have been answered. The logs
are those since the handshake, and the client has the pending replies still to take. -/
structure Milestone (all : List Call) where
  sent : Nat
  pending : List UrbFrame
  calls : List Call
  clientLog : List (Outcome HandshakeError ClientResult)
  serverLog : List (Outcome (AcceptError ⊕ ProtocolError) ServerResult)
  valid : ∀ call ∈ calls, call.Valid
  clear : ∀ frame ∈ pending, frame.header.u.word3 = 0
  client : ∀ result ∈ clientLog, ClientSucceeded result
  server : ∀ result ∈ serverLog, ServerSucceeded result
  replies : receivedFrames clientLog ++
      (pending.map UrbFrame.frame ++ (requestsFrom sent calls).map echoOf) =
    (requestsFrom 0 all).map echoOf
  taken : (receivedFrames clientLog).length + calls.countP Call.receives =
    all.countP Call.receives

def Milestone.first {calls : List Call} (valid : ∀ call ∈ calls, call.Valid) :
    Milestone calls where
  sent := 0
  pending := []
  calls := calls
  clientLog := []
  serverLog := []
  valid := valid
  clear := List.forall_mem_nil _
  client := List.forall_mem_nil _
  server := List.forall_mem_nil _
  replies := rfl
  taken := Nat.zero_add _

theorem receivedFrames_called (log : List (Outcome HandshakeError ClientResult))
    (answer : Option Frame) (session : TcpSession) :
    receivedFrames (log ++ [.ok (.called (.ok answer) session)]) =
      receivedFrames log ++ answer.toList := by
  rw [receivedFrames, List.filterMap_append]
  cases answer <;> rfl

section Handshaken

variable (busid : String) (devid : UInt32) (reply : OpRepImport) {all : List Call}

def sessionAt (n : Nat) : TcpSession :=
  { TcpSession.new busid devid reply with nextSeqnum := UInt32.ofNat n }

def clientAt (n : Nat) (calls : List Call) (log : List (Outcome HandshakeError ClientResult)) :
    Client :=
  ⟨busid, devid, some (sessionAt busid devid reply n), calls, .ok (.connected reply) :: log⟩

/-- The server waiting for a request, and what it has logged since the handshake. -/
def serverAt (log : List (Outcome (AcceptError ⊕ ProtocolError) ServerResult)) :
    Party Server (AcceptError ⊕ ProtocolError) ServerResult :=
  ⟨⟨reply, .ok (.accepted (makeImportRequest busid devid)) :: .ok .replied :: log⟩, some serveJob⟩

def Milestone.state (m : Milestone all) : Connection :=
  ⟨⟨clientAt busid devid reply m.sent m.calls m.clientLog, none⟩,
    serverAt busid devid reply m.serverLog,
    ⟨[], (m.pending.map UrbFrame.bytes).flatten⟩, ⟨[], []⟩⟩

theorem sessionAt_succ (n : Nat) :
    { sessionAt busid devid reply n with
      nextSeqnum := (sessionAt busid devid reply n).nextSeqnum + 1 } =
      sessionAt busid devid reply (n + 1) := by
  simp [sessionAt]

theorem leads_serve {request echo : UrbFrame}
    (served : serveUrbEcho.Exchanges request.bytes echo.bytes (.done request.header))
    (log : List (Outcome (AcceptError ⊕ ProtocolError) ServerResult))
    (other : Party Client HandshakeError ClientResult) (arrived : List UInt8) :
    Network.Leads serverTask clientTask
      ⟨serverAt busid devid reply log, other, ⟨[], request.bytes⟩, ⟨[], arrived⟩⟩
      ⟨serverAt busid devid reply (log ++ [.ok (.served request.header)]), other, ⟨[], []⟩,
        ⟨echo.bytes, arrived⟩⟩ := by
  have whole : serveJob.Exchanges request.bytes echo.bytes (.done (.served request.header)) :=
    (served.mapErr Sum.inr).bind_done rfl
  have turn := @Network.leads_exchange _ _ _ _ _ _ serverTask clientTask
    (serverAt busid devid reply log).memory _ _ _ _ whole other [] [] [] arrived
  rw [List.append_nil, List.nil_append] at turn
  exact turn.trans ((Network.leads_done _ _ _ _ _).trans (Network.leads_begin rfl _ _ _))

/-- The client makes a call for which everything it reads has arrived. -/
theorem leads_call {n n' : Nat} {call : Call} {answer : Option Frame} {ins outs : List UInt8}
    (exchange : ((sessionAt busid devid reply n).call call :
      Program HandshakeError _).Exchanges ins outs
        (.done (.ok answer, sessionAt busid devid reply n')))
    (calls : List Call) (log : List (Outcome HandshakeError ClientResult))
    (other : Party Server (AcceptError ⊕ ProtocolError) ServerResult) (rest : List UInt8) :
    Network.Leads clientTask serverTask
      ⟨⟨clientAt busid devid reply n (call :: calls) log, none⟩, other, ⟨[], ins ++ rest⟩, ⟨[], []⟩⟩
      ⟨⟨clientAt busid devid reply n' calls
          (log ++ [.ok (.called (.ok answer) (sessionAt busid devid reply n'))]), none⟩, other,
        ⟨[], rest⟩, ⟨outs, []⟩⟩ := by
  have whole := @Program.Exchanges.bind_done _ _ ClientResult _ _ _ _ exchange
    (fun called => .done (.called called.1 called.2)) _ rfl
  exact @Network.leads_job _ _ _ _ _ _ clientTask serverTask
    (clientAt busid devid reply n (call :: calls) log) _ _ _ _ rfl whole other [] rest [] []

/-- A request goes out and is served, and the reply queues up behind those already there. -/
theorem leads_answered {n : Nat} {header : UsbipHeader} {payload : Option (List UInt8)}
    {request echo : UrbFrame}
    (sends : ((sessionAt busid devid reply n).call (.sendHeader header payload) :
      Program HandshakeError _).Exchanges [] request.bytes
        (.done (.ok none, sessionAt busid devid reply (n + 1))))
    (served : serveUrbEcho.Exchanges request.bytes echo.bytes (.done request.header))
    (calls : List Call) (clientLog : List (Outcome HandshakeError ClientResult))
    (serverLog : List (Outcome (AcceptError ⊕ ProtocolError) ServerResult))
    (waiting : List UInt8) :
    Network.Leads clientTask serverTask
      ⟨⟨clientAt busid devid reply n (.sendHeader header payload :: calls) clientLog, none⟩,
        serverAt busid devid reply serverLog, ⟨[], waiting⟩, ⟨[], []⟩⟩
      ⟨⟨clientAt busid devid reply (n + 1) calls
          (clientLog ++ [.ok (.called (.ok none) (sessionAt busid devid reply (n + 1)))]), none⟩,
        serverAt busid devid reply (serverLog ++ [.ok (.served request.header)]),
        ⟨[], waiting ++ echo.bytes⟩, ⟨[], []⟩⟩ := by
  let asked : Party Client HandshakeError ClientResult :=
    ⟨clientAt busid devid reply (n + 1) calls
      (clientLog ++ [.ok (.called (.ok none) (sessionAt busid devid reply (n + 1)))]), none⟩
  have asks := leads_call busid devid reply sends calls clientLog
    (serverAt busid devid reply serverLog) waiting
  have arrives := @Network.leads_arrive _ _ _ _ _ _ serverTask clientTask
    (serverAt busid devid reply serverLog) asked request.bytes [] ⟨[], waiting⟩
  have serves := leads_serve busid devid reply served serverLog asked waiting
  have returns := @Network.leads_arrive _ _ _ _ _ _ clientTask serverTask asked
    (serverAt busid devid reply (serverLog ++ [.ok (.served request.header)])) echo.bytes waiting
    ⟨[], []⟩
  exact asks.trans (arrives.swap.trans (serves.swap.trans returns))

theorem Milestone.send (m : Milestone all) {header : UsbipHeader} {payload : Option (List UInt8)}
    {calls : List Call} (next : m.calls = .sendHeader header payload :: calls) :
    ∃ m' : Milestone all, m'.calls = calls ∧ m'.pending.length = m.pending.length + 1 ∧
      Network.Leads clientTask serverTask (m.state busid devid reply)
        (m'.state busid devid reply) := by
  obtain ⟨sent, pending, _, clientLog, serverLog, valid, clear, client, server, replies, taken⟩ := m
  subst next
  obtain ⟨request, image, encoded⟩ :=
    exists_requestFrame (valid _ List.mem_cons_self) (UInt32.ofNat sent)
  have known : request.frame.1.base.command = Constants.cmdSubmit ∨
      request.frame.1.base.command = Constants.cmdUnlink := by
    rw [image]
    exact (valid _ List.mem_cons_self : ValidRequest header payload).command
  obtain ⟨echo, echoes, echoClear, served⟩ := exists_echo request known
  have stamped : (sessionAt busid devid reply sent).stamp header = request.header :=
    (congrArg Prod.fst image).symm
  have sends := @sendHeader_exchanges HandshakeError (sessionAt busid devid reply sent) header
    payload request.bytes rfl (by rw [stamped, encoded])
  rw [sessionAt_succ] at sends
  let result : ClientResult := .called (.ok none) (sessionAt busid devid reply (sent + 1))
  have succeeded : ClientSucceeded (.ok result) := trivial
  let m' : Milestone all := {
    sent := sent + 1
    pending := pending ++ [echo]
    calls := calls
    clientLog := clientLog ++ [.ok result]
    serverLog := serverLog ++ [.ok (.served request.header)]
    valid := fun call mem => valid call (List.mem_cons_of_mem _ mem)
    clear := List.forall_mem_append.mpr ⟨clear, List.forall_mem_singleton.mpr echoClear⟩
    client := List.forall_mem_append.mpr ⟨client, List.forall_mem_singleton.mpr succeeded⟩
    server := List.forall_mem_append.mpr ⟨server, List.forall_mem_singleton.mpr ⟨_, rfl⟩⟩
    replies := by
      rw [receivedFrames_called, ← replies, requestsFrom, ← image, List.map_append]
      simp [echoes]
    taken := by
      rw [receivedFrames_called, ← taken]
      simp [Call.receives] }
  refine ⟨m', rfl, List.length_append, ?_⟩
  have joined : (pending.map UrbFrame.bytes).flatten ++ echo.bytes =
      ((pending ++ [echo]).map UrbFrame.bytes).flatten := by
    simp
  have leads := leads_answered busid devid reply sends served calls clientLog serverLog
    (pending.map UrbFrame.bytes).flatten
  rw [joined] at leads
  exact leads

theorem Milestone.receive (m : Milestone all) {call : Call} {calls : List Call} {frame : UrbFrame}
    {pending : List UrbFrame} (next : m.calls = call :: calls) (receives : call.receives = true)
    (ready : m.pending = frame :: pending) :
    ∃ m' : Milestone all, m'.calls = calls ∧ m'.pending = pending ∧
      Network.Leads clientTask serverTask (m.state busid devid reply)
        (m'.state busid devid reply) := by
  obtain ⟨sent, _, _, clientLog, serverLog, valid, clear, client, server, replies, taken⟩ := m
  subst next ready
  have gets := @recvHeader_exchanges HandshakeError (sessionAt busid devid reply sent) call frame rfl
    receives (clear frame List.mem_cons_self)
  let result : ClientResult := .called (.ok (some frame.frame)) (sessionAt busid devid reply sent)
  have succeeded : ClientSucceeded (.ok result) := trivial
  have silent : requestsFrom sent (call :: calls) = requestsFrom sent calls := by
    cases call with
    | sendHeader header payload => cases receives
    | recvHeader => rfl
    | recvHeaderOrClose => rfl
  let m' : Milestone all := {
    sent := sent
    pending := pending
    calls := calls
    clientLog := clientLog ++ [.ok result]
    serverLog := serverLog
    valid := fun call mem => valid call (List.mem_cons_of_mem _ mem)
    clear := fun frame mem => clear frame (List.mem_cons_of_mem _ mem)
    client := List.forall_mem_append.mpr ⟨client, List.forall_mem_singleton.mpr succeeded⟩
    server := server
    replies := by
      rw [receivedFrames_called, ← replies, silent]
      simp
    taken := by
      rw [receivedFrames_called, ← taken, List.countP_cons_of_pos receives, List.length_append]
      simp only [Option.toList_some, List.length_singleton]
      omega }
  exact ⟨m', rfl, rfl, leads_call busid devid reply gets calls clientLog
    (serverAt busid devid reply serverLog) (pending.map UrbFrame.bytes).flatten⟩

/-- Without a pending reply, a call that takes one waits for ever. -/
theorem Milestone.block (m : Milestone all) {call : Call} {calls : List Call}
    (next : m.calls = call :: calls) (receives : call.receives = true) (waiting : m.pending = []) :
    ∃ final : Connection,
      Network.Leads clientTask serverTask (m.state busid devid reply) final ∧
      Network.Quiet clientTask serverTask final ∧
      final.near.memory = (m.state busid devid reply).near.memory ∧
      final.far.memory = (m.state busid devid reply).far.memory := by
  obtain ⟨sent, _, _, clientLog, serverLog⟩ := m
  subst next waiting
  cases call with
  | sendHeader header payload => cases receives
  | recvHeader => exact ⟨_, Network.leads_begin rfl _ _ _, ⟨rfl, rfl, rfl, rfl⟩, rfl, rfl⟩
  | recvHeaderOrClose => exact ⟨_, Network.leads_begin rfl _ _ _, ⟨rfl, rfl, rfl, rfl⟩, rfl, rfl⟩

/-- From a milestone on, the connection comes to rest at a milestone, where the
client has made all its calls unless it waits for a reply to a request it has not sent. -/
theorem Milestone.finish (m : Milestone all) :
    ∃ (last : Milestone all) (final : Connection),
      Network.Leads clientTask serverTask (m.state busid devid reply) final ∧
      Network.Quiet clientTask serverTask final ∧
      final.near.memory = (last.state busid devid reply).near.memory ∧
      final.far.memory = (last.state busid devid reply).far.memory ∧
      (Fed m.pending.length m.calls → last.calls = []) := by
  induction next : m.calls generalizing m with
  | nil =>
    have quiet : Network.Quiet clientTask serverTask (m.state busid devid reply) := by
      refine ⟨?_, rfl, rfl, rfl⟩
      rw [Milestone.state, next]
      rfl
    exact ⟨m, _, .refl _, quiet, rfl, rfl, fun _ => next⟩
  | cons call calls ih =>
    by_cases receives : call.receives = true
    · cases waiting : m.pending with
      | nil =>
        obtain ⟨final, leads, quiet, near, far⟩ := m.block busid devid reply next receives waiting
        refine ⟨m, final, leads, quiet, near, far, fun enough => ?_⟩
        cases call with
        | sendHeader header payload => cases receives
        | recvHeader => cases enough
        | recvHeaderOrClose => cases enough
      | cons frame pending =>
        obtain ⟨m', rest, left, leads⟩ := m.receive busid devid reply next receives waiting
        obtain ⟨last, final, onward, quiet, near, far, fed⟩ := ih m' rest
        refine ⟨last, final, leads.trans onward, quiet, near, far, fun enough => fed ?_⟩
        rw [left]
        cases call with
        | sendHeader header payload => cases receives
        | recvHeader => exact enough
        | recvHeaderOrClose => exact enough
    · cases call with
      | sendHeader header payload =>
        obtain ⟨m', rest, more, leads⟩ := m.send busid devid reply next
        obtain ⟨last, final, onward, quiet, near, far, fed⟩ := ih m' rest
        refine ⟨last, final, leads.trans onward, quiet, near, far, fun enough => fed ?_⟩
        rw [more]
        exact enough
      | recvHeader => exact absurd rfl receives
      | recvHeaderOrClose => exact absurd rfl receives

theorem leads_accept (importable : ImportableBusid busid)
    (other : Party Client HandshakeError ClientResult) :
    Network.Leads serverTask clientTask
      ⟨⟨⟨reply, []⟩, none⟩, other,
        ⟨[], (reqItems (makeImportRequest busid devid)).flatten⟩, ⟨[], []⟩⟩
      ⟨serverAt busid devid reply [], other, ⟨[], []⟩, ⟨(repItems reply).flatten, []⟩⟩ := by
  have request := (acceptDevice_exchanges devid importable).mapErr
    (Sum.inl : _ → AcceptError ⊕ ProtocolError)
  have response := (sendOpRepImport_exchanges reply).mapErr
    (Sum.inr : _ → AcceptError ⊕ ProtocolError)
  have takes := @Program.Exchanges.bind_done _ _ ServerResult _ _ _ _ request
    (fun req => .done (.accepted req)) _ rfl
  have replies := @Program.Exchanges.bind_done _ _ ServerResult _ _ _ _ response
    (fun _ => .done .replied) _ rfl
  have accepts := @Network.leads_job _ _ _ _ _ _ serverTask clientTask ⟨reply, []⟩ _ _ _ _ rfl takes
    other [] [] [] []
  have answers := @Network.leads_job _ _ _ _ _ _ serverTask clientTask
    ⟨reply, [.ok (.accepted (makeImportRequest busid devid))]⟩ _ _ _ _ rfl replies other [] [] [] []
  rw [List.append_nil] at accepts
  exact accepts.trans (answers.trans (Network.leads_begin rfl _ _ _))

/-- The handshake leads to the first milestone. -/
theorem leads_milestone {calls : List Call} (importable : ImportableBusid busid)
    (accepted : reply.Accepted) (valid : ∀ call ∈ calls, call.Valid) :
    Network.Leads clientTask serverTask (Connection.start busid devid reply calls)
      ((Milestone.first valid).state busid devid reply) := by
  obtain ⟨waiting, asks, answered⟩ := doHandshake_exchanges (makeImportRequest busid devid)
  have request := asks.bind fun reply => (.done (.connected reply) : Program _ ClientResult)
  have response := (answered reply accepted).bind
    fun reply => (.done (.connected reply) : Program _ ClientResult)
  let client : Client := ⟨busid, devid, none, calls, []⟩
  let asking : Party Client HandshakeError ClientResult :=
    ⟨client, some (waiting >>= fun reply => .done (.connected reply))⟩
  have starts := @Network.leads_begin _ _ _ _ _ _ clientTask serverTask client _ rfl
    ⟨⟨reply, []⟩, none⟩ ⟨[], []⟩ ⟨[], []⟩
  have sends := @Network.leads_exchange _ _ _ _ _ _ clientTask serverTask client _ _ _ _ request
    ⟨⟨reply, []⟩, none⟩ [] [] [] []
  have arrives := @Network.leads_arrive _ _ _ _ _ _ serverTask clientTask ⟨⟨reply, []⟩, none⟩
    asking (reqItems (makeImportRequest busid devid)).flatten [] ⟨[], []⟩
  have answers := leads_accept busid devid reply importable asking
  have returns := @Network.leads_arrive _ _ _ _ _ _ clientTask serverTask asking
    (serverAt busid devid reply []) (repItems reply).flatten [] ⟨[], []⟩
  have reads := @Network.leads_exchange _ _ _ _ _ _ clientTask serverTask client _ _ _ _ response
    (serverAt busid devid reply []) [] [] [] []
  have connects := @Network.leads_done _ _ _ _ _ _ clientTask serverTask client
    (.connected reply) (serverAt busid devid reply []) ⟨[], []⟩ ⟨[], []⟩
  rw [List.append_nil] at reads
  exact starts.trans (sends.trans (arrives.swap.trans (answers.swap.trans (returns.trans
    (reads.trans connects)))))

end Handshaken

theorem clientTask_notes (m : Client) (result : Outcome HandshakeError ClientResult) :
    m.log <+: (clientTask.record m result).log := by
  have noted : (clientTask.record m result).log = m.log ++ [result] := by
    rcases result with (_ | _) | _ | _ <;> rfl
  rw [noted]
  exact List.prefix_append _ _

theorem serverTask_notes (m : Server)
    (result : Outcome (AcceptError ⊕ ProtocolError) ServerResult) :
    m.log <+: (serverTask.record m result).log := List.prefix_append _ _

theorem logs_grow {w : Nat} {s t : Connection} (path : Path ConnectionStep w s t) :
    s.near.memory.log <+: t.near.memory.log ∧ s.far.memory.log <+: t.far.memory.log :=
  ⟨@Network.path_memory _ _ _ _ _ _ _ _ (fun m m' => m.log <+: m'.log)
      (fun _ => List.prefix_refl _) (fun _ _ _ => List.IsPrefix.trans) clientTask_notes _ _ _ path,
    @Network.path_memory _ _ _ _ _ _ _ _ (fun m m' => m.log <+: m'.log)
      (fun _ => List.prefix_refl _) (fun _ _ _ => List.IsPrefix.trans) serverTask_notes _ _ _
      (Network.path_swap path)⟩

/-- Logs only grow, so what later logs agree with earlier ones agreed with. -/
theorem Agrees.earlier {calls : List Call} {w : Nat} {s t : Connection}
    (path : Path ConnectionStep w s t) (agrees : Agrees calls t) : Agrees calls s := by
  obtain ⟨near, far⟩ := logs_grow path
  exact {
    client := fun result mem => agrees.client result (near.subset mem)
    server := fun result mem => agrees.server result (far.subset mem)
    replies := (near.filterMap _).trans agrees.replies }

theorem Milestone.agrees {busid : String} {devid : UInt32} {reply : OpRepImport}
    {all : List Call} (m : Milestone all) {s : Connection}
    (near : s.near.memory = (m.state busid devid reply).near.memory)
    (far : s.far.memory = (m.state busid devid reply).far.memory) : Agrees all s where
  client := by
    rw [near]
    exact List.forall_mem_cons.mpr ⟨trivial, m.client⟩
  server := by
    rw [far]
    exact List.forall_mem_cons.mpr ⟨⟨_, rfl⟩, List.forall_mem_cons.mpr ⟨⟨_, rfl⟩, m.server⟩⟩
  replies := by
    rw [near]
    exact ⟨_, m.replies⟩

/-- Whatever the order of steps and however the bytes are cut up, nothing fails, the
replies come in the order of the requests, and the connection comes to the same rest
after equally much work. There the client has all replies it asked for, provided it
never asked for more than it had sent requests. -/
theorem connection_agrees {busid : String} {devid : UInt32} {reply : OpRepImport}
    {calls : List Call} (importable : ImportableBusid busid) (accepted : reply.Accepted)
    (valid : ∀ call ∈ calls, call.Valid) :
    ∃ (total : Nat) (final : Connection), (∀ w t, ¬ConnectionStep w final t) ∧
      (Fed 0 calls → final.near.memory.calls = [] ∧
        (receivedFrames final.near.memory.log).length = calls.countP Call.receives) ∧
      ∀ w s, Path ConnectionStep w (Connection.start busid devid reply calls) s →
        Agrees calls s ∧ ∃ rest, Path ConnectionStep rest s final ∧ w + rest = total := by
  have starts := leads_milestone busid devid reply importable accepted valid
  obtain ⟨last, final, onward, quiet, near, far, fed⟩ :=
    (Milestone.first valid).finish busid devid reply
  obtain ⟨total, all_ways⟩ := (starts.trans onward).all quiet
  refine ⟨total, final, quiet.no_step, fun enough => ?_, fun w s path => ?_⟩
  · have finished := fed enough
    have taken := last.taken
    rw [finished, List.countP_nil, Nat.add_zero] at taken
    rw [near]
    exact ⟨finished, taken⟩
  · obtain ⟨rest, finish, sum⟩ := all_ways w s path
    exact ⟨(last.agrees near far).earlier finish, rest, finish, sum⟩

def makeOpRepImportOk : OpRepImport where
  status := 0
  path := Vector.replicate 256 0
  busid := zeroPadded 32 (strBytes "1-1.2.3")
  busnum := 1
  devnum := 3
  speed := 3
  idVendor := 0x1234
  idProduct := 0x5678
  bcdDevice := 0x0200
  bDeviceClass := 0x00
  bDeviceSubClass := 0x00
  bDeviceProtocol := 0x00
  bConfigurationValue := 1
  bNumConfigurations := 1
  bNumInterfaces := 2

/-- A transfer of two bytes and its cancellation, both sent before either reply is taken. -/
def pipelinedCalls : List Call :=
  [.sendHeader ⟨⟨Constants.cmdSubmit, 9, 65539, Constants.usbipDirOut, 2⟩,
      .ofCmdSubmit ⟨0, 2, 0, 0, 0, Vector.replicate 8 0⟩⟩ (some [7, 8]),
    .sendHeader ⟨⟨Constants.cmdUnlink, 9, 65539, Constants.usbipDirOut, 0⟩,
      .ofCmdUnlink ⟨0, Vector.replicate 6 0⟩⟩ none,
    .recvHeader, .recvHeaderOrClose]

/-- Both requests on one connection are answered, in order. -/
theorem pipelinedCalls_answered :
    ∃ (w : Nat) (final : Connection),
      Path ConnectionStep w
        (Connection.start "1-1.2.3" 65539 makeOpRepImportOk pipelinedCalls) final ∧
      (∀ w t, ¬ConnectionStep w final t) ∧
      receivedFrames final.near.memory.log = (requestsFrom 0 pipelinedCalls).map echoOf := by
  have importable : ImportableBusid "1-1.2.3" := ⟨by decide, by decide⟩
  have accepted : makeOpRepImportOk.Accepted := ⟨by decide, by decide, by decide⟩
  have valid : ∀ call ∈ pipelinedCalls, call.Valid := by
    refine List.forall_mem_cons.mpr ⟨?_, List.forall_mem_cons.mpr ⟨?_, ?_⟩⟩
    · exact ⟨Or.inl rfl, Or.inl rfl, fun _ => rfl, fun _ _ _ => ⟨[7, 8], rfl, by decide, by decide⟩⟩
    · have other : ¬Constants.cmdUnlink = Constants.cmdSubmit := by decide
      exact ⟨Or.inr rfl, Or.inl rfl, fun hc => absurd hc other, fun hc => absurd hc other⟩
    · exact List.forall_mem_cons.mpr ⟨trivial, List.forall_mem_singleton.mpr trivial⟩
  obtain ⟨total, final, quiet, fed, all_ways⟩ :=
    @connection_agrees "1-1.2.3" 65539 _ _ importable accepted valid
  obtain ⟨_, rest, path, _⟩ := all_ways 0 _ (.refl _)
  refine ⟨rest, final, path, quiet, ?_⟩
  have count : (receivedFrames final.near.memory.log).length = 2 := (fed trivial).2
  exact (all_ways rest final path).1.replies.eq_of_length count

end EasyUsb
