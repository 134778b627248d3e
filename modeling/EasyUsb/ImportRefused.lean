import EasyUsb.ImportAttempts

namespace EasyUsb

open Foundation

theorem doHandshake_asks (req : OpReqImport) :
    (doHandshake (.ok ()) req).Exchanges [] (reqItems req).flatten awaitReply := by
  have asked := (Program.Exchanges.write (reqItems req).flatten).mapErr
    HandshakeError.connectionFailed
  exact asked.bind_done rfl

theorem awaitReply_refuses {rep : OpRepImport} {e : HandshakeError}
    (refused : rep.refusal = some e) :
    awaitReply.Exchanges (repItems rep).flatten [] (.fail e) := by
  have decoded : decodeOpRepImport (repItems rep).flatten = .ok rep := by
    simpa using decodeOpRepImport_items rep []
  have answered := (Program.Exchanges.read (repItems_length rep)).mapErr
    HandshakeError.connectionFailed
  refine answered.bind_done ?_
  rw [decoded]
  show (if _ then _ else if _ then _ else _ : Program HandshakeError OpRepImport) = _
  rw [OpRepImport.refusal] at refused
  split_ifs at refused ⊢
  · cases refused
    rfl
  · cases refused
    rfl

section

variable (busid : String) (devid : UInt32) (reply : OpRepImport) (calls : List Call)

/-- However its steps are taken, the import comes to one end, after equally much work:
`import_device` with this result, and the two sides of the connections it has made with
these logs. There nothing is left unread and no call has been made; until then the
connections are some of these, as far as they have come, and nothing else is decided. -/
def ImportEnds (r : Outcome ImportError OpRepImport)
    (logs : List (List (Outcome HandshakeError ClientResult) ×
      List (Outcome (AcceptError ⊕ ProtocolError) ServerResult))) : Prop :=
  ∃ (total : Nat) (final : List Connection),
    (∀ w states, ¬ImportStep busid devid reply calls w final states) ∧
    final.map (fun s => (s.near.memory.log, s.far.memory.log)) = logs ∧
    (∀ s ∈ final, s.near.memory.calls = calls ∧ s.toNear = ⟨[], []⟩ ∧ s.toFar = ⟨[], []⟩) ∧
    importOver busid final = some r ∧
    (∃ attempts : Vector Attempt maxRetries,
      Front (CameTo (makeImportRequest busid devid)) final attempts.toList ∧
      Prod.fst <$> importDevice busid devid attempts = r) ∧
    ∀ w states, Path (ImportStep busid devid reply calls) w (importStart busid devid reply calls)
        states →
      Front Logged states final ∧ (∀ r', importOver busid states = some r' → r' = r) ∧
        ∃ rest, Path (ImportStep busid devid reply calls) rest states final ∧ w + rest = total

/-- One way to such an end is enough. -/
theorem importEnds_of_path {total : Nat} {final : List Connection}
    (attempts : Vector Attempt maxRetries)
    (way : Path (ImportStep busid devid reply calls) total (importStart busid devid reply calls)
      final)
    (stuck : ∀ w states, ¬ImportStep busid devid reply calls w final states)
    (clean : ∀ s ∈ final,
      s.near.memory.calls = calls ∧ s.toNear = ⟨[], []⟩ ∧ s.toFar = ⟨[], []⟩)
    {r : Outcome ImportError OpRepImport} (decided : importOver busid final = some r)
    (came : Front (CameTo (makeImportRequest busid devid)) final attempts.toList) :
    ImportEnds busid devid reply calls r
      (final.map fun s => (s.near.memory.log, s.far.memory.log)) := by
  refine ⟨total, final, stuck, rfl, clean, decided,
    ⟨attempts, came, importDevice_of_importOver came decided⟩, fun w states other => ?_⟩
  have balanced := @Series.balanced _ _ _ (Connection.start busid devid reply calls)
    Network.hangup_balanced retried_of_step (maxRetries - 1)
  obtain ⟨rest, finish, sum⟩ := balanced.descent stuck way other
  have front : Front Logged states final :=
    finish.keeps (P := Front Logged) (Front.refl Logged.refl)
      (fun _ _ _ => Front.trans Logged.trans) fun _ _ _ => Series.front Logged.refl logged_of_step
  refine ⟨front, fun r' early => ?_, rest, finish, sum⟩
  have late := importOver_front front early
  exact Option.some.inj (late.symm.trans decided)

/-- The client with its request out, waiting for the reply. -/
def askingAt : Party Client HandshakeError ClientResult :=
  ⟨⟨busid, devid, none, calls, []⟩, some do
    let reply ← awaitReply
    return .connected reply⟩

theorem leads_ask :
    Network.Leads clientTask serverGuest.toTask (Connection.start busid devid reply calls)
      ⟨askingAt busid devid calls, ⟨⟨reply, []⟩, none⟩, ⟨[], []⟩,
        ⟨[], (reqItems (makeImportRequest busid devid)).flatten⟩⟩ := by
  let client : Client := ⟨busid, devid, none, calls, []⟩
  have asks := (doHandshake_asks (makeImportRequest busid devid)).bind
    fun reply => (.done (.connected reply) : Program _ ClientResult)
  have starts := @Network.leads_begin _ _ _ _ _ _ clientTask serverGuest.toTask client _ rfl
    ⟨⟨reply, []⟩, none⟩ ⟨[], []⟩ ⟨[], []⟩
  have sends := @Network.leads_exchange _ _ _ _ _ _ clientTask serverGuest.toTask client _ _ _ _
    asks ⟨⟨reply, []⟩, none⟩ [] [] [] []
  have arrives := @Network.leads_arrive _ _ _ _ _ _ serverGuest.toTask clientTask
    ⟨⟨reply, []⟩, none⟩ (askingAt busid devid calls)
    (reqItems (makeImportRequest busid devid)).flatten [] ⟨[], []⟩
  exact starts.trans (sends.trans arrives.swap)

/-- A connection on which both sides have failed, and what they logged. -/
def failedAt (client : List (Outcome HandshakeError ClientResult))
    (server : List (Outcome (AcceptError ⊕ ProtocolError) ServerResult)) : Connection :=
  ⟨⟨⟨busid, devid, none, calls, client⟩, none⟩, ⟨⟨reply, server⟩, none⟩, ⟨[], []⟩, ⟨[], []⟩⟩

theorem failedAt_still {client : List (Outcome HandshakeError ClientResult)}
    {server : List (Outcome (AcceptError ⊕ ProtocolError) ServerResult)} (logged : client ≠ [])
    (stopped : server.any failed = true) (w : Nat) (t : Connection) :
    ¬AttemptStep w (failedAt busid devid reply calls client server) t := by
  have clientGone : (failedAt busid devid reply calls client server).near.Gone clientGuest :=
    ⟨rfl, logged, rfl⟩
  have serverGone : (failedAt busid devid reply calls client server).far.Gone serverGuest :=
    ⟨rfl, stopped⟩
  exact Network.no_step_of_gone clientGone serverGone rfl rfl w t

/-- The server refuses the request and drops the connection, at whose end the client
arrives while it waits for the reply. -/
theorem request_refused {e : AcceptError}
    (refused : (makeImportRequest busid devid).refusal = some e) :
    Network.Drops clientGuest serverGuest (Connection.start busid devid reply calls)
      (failedAt busid devid reply calls [.err (.connectionFailed "early eof")]
        [.err (.inl e)]) := by
  have request := (acceptDevice_refuses refused).mapErr (Sum.inl : _ → AcceptError ⊕ ProtocolError)
  have takes := request.bind fun req => (.done (.accepted req) : Program _ ServerResult)
  have begins := @Network.leads_begin _ _ _ _ _ _ serverGuest.toTask clientTask ⟨reply, []⟩ _ rfl
    (askingAt busid devid calls)
    ⟨[], (reqItems (makeImportRequest busid devid)).flatten⟩ ⟨[], []⟩
  have reads := @Network.leads_exchange _ _ _ _ _ _ serverGuest.toTask clientTask ⟨reply, []⟩
    _ _ _ _ takes (askingAt busid devid calls) [] [] [] []
  have fails := @Network.leads_fail _ _ _ _ _ _ serverGuest.toTask clientTask ⟨reply, []⟩
    (Sum.inl e) (askingAt busid devid calls) ⟨[], []⟩ ⟨[], []⟩
  rw [List.append_nil] at reads
  have refuses := begins.trans (reads.trans fails)
  have asked : Network.Drops clientGuest serverGuest _ _ :=
    ((leads_ask busid devid reply calls).trans refuses.swap).drops
  have gone : (⟨⟨reply, [.err (.inl e)]⟩, none⟩ :
      Party Server (AcceptError ⊕ ProtocolError) ServerResult).Gone serverGuest := ⟨rfl, rfl⟩
  exact asked.trans (Network.drops_fail gone (Nat.succ_pos _) rfl)

/-- The client refuses the reply and drops the connection, at whose end the server
arrives while it waits for something to serve. -/
theorem reply_refused (accepted : (makeImportRequest busid devid).refusal = none)
    {e : HandshakeError} (refused : reply.refusal = some e) :
    Network.Drops clientGuest serverGuest (Connection.start busid devid reply calls)
      (failedAt busid devid reply calls [.err e]
        [.ok (.accepted (makeImportRequest busid devid)), .ok .replied,
          .err (.inr (.ioError "early eof"))]) := by
  have request := (acceptDevice_accepts accepted).mapErr
    (Sum.inl : _ → AcceptError ⊕ ProtocolError)
  have response := (sendOpRepImport_exchanges reply).mapErr
    (Sum.inr : _ → AcceptError ⊕ ProtocolError)
  have takes := @Program.Exchanges.bind_done _ _ ServerResult _ _ _ _ request
    (fun req => .done (.accepted req)) _ rfl
  have replies := @Program.Exchanges.bind_done _ _ ServerResult _ _ _ _ response
    (fun _ => .done .replied) _ rfl
  have accepts := @Network.leads_job _ _ _ _ _ _ serverGuest.toTask clientTask ⟨reply, []⟩
    _ _ _ _ rfl takes (askingAt busid devid calls) [] [] [] []
  have answers := @Network.leads_job _ _ _ _ _ _ serverGuest.toTask clientTask
    ⟨reply, [.ok (.accepted (makeImportRequest busid devid))]⟩ _ _ _ _ rfl replies
    (askingAt busid devid calls) [] [] [] []
  have serves := @Network.leads_begin _ _ _ _ _ _ serverGuest.toTask clientTask
    ⟨reply, [.ok (.accepted (makeImportRequest busid devid)), .ok .replied]⟩ serveJob rfl
    (askingAt busid devid calls) ⟨[], []⟩ ⟨(repItems reply).flatten, []⟩
  rw [List.append_nil] at accepts
  have server := accepts.trans (answers.trans serves)
  have returns := @Network.leads_arrive _ _ _ _ _ _ clientTask serverGuest.toTask
    (askingAt busid devid calls) (serverAt busid devid reply [])
    (repItems reply).flatten [] ⟨[], []⟩
  have answer := (awaitReply_refuses refused).bind
    fun reply => (.done (.connected reply) : Program _ ClientResult)
  have reads := @Network.leads_exchange _ _ _ _ _ _ clientTask serverGuest.toTask
    ⟨busid, devid, none, calls, []⟩ _ _ _ _ answer (serverAt busid devid reply []) [] [] [] []
  have fails := @Network.leads_fail _ _ _ _ _ _ clientTask serverGuest.toTask
    ⟨busid, devid, none, calls, []⟩ e (serverAt busid devid reply []) ⟨[], []⟩ ⟨[], []⟩
  rw [List.append_nil] at reads
  have client := returns.trans (reads.trans fails)
  have refuses : Network.Drops clientGuest serverGuest _ _ :=
    ((leads_ask busid devid reply calls).trans (server.swap.trans client)).drops
  have gone : (⟨⟨busid, devid, none, calls, [.err e]⟩, none⟩ :
      Party Client HandshakeError ClientResult).Gone clientGuest :=
    ⟨rfl, List.cons_ne_nil _ _, rfl⟩
  have ends : Network.Drops serverGuest clientGuest
      ⟨serverAt busid devid reply [], ⟨⟨busid, devid, none, calls, [.err e]⟩, none⟩,
        ⟨[], []⟩, ⟨[], []⟩⟩
      (failedAt busid devid reply calls [.err e]
        [.ok (.accepted (makeImportRequest busid devid)), .ok .replied,
          .err (.inr (.ioError "early eof"))]).swap :=
    Network.drops_fail gone (Nat.succ_pos _) rfl
  exact refuses.trans ends.swap

theorem cameTo_dropped (req : OpReqImport)
    (server : List (Outcome (AcceptError ⊕ ProtocolError) ServerResult)) :
    CameTo req (failedAt busid devid reply calls [.err (.connectionFailed "early eof")] server)
      (.made (.ok ()) ⟨[], [], false, none⟩) := by
  have writable : Socket.Writable ⟨[], [], false, none⟩ := ⟨rfl, rfl⟩
  have asked := run_doHandshake_of_write (writable.write (reqItems req).flatten)
  have short := @awaitReply_short ⟨[], [] ++ (reqItems req).flatten, false, none⟩ (Nat.succ_pos _)
  have ran := asked.trans short
  refine ⟨_, _, rfl, ?_⟩
  rw [Program.run_bind_err ran]
  rfl

/-- No reply is worth another attempt. -/
theorem refusal_ne_connectionFailed {rep : OpRepImport} {e : HandshakeError}
    (refused : rep.refusal = some e) (text : String) : e ≠ .connectionFailed text := by
  rintro rfl
  rw [OpRepImport.refusal] at refused
  split_ifs at refused
  · cases refused
  · cases refused

theorem cameTo_refused (req : OpReqImport) {e : HandshakeError} (refused : reply.refusal = some e)
    (server : List (Outcome (AcceptError ⊕ ProtocolError) ServerResult)) :
    CameTo req (failedAt busid devid reply calls [.err e] server)
      (.made (.ok ()) ⟨(repItems reply).flatten, [], false, none⟩) := by
  have whole := ((doHandshake_asks req).trans (awaitReply_refuses refused)).run
    (s := ⟨(repItems reply).flatten, [], false, none⟩) ⟨rfl, rfl⟩ (List.append_nil _).symm
  refine ⟨_, _, rfl, ?_⟩
  rw [Program.run_bind_err whole]
  rfl

/-- A request that the server refuses is made on three connections and refused on each. -/
theorem importEnds_unasked {e : AcceptError} (named : busid ≠ "")
    (refused : (makeImportRequest busid devid).refusal = some e) :
    ImportEnds busid devid reply calls (.err (.maxRetriesExceeded maxRetries))
      (List.replicate maxRetries
        ([.err (.connectionFailed "early eof")], [.err (.inl e)])) := by
  let last := failedAt busid devid reply calls [.err (.connectionFailed "early eof")]
    [.err (.inl e)]
  obtain ⟨w, way⟩ := request_refused busid devid reply calls refused
  have again : Retried last := ⟨⟨rfl, List.cons_ne_nil _ _, rfl⟩, _, rfl⟩
  obtain ⟨total, path⟩ := Series.replicate way again (maxRetries - 1)
  have starts : importStart busid devid reply calls =
      [Connection.start busid devid reply calls] := if_neg named
  rw [← starts] at path
  have came := cameTo_dropped busid devid reply calls (makeImportRequest busid devid)
    [.err (.inl e)]
  refine importEnds_of_path busid devid reply calls ⟨#[_, _, _], rfl⟩ path
    (Series.no_step ?_ (Or.inl rfl)) ?_ (if_neg named)
    (.cons came (.cons came (.cons came (.nil _))))
  · intro s mem
    rw [List.eq_of_mem_replicate mem]
    exact failedAt_still busid devid reply calls (List.cons_ne_nil _ _) rfl
  · intro s mem
    rw [List.eq_of_mem_replicate mem]
    exact ⟨rfl, rfl, rfl⟩

/-- A reply that the client refuses decides the import on the first connection. -/
theorem importEnds_unanswered (named : busid ≠ "")
    (accepted : (makeImportRequest busid devid).refusal = none) {e : HandshakeError}
    (refused : reply.refusal = some e) :
    ImportEnds busid devid reply calls (.err (.handshake e))
      [([.err e], [.ok (.accepted (makeImportRequest busid devid)), .ok .replied,
        .err (.inr (.ioError "early eof"))])] := by
  obtain ⟨w, way⟩ := reply_refused busid devid reply calls accepted refused
  have path := @Series.path_here _ AttemptStep Retried (Connection.start busid devid reply calls)
    (maxRetries - 1) _ _ _ way []
  have starts : importStart busid devid reply calls =
      [Connection.start busid devid reply calls] := if_neg named
  rw [← starts] at path
  have came := cameTo_refused busid devid reply calls (makeImportRequest busid devid) refused
    [.ok (.accepted (makeImportRequest busid devid)), .ok .replied,
      .err (.inr (.ioError "early eof"))]
  refine importEnds_of_path busid devid reply calls ⟨#[_, .timedOut, .timedOut], rfl⟩ path
    (Series.no_step ?_ (Or.inr ?_)) ?_ ?_ (.cons came (.nil _))
  · rw [List.forall_mem_singleton]
    exact failedAt_still busid devid reply calls (List.cons_ne_nil _ _) rfl
  · rw [List.forall_mem_singleton]
    rintro ⟨_, text, logged⟩
    exact refusal_ne_connectionFailed refused text (Outcome.err.inj (List.cons.inj logged).1)
  · rw [List.forall_mem_singleton]
    exact ⟨rfl, rfl, rfl⟩
  · refine (if_neg named).trans ?_
    cases e with
    | connectionFailed text => exact absurd rfl (refusal_ne_connectionFailed refused text)
    | serverRejected status => rfl
    | invalidReply text => rfl

/-- An empty busid is refused before there is any connection. -/
theorem importEnds_unnamed (empty : busid = "") :
    ImportEnds busid devid reply calls (.err (.handshake (.invalidReply "empty busid"))) [] := by
  have starts : importStart busid devid reply calls = [] := if_pos empty
  have path : Path (ImportStep busid devid reply calls) 0 (importStart busid devid reply calls)
      [] := by
    rw [starts]
    exact .refl _
  exact importEnds_of_path busid devid reply calls (Vector.replicate maxRetries .timedOut) path
    (Series.no_step (List.forall_mem_nil _) (Or.inr (List.forall_mem_nil _)))
    (List.forall_mem_nil _) (if_pos empty) (.nil _)

end

/-- An import that is refused ends in one way, whatever the order of steps and however the
bytes are cut up: without a connection for an empty busid; with three connections and
`MaxRetriesExceeded` when the server refuses the request, as each time it drops the
connection and the client finds its end; and with the error of the reply when the client
refuses that, and with the server at the end of the connection that the client drops. -/
theorem refused_import_ends (busid : String) (devid : UInt32) (reply : OpRepImport)
    (calls : List Call) :
    (busid = "" →
      ImportEnds busid devid reply calls (.err (.handshake (.invalidReply "empty busid"))) []) ∧
    (busid ≠ "" → ∀ e, (makeImportRequest busid devid).refusal = some e →
      ImportEnds busid devid reply calls (.err (.maxRetriesExceeded maxRetries))
        (List.replicate maxRetries
          ([.err (.connectionFailed "early eof")], [.err (.inl e)]))) ∧
    (busid ≠ "" → (makeImportRequest busid devid).refusal = none → ∀ e, reply.refusal = some e →
      ImportEnds busid devid reply calls (.err (.handshake e))
        [([.err e], [.ok (.accepted (makeImportRequest busid devid)), .ok .replied,
          .err (.inr (.ioError "early eof"))])]) :=
  ⟨fun empty => importEnds_unnamed busid devid reply calls empty,
    fun named _ refused => importEnds_unasked busid devid reply calls named refused,
    fun named accepted _ refused =>
      importEnds_unanswered busid devid reply calls named accepted refused⟩

/-- No busid at all, one that is one NUL, and a device that is refused with a status. -/
theorem refused_import_ends_rejected :
    ImportEnds "" 2 makeOpRepImportOk pipelinedCalls
      (.err (.handshake (.invalidReply "empty busid"))) [] ∧
    ImportEnds "\x00" 1 makeOpRepImportOk [] (.err (.maxRetriesExceeded 3))
      (List.replicate 3 ([.err (.connectionFailed "early eof")],
        [.err (.inl (.invalidRequest "empty busid"))])) ∧
    ImportEnds "1-1.2.3" 3 { makeOpRepImportOk with status := 1 } pipelinedCalls
      (.err (.handshake (.serverRejected 1)))
      [([.err (.serverRejected 1)], [.ok (.accepted (makeImportRequest "1-1.2.3" 3)), .ok .replied,
        .err (.inr (.ioError "early eof"))])] := by
  have importable : ImportableBusid "1-1.2.3" := ⟨by decide, by decide⟩
  obtain ⟨unnamed, _, _⟩ := refused_import_ends "" 2 makeOpRepImportOk pipelinedCalls
  obtain ⟨_, unasked, _⟩ := refused_import_ends "\x00" 1 makeOpRepImportOk []
  obtain ⟨_, _, unanswered⟩ :=
    refused_import_ends "1-1.2.3" 3 { makeOpRepImportOk with status := 1 } pipelinedCalls
  exact ⟨unnamed rfl, unasked (by decide) _ (by decide),
    unanswered (by decide) (importable.refusal 3) _ (by decide)⟩

end EasyUsb
