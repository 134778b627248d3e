import EasyUsb.Foundation.Hangup
import EasyUsb.Foundation.Series
import EasyUsb.ImportRetries
import EasyUsb.SessionAgreement

namespace EasyUsb

open Foundation

def failed {ε α : Type} : Outcome ε α → Bool
  | .ok _ => false
  | _ => true

theorem clientTask_idle (client : Client) (left : client.log ≠ [] ∧ client.session = none) :
    clientTask.job client = none := by
  obtain ⟨busid, devid, session, calls, log⟩ := client
  obtain ⟨logged, sessionless⟩ := left
  cases sessionless
  cases log with
  | nil => exact absurd rfl logged
  | cons result log => rfl

/-- The client drops its stream when its handshake fails. -/
def clientGuest : Guest Client HandshakeError ClientResult where
  toTask := clientTask
  left client := client.log ≠ [] ∧ client.session = none
  idle := clientTask_idle

/-- The server gives a connection up at its first failure: `accept_device` drops the
stream of a request that it refuses, and nothing is served on it after an error. -/
def serverGuest : Guest Server (AcceptError ⊕ ProtocolError) ServerResult where
  job server := if server.log.any failed then none else serverTask.job server
  record := serverTask.record
  left server := server.log.any failed
  idle _ left := if_pos left

/-- The steps of one attempt's connection, on which both sides drop their ends. -/
abbrev AttemptStep : Nat → Connection → Connection → Prop :=
  Network.HangupStep clientGuest serverGuest

/-- `import_device` tries again: the handshake has failed with `ConnectionFailed`. -/
def Retried (s : Connection) : Prop :=
  s.near.Gone clientGuest ∧ ∃ text, s.near.memory.log = [.err (.connectionFailed text)]

/-- The loop of `import_device` over the connections it has made: what it comes to with
so many attempts, when the handshakes so far decide it. -/
def tryOver : Nat → List Connection → Option (Outcome ImportError OpRepImport)
  | 0, _ => some (.err (.maxRetriesExceeded maxRetries))
  | _ + 1, [] => none
  | n + 1, s :: later =>
    match s.near.memory.log with
    | .ok (.connected reply) :: _ => some (.ok reply)
    | .err (.connectionFailed _) :: _ => tryOver n later
    | .err e :: _ => some (.err (.handshake e))
    | .panic :: _ => some .panic
    | _ => none

def importOver (busid : String) (connections : List Connection) :
    Option (Outcome ImportError OpRepImport) :=
  if busid = "" then some (.err (.handshake (.invalidReply "empty busid")))
  else tryOver maxRetries connections

section

variable (busid : String) (devid : UInt32) (reply : OpRepImport) (calls : List Call)

/-- `import_device` makes one connection after the other, each to a server that starts
afresh. No attempt runs out of time here. -/
abbrev ImportStep : Nat → List Connection → List Connection → Prop :=
  Series AttemptStep Retried (Connection.start busid devid reply calls) (maxRetries - 1)

/-- It makes none for an empty busid. -/
def importStart : List Connection :=
  if busid = "" then [] else [Connection.start busid devid reply calls]

end

/-- The client's handshake over the connection came to what it comes to on the stream
of this attempt. -/
def CameTo (req : OpReqImport) (s : Connection) (attempt : Attempt) : Prop :=
  ∃ connected stream, attempt = .made connected stream ∧
    s.near.memory.log.head? =
      some ((do return .connected (← doHandshake connected req) :
        Program HandshakeError ClientResult).run stream).1

/-- Over connections that came to what its attempts come to, `import_device` decides as
it does over these. -/
theorem tryImport_of_tryOver {req : OpReqImport} {connections : List Connection}
    {attempts : List Attempt} (came : Front (CameTo req) connections attempts)
    {r : Outcome ImportError OpRepImport} (decided : tryOver attempts.length connections = some r) :
    Prod.fst <$> tryImport req attempts = r := by
  induction came with
  | nil later =>
    cases later with
    | nil => exact Option.some.inj decided
    | cons attempt later => cases decided
  | @cons s attempt connections attempts here rest ih =>
    obtain ⟨connected, stream, rfl, logged⟩ := here
    rw [Program.run_bind] at logged
    rcases ran : (doHandshake connected req).run stream with ⟨result, left⟩
    rw [ran] at logged
    rcases log : s.near.memory.log with _ | ⟨first, others⟩
    · rw [log] at logged
      cases logged
    rw [log] at logged
    rw [List.length_cons, tryOver, log] at decided
    rw [tryImport, ran]
    cases result with
    | ok reply =>
      cases logged
      exact Option.some.inj decided
    | err e =>
      cases logged
      cases e with
      | connectionFailed text => exact ih decided
      | serverRejected status => exact Option.some.inj decided
      | invalidReply text => exact Option.some.inj decided
    | panic =>
      cases logged
      exact Option.some.inj decided

theorem importDevice_of_importOver {busid : String} {devid : UInt32}
    {attempts : Vector Attempt maxRetries} {connections : List Connection}
    (came : Front (CameTo (makeImportRequest busid devid)) connections attempts.toList)
    {r : Outcome ImportError OpRepImport} (decided : importOver busid connections = some r) :
    Prod.fst <$> importDevice busid devid attempts = r := by
  unfold importOver at decided
  unfold importDevice
  by_cases empty : busid = ""
  · rw [if_pos empty] at decided ⊢
    exact Option.some.inj decided
  · rw [if_neg empty] at decided ⊢
    rw [← attempts.length_toList] at decided
    exact tryImport_of_tryOver came decided

/-- The logs of a connection and later ones of it. -/
def Logged (s t : Connection) : Prop :=
  s.near.memory.log <+: t.near.memory.log ∧ s.far.memory.log <+: t.far.memory.log

theorem Logged.refl (s : Connection) : Logged s s := ⟨List.prefix_refl _, List.prefix_refl _⟩

theorem Logged.trans (s t u : Connection) (first : Logged s t) (second : Logged t u) :
    Logged s u := ⟨first.1.trans second.1, first.2.trans second.2⟩

theorem logged_of_step (w : Nat) (s t : Connection) (step : AttemptStep w s t) : Logged s t :=
  ⟨@Network.hangup_memory _ _ _ _ _ _ _ _ (fun m m' => m.log <+: m'.log)
      (fun _ => List.prefix_refl _) clientTask_notes _ _ _ step,
    @Network.hangup_memory _ _ _ _ _ _ _ _ (fun m m' => m.log <+: m'.log)
      (fun _ => List.prefix_refl _) serverTask_notes _ _ _ step.swap⟩

theorem retried_of_step (w : Nat) (s t : Connection) (step : AttemptStep w s t)
    (retried : Retried s) : Retried t := by
  rw [Retried, Network.gone_stays step retried.1]
  exact retried

/-- What is decided stays decided. -/
theorem tryOver_front {connections later : List Connection} (front : Front Logged connections later)
    {n : Nat} {r : Outcome ImportError OpRepImport} (decided : tryOver n connections = some r) :
    tryOver n later = some r := by
  induction front generalizing n with
  | nil later =>
    cases n with
    | zero => exact decided
    | succ n => cases decided
  | @cons s t connections later here rest ih =>
    cases n with
    | zero => exact decided
    | succ n =>
      obtain ⟨more, grown⟩ := here.1
      rw [tryOver] at decided ⊢
      rcases log : s.near.memory.log with _ | ⟨first, others⟩
      · rw [log] at decided
        cases decided
      rw [← grown, log]
      rw [log] at decided
      rcases first with (_ | _) | (_ | _ | _) | _
      · exact decided
      · cases decided
      · exact ih decided
      · exact decided
      · exact decided
      · exact decided

theorem importOver_front {busid : String} {connections later : List Connection}
    (front : Front Logged connections later) {r : Outcome ImportError OpRepImport}
    (decided : importOver busid connections = some r) : importOver busid later = some r := by
  unfold importOver at decided ⊢
  by_cases empty : busid = ""
  · rw [if_pos empty] at decided ⊢
    exact decided
  · rw [if_neg empty] at decided ⊢
    exact tryOver_front front decided

end EasyUsb
