import EasyUsb.ImportCodec
import EasyUsb.Foundation.Exchange

namespace EasyUsb

open Foundation

/-- The errors of one handshake. -/
inductive HandshakeError where
  | connectionFailed (text : String)
  | serverRejected (status : UInt32)
  | invalidReply (text : String)
  deriving DecidableEq, Repr

/-- `{:08x}`. -/
def hex8 (x : UInt32) : String :=
  let digits := Nat.toDigits 16 x.toNat
  String.ofList (List.replicate (8 - digits.length) '0' ++ digits)

/-- `to_string()` of a protocol error. -/
def ProtocolError.text : ProtocolError → String
  | .incompleteBuffer needed available =>
    "incomplete buffer: need " ++ toString needed ++ " bytes, have " ++ toString available
  | .invalidCommand command => "invalid command: 0x" ++ hex8 command
  | .invalidDeviceSpeed value => "invalid device speed: " ++ toString value
  | .bufferTooLarge size max =>
    "buffer too large: " ++ toString size ++ " bytes exceeds maximum " ++ toString max
  | .isochronousNotSupported => "isochronous transfers not supported in v1"
  | .encodingError text => "encoding error: " ++ text
  | .ioError text => "I/O error: " ++ text

/-- The bytes of a field of `n` bytes that starts with `bytes` and is zero after it. -/
def zeroPadded (n : Nat) (bytes : List UInt8) : Vector UInt8 n :=
  ⟨((bytes.take n) ++ List.replicate (n - bytes.length) 0).toArray, by simp; omega⟩

def importPath : String := "/sys/devices/pci0000:00"

/-- `as_bytes()`. -/
def strBytes (s : String) : List UInt8 := s.toByteArray.data.toList

/-- The request keeps the first 32 bytes of a longer busid; the devid is unused. -/
def makeImportRequest (busid : String) (_devid : UInt32) : OpReqImport where
  status := Constants.usbipVersion.toUInt32
  path := zeroPadded 256 (strBytes importPath)
  busid := zeroPadded 32 (strBytes busid)

/-- One handshake, on the stream `TcpStream::connect` gave or refused with an error. -/
def doHandshake (connected : Except String Unit) (req : OpReqImport) :
    Program HandshakeError OpRepImport := do
  match connected with
  | .error e => .fail (.connectionFailed e)
  | .ok () =>
    let reqBytes ← Program.ofOutcome
      ((encodeOpReqImport req).mapErr fun e => .invalidReply e.text)
    (Program.write reqBytes).mapErr .connectionFailed
    let repBuf ← (Program.read opRepImportSize).mapErr .connectionFailed
    let reply ← Program.ofOutcome
      ((decodeOpRepImport repBuf).mapErr fun e => .invalidReply e.text)
    if reply.status ≠ 0 then .fail (.serverRejected reply.status)
    else if reply.busnum = 0 ∨ reply.devnum = 0 then
      .fail (.invalidReply
        ("busnum=" ++ toString reply.busnum ++ " devnum=" ++ toString reply.devnum))
    else return reply

def maxRetries : Nat := 3

/-- What an attempt at a handshake meets: its time runs out, or it has the stream
that `TcpStream::connect` gave or refused with an error. -/
inductive Attempt where
  | timedOut
  | made (connected : Except String Unit) (stream : Socket)

/-- The errors of `import_device`: those of a handshake that is not retried, and
the one it ends with when all attempts fail. -/
inductive ImportError where
  | handshake (error : HandshakeError)
  | maxRetriesExceeded (count : Nat)
  deriving DecidableEq

/-- The retry loop, over the attempts that are left. -/
def tryImport (req : OpReqImport) : List Attempt → Outcome ImportError (OpRepImport × Socket)
  | [] => .err (.maxRetriesExceeded maxRetries)
  | .timedOut :: attempts => tryImport req attempts
  | .made connected stream :: attempts =>
    match (doHandshake connected req).run stream with
    | (.ok reply, stream) => .ok (reply, stream)
    | (.err (.connectionFailed _), _) => tryImport req attempts
    | (.err e, _) => .err (.handshake e)
    | (.panic, _) => .panic

def importDevice (busid : String) (devid : UInt32) (attempts : Vector Attempt maxRetries) :
    Outcome ImportError (OpRepImport × Socket) :=
  if busid = "" then .err (.handshake (.invalidReply "empty busid"))
  else tryImport (makeImportRequest busid devid) attempts.toList

structure OpRepImport.Accepted (rep : OpRepImport) : Prop where
  status : rep.status = 0
  busnum : rep.busnum ≠ 0
  devnum : rep.devnum ≠ 0

theorem doHandshake_exchanges (req : OpReqImport) :
    ∃ waiting, (doHandshake (.ok ()) req).Exchanges [] (reqItems req).flatten waiting ∧
      ∀ rep : OpRepImport, rep.Accepted →
        waiting.Exchanges (repItems rep).flatten [] (.done rep) := by
  have asked := (Program.Exchanges.write (reqItems req).flatten).mapErr
    HandshakeError.connectionFailed
  refine ⟨_, asked.bind _, fun rep accepted => ?_⟩
  have decoded : decodeOpRepImport (repItems rep).flatten = .ok rep := by
    simpa using decodeOpRepImport_items rep []
  have answered := (Program.Exchanges.read (repItems_length rep)).mapErr
    HandshakeError.connectionFailed
  refine answered.bind_done ?_
  rw [decoded]
  show (if rep.status ≠ 0 then _ else _ : Program HandshakeError OpRepImport) = _
  rw [if_neg (not_not.mpr accepted.status), if_neg (not_or.mpr ⟨accepted.busnum, accepted.devnum⟩)]
  rfl

/-- What a handshake does once its request is written. -/
def awaitReply : Program HandshakeError OpRepImport := do
  let repBuf ← (Program.read opRepImportSize).mapErr .connectionFailed
  let reply ← Program.ofOutcome
    ((decodeOpRepImport repBuf).mapErr fun e => .invalidReply e.text)
  if reply.status ≠ 0 then .fail (.serverRejected reply.status)
  else if reply.busnum = 0 ∨ reply.devnum = 0 then
    .fail (.invalidReply
      ("busnum=" ++ toString reply.busnum ++ " devnum=" ++ toString reply.devnum))
  else return reply

theorem run_doHandshake_of_write {req : OpReqImport} {s mid : Socket}
    (written : s.write (reqItems req).flatten = (.ok (), mid)) :
    (doHandshake (.ok ()) req).run s = awaitReply.run mid := by
  have asked : ((Program.write (reqItems req).flatten).mapErr
      HandshakeError.connectionFailed).run s = (.ok (), mid) := by
    rw [Program.run_mapErr, Program.run_write_ok written]
    rfl
  show ((Program.write (reqItems req).flatten).mapErr _ >>= fun _ => awaitReply).run s = _
  exact Program.run_bind_ok asked

/-- Nothing is written while the reply is awaited. -/
theorem awaitReply_outgoing (s : Socket) : (awaitReply.run s).2.outgoing = s.outgoing := by
  have kept := Program.run_read_outgoing opRepImportSize s
  rw [awaitReply, Program.run_bind, Program.run_mapErr]
  rcases got : (Program.read opRepImportSize).run s with ⟨repBuf | e | _, mid⟩ <;> rw [got] at kept
  · show (Program.run (Program.ofOutcome _ >>= _) mid).2.outgoing = _
    rw [Program.run_bind, Program.run_ofOutcome]
    rcases decodeOpRepImport repBuf with reply | e | _
    · show (Program.run (if _ then _ else if _ then _ else _) mid).2.outgoing = _
      split_ifs
      · exact kept
      · exact kept
      · exact kept
    · exact kept
    · exact kept
  · exact kept
  · exact kept

theorem doHandshake_outgoing (req : OpReqImport) {s : Socket} (writable : s.Writable) :
    ((doHandshake (.ok ()) req).run s).2.outgoing = s.outgoing ++ (reqItems req).flatten := by
  rw [run_doHandshake_of_write (writable.write _), awaitReply_outgoing]

/-- A handshake that succeeds has written its whole request. -/
theorem outgoing_of_doHandshake {connected : Except String Unit} {req : OpReqImport}
    {s s' : Socket} {reply : OpRepImport}
    (done : (doHandshake connected req).run s = (.ok reply, s')) :
    s'.outgoing = s.outgoing ++ (reqItems req).flatten := by
  cases connected with
  | error e => cases done
  | ok =>
    rcases written : s.write (reqItems req).flatten with ⟨result, mid⟩
    cases result with
    | error e =>
      have failed : (doHandshake (.ok ()) req).run s = (.err (.connectionFailed e), mid) := by
        show ((Program.write (reqItems req).flatten).mapErr _ >>= fun _ => awaitReply).run s = _
        apply Program.run_bind_err
        rw [Program.run_mapErr, Program.run_write_error written]
        rfl
      cases failed.symm.trans done
    | ok =>
      have kept := awaitReply_outgoing mid
      rw [← run_doHandshake_of_write written, done] at kept
      rw [← Socket.outgoing_of_write written]
      exact kept

/-- Whichever attempt succeeds, the request has gone out on its stream. -/
theorem outgoing_of_tryImport {req : OpReqImport} {attempts : List Attempt}
    {reply : OpRepImport} {stream : Socket}
    (imported : tryImport req attempts = .ok (reply, stream)) :
    ∃ connected before, Attempt.made connected before ∈ attempts ∧
      stream.outgoing = before.outgoing ++ (reqItems req).flatten := by
  induction attempts with
  | nil => cases imported
  | cons attempt attempts ih =>
    have later : tryImport req attempts = .ok (reply, stream) →
        ∃ connected before, Attempt.made connected before ∈ attempt :: attempts ∧
          stream.outgoing = before.outgoing ++ (reqItems req).flatten := by
      intro imported
      obtain ⟨connected, before, mem, sent⟩ := ih imported
      exact ⟨connected, before, List.mem_cons_of_mem _ mem, sent⟩
    cases attempt with
    | timedOut => exact later imported
    | made connected before =>
      rcases done : (doHandshake connected req).run before with ⟨result, after⟩
      rw [tryImport, done] at imported
      cases result with
      | ok reply' =>
        cases imported
        exact ⟨connected, before, List.mem_cons_self, outgoing_of_doHandshake done⟩
      | err e =>
        cases e with
        | connectionFailed text => exact later imported
        | serverRejected status => cases imported
        | invalidReply text => cases imported
      | panic => cases imported

end EasyUsb
