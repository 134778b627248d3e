import EasyUsb.Foundation.Network
import EasyUsb.Server

namespace EasyUsb

open Foundation

inductive ClientResult where
  | connected (reply : OpRepImport)
  | called (answer : Answer) (session : TcpSession)
  deriving DecidableEq

/-- The client's side: the device it asks for, its session once it has one, the
calls it still has to make, and how everything it did has ended. -/
structure Client where
  busid : String
  devid : UInt32
  session : Option TcpSession
  calls : List Call
  log : List (Outcome HandshakeError ClientResult)

def TcpSession.new (busid : String) (devid : UInt32) (reply : OpRepImport) : TcpSession where
  nextSeqnum := 0
  devid := devid
  busid := busid
  reply := reply
  closed := false

/-- `TcpSession::connect`, with what setting the keepalive gives. -/
def TcpSession.connect (busid : String) (devid : UInt32) (attempts : Vector Attempt maxRetries)
    (keepalive : Except String Unit) : Outcome ImportError (TcpSession × Socket) := do
  let (reply, stream) ← importDevice busid devid attempts
  match keepalive with
  | .error e => .err (.handshake (.connectionFailed ("keepalive setup: " ++ e)))
  | .ok () => return (.new busid devid reply, stream)

/-- The client runs its handshake and then makes its calls one after the other. -/
def clientTask : Task Client HandshakeError ClientResult where
  job client :=
    match client.log, client.session, client.calls with
    | [], _, _ => some do
      let reply ← doHandshake (.ok ()) (makeImportRequest client.busid client.devid)
      return .connected reply
    | _, some session, call :: _ => some do
      let (answer, session) ← session.call call
      return .called answer session
    | _, _, _ => none
  record client result :=
    let log := client.log ++ [result]
    match result with
    | .ok (.connected reply) =>
      { client with session := some (.new client.busid client.devid reply), log := log }
    | .ok (.called _ session) =>
      { client with session := some session, calls := client.calls.tail, log := log }
    | _ => { client with session := none, log := log }

inductive ServerResult where
  | accepted (req : OpReqImport)
  | replied
  | served (header : UsbipHeader)
  deriving DecidableEq

/-- The server's side: the reply it gives to an import request, and how everything
it did has ended. -/
structure Server where
  reply : OpRepImport
  log : List (Outcome (AcceptError ⊕ ProtocolError) ServerResult)

/-- The server accepts the request, replies to it, and then serves URBs for ever. -/
def serverTask : Task Server (AcceptError ⊕ ProtocolError) ServerResult where
  job server :=
    match server.log with
    | [] => some do
      let req ← (acceptDevice (.ok ())).mapErr Sum.inl
      return .accepted req
    | [.ok _] => some do
      (sendOpRepImport server.reply).mapErr Sum.inr
      return .replied
    | [_] => none
    | _ => some do
      let header ← serveUrbEcho.mapErr Sum.inr
      return .served header
  record server result := { server with log := server.log ++ [result] }

abbrev Connection :=
  Network Client HandshakeError ClientResult Server (AcceptError ⊕ ProtocolError) ServerResult

abbrev ConnectionStep : Nat → Connection → Connection → Prop := Network.Step clientTask serverTask

def Connection.start (busid : String) (devid : UInt32) (reply : OpRepImport) (calls : List Call) :
    Connection :=
  ⟨⟨⟨busid, devid, none, calls, []⟩, none⟩, ⟨⟨reply, []⟩, none⟩, ⟨[], []⟩, ⟨[], []⟩⟩

/-- What the client may send: a plain CMD_SUBMIT with the payload its header calls
for, or a CMD_UNLINK. -/
structure ValidRequest (header : UsbipHeader) (payload : Option (List UInt8)) : Prop where
  command : header.base.command = Constants.cmdSubmit ∨
    header.base.command = Constants.cmdUnlink
  direction : header.ValidDirection
  packets : header.base.command = Constants.cmdSubmit → header.u.cmdSubmit.numberOfPackets = 0
  payload : header.base.command = Constants.cmdSubmit →
    header.base.direction = Constants.usbipDirOut →
    0 < header.u.cmdSubmit.transferBufferLength →
    ∃ bytes, payload = some bytes ∧ bytes.length ≤ maxPayloadSize ∧
      (bytes.length : Int) = header.u.cmdSubmit.transferBufferLength.toInt

def Call.Valid : Call → Prop
  | .sendHeader header payload => ValidRequest header payload
  | _ => True

/-- The requests among some calls, numbered from `n` on as the session numbers them,
with the payload that goes with them. -/
def requestsFrom : Nat → List Call → List Frame
  | _, [] => []
  | n, .sendHeader header payload :: calls =>
    ({ header with base := { header.base with seqnum := UInt32.ofNat n } },
      if header.declaredLen = 0 then none else payload) :: requestsFrom (n + 1) calls
  | n, _ :: calls => requestsFrom n calls

/-- The reply to a request: for a CMD_SUBMIT a RET_SUBMIT with its payload, for a
CMD_UNLINK a RET_UNLINK, under the number, device and endpoint of the request. -/
def echoOf (request : Frame) : Frame :=
  let base := request.1.base
  if base.command = Constants.cmdSubmit then
    (⟨⟨Constants.retSubmit, base.seqnum, base.devid, Constants.usbipDirIn, base.ep⟩,
      .ofRetSubmit ⟨0, Int32.ofNat (request.2.getD []).length, 0, 0, 0,
        request.1.u.cmdSubmit.setup⟩⟩, request.2)
  else
    (⟨⟨Constants.retUnlink, base.seqnum, base.devid, base.direction, base.ep⟩,
      .ofRetUnlink ⟨0, Vector.replicate 6 0⟩⟩, none)

def receivedFrames (log : List (Outcome HandshakeError ClientResult)) : List Frame :=
  log.filterMap fun
    | .ok (.called (.ok (some frame)) _) => some frame
    | _ => none

def ClientSucceeded : Outcome HandshakeError ClientResult → Prop
  | .ok (.connected _) => True
  | .ok (.called (.ok _) _) => True
  | _ => False

def ServerSucceeded (result : Outcome (AcceptError ⊕ ProtocolError) ServerResult) : Prop :=
  ∃ value, result = .ok value

/-- No call asks for a reply before the request for it has been sent: `pending`
counts the requests sent and not yet answered to the client. -/
def Fed : Nat → List Call → Prop
  | _, [] => True
  | pending, .sendHeader _ _ :: calls => Fed (pending + 1) calls
  | 0, _ :: _ => False
  | pending + 1, _ :: calls => Fed pending calls

/-- The connection so far: nothing has failed, and the frames received are the
replies to the first requests, in order. -/
structure Agrees (calls : List Call) (s : Connection) : Prop where
  client : ∀ result ∈ s.near.memory.log, ClientSucceeded result
  server : ∀ result ∈ s.far.memory.log, ServerSucceeded result
  replies : receivedFrames s.near.memory.log <+: (requestsFrom 0 calls).map echoOf

end EasyUsb
