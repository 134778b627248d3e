import EasyUsb.Connection
import EasyUsb.RejectedFrames
import EasyUsb.SendSequence

namespace EasyUsb

open Foundation

/-- `core::str::from_utf8(&req.busid)` with the trailing NULs trimmed. -/
def OpReqImport.busidText (req : OpReqImport) : Option String :=
  (String.fromUTF8? ⟨req.busid.toArray⟩).map (trimEnd '\x00')

/-- The bytes `do_handshake` writes for a busid. -/
def importRequest (busid : String) (devid : UInt32) : List UInt8 :=
  (reqItems (makeImportRequest busid devid)).flatten

/-- A server that reads these bytes accepts them, takes no more, and sees the busid. -/
def AsksFor (bytes : List UInt8) (busid : String) : Prop :=
  ∀ (s : Socket) (rest : List UInt8), s.incoming = bytes ++ rest →
    ∃ req, (acceptDevice (.ok ())).run s = (.ok req, { s with incoming := rest }) ∧
      req.busidText = some busid

/-- A server that reads these bytes takes them for a busid that is not text. -/
def Garbled (bytes : List UInt8) : Prop :=
  ∀ (s : Socket) (rest : List UInt8), s.incoming = bytes ++ rest →
    ((acceptDevice (.ok ())).run s).1 = .err (.invalidRequest "non-UTF-8 busid")

/-- What `do_handshake` writes for a busid, whatever answers it. -/
def Requests (busid : String) (devid : UInt32) (P : List UInt8 → Prop) : Prop :=
  ∀ client : Socket, client.Writable → ∃ bytes, P bytes ∧
    ((doHandshake (.ok ()) (makeImportRequest busid devid)).run client).2.outgoing =
      client.outgoing ++ bytes

/-- The session after some calls, unless one of them panicked. -/
def Owned.performs (o : Owned) : List Call → Option Owned
  | [] => some o
  | call :: calls => (o.perform call).bind fun (_, o') => o'.performs calls

/-- Whatever the attempts meet, and whatever calls a session has made since, its
busid is the one a server was asked for. -/
def SessionNames (busid : String) (devid : UInt32) : Prop :=
  ∀ attempts keepalive session stream,
    TcpSession.connect busid devid attempts keepalive = .ok (session, stream) →
    ∃ connected before bytes, Attempt.made connected before ∈ attempts.toList ∧
      stream.outgoing = before.outgoing ++ bytes ∧
      ∀ calls o, Owned.performs ⟨session, stream⟩ calls = some o → AsksFor bytes o.session.busid

structure PlainBusid (busid : String) : Prop where
  nonempty : busid ≠ ""
  noNul : '\x00' ∉ busid.toList

theorem acceptDevice_run {req : OpReqImport} {s : Socket} {rest : List UInt8}
    (stream : s.incoming = (reqItems req).flatten ++ rest) :
    (acceptDevice (.ok ())).run s =
      if req.busid.toList.all fun b => b = 0 then
        (.err (.invalidRequest "empty busid"), { s with incoming := rest })
      else if ¬(ByteArray.mk req.busid.toArray).IsValidUTF8 then
        (.err (.invalidRequest "non-UTF-8 busid"), { s with incoming := rest })
      else (.ok req, { s with incoming := rest }) := by
  have size := reqItems_length req
  have enough : opReqImportSize ≤ s.incoming.length := by
    rw [stream, List.length_append, size]
    omega
  have read := Program.run_read_of_le enough
  rw [stream, List.take_left' size, List.drop_left' size] at read
  have decoded : decodeOpReqImport (reqItems req).flatten = .ok req := by
    simpa using decodeOpReqImport_items req []
  have first : ((Program.read opReqImportSize).mapErr fun e =>
      AcceptError.acceptFailed ("read OP_REQ_IMPORT: " ++ e)).run s =
        (.ok (reqItems req).flatten, { s with incoming := rest }) := by
    rw [Program.run_mapErr, read]
    rfl
  rw [acceptDevice, Program.run_bind_ok first, decoded]
  show Program.run (if _ then _ else if _ then _ else _) _ = _
  split_ifs
  · rfl
  · rfl
  · rfl

theorem PlainBusid.noZero {busid : String} (plain : PlainBusid busid) : 0 ∉ strBytes busid :=
  fun zero => plain.noNul (zero_mem_bytes.mp zero)

theorem strBytes_ne_nil {busid : String} (nonempty : busid ≠ "") : strBytes busid ≠ [] := by
  intro none_left
  have bytes : busid.toByteArray = "".toByteArray :=
    ByteArray.ext (Array.toList_inj.mp none_left)
  exact nonempty (String.toByteArray_inj.mp bytes)

/-- The field of a plain busid is not all zeros. -/
theorem PlainBusid.named {busid : String} (plain : PlainBusid busid) (devid : UInt32) :
    ¬(makeImportRequest busid devid).busid.toList.all (fun b => b = 0) = true := by
  intro zeros
  obtain ⟨b, bytes, image⟩ := List.exists_cons_of_ne_nil (strBytes_ne_nil plain.nonempty)
  have mem : b ∈ (makeImportRequest busid devid).busid.toList := by
    show b ∈ (strBytes busid).take 32 ++ _
    rw [image]
    exact List.mem_append_left _ List.mem_cons_self
  have zero : b = 0 := of_decide_eq_true (List.all_eq_true.mp zeros b mem)
  apply plain.noZero
  rw [image, zero]
  exact List.mem_cons_self

theorem asksFor_of_text {busid text : String} {devid : UInt32} (plain : PlainBusid busid)
    (valid : (ByteArray.mk (makeImportRequest busid devid).busid.toArray).IsValidUTF8)
    (seen : (makeImportRequest busid devid).busidText = some text) :
    AsksFor (importRequest busid devid) text := by
  intro s rest stream
  have ran := acceptDevice_run stream
  rw [if_neg (plain.named devid), if_neg (not_not.mpr valid)] at ran
  exact ⟨_, ran, seen⟩

/-- A busid that fits its field is padded with NULs, which are trimmed again. -/
theorem asksFor_of_fits {busid : String} (devid : UInt32) (plain : PlainBusid busid)
    (fits : (strBytes busid).length ≤ 32) : AsksFor (importRequest busid devid) busid := by
  apply asksFor_of_text plain
  · exact makeImportRequest_validUTF8 busid devid fits
  · rw [OpReqImport.busidText, makeImportRequest_text busid devid fits,
      fromUTF8?_eq_some.mpr rfl, Option.map_some, trimEnd_replicate plain.noNul]

/-- The first 32 bytes of a busid. -/
def firstBytes (busid : String) : ByteArray := ⟨((strBytes busid).take 32).toArray⟩

theorem makeImportRequest_long {busid : String} (devid : UInt32)
    (long : 32 < (strBytes busid).length) :
    ByteArray.mk (makeImportRequest busid devid).busid.toArray = firstBytes busid := by
  have pad : 32 - (strBytes busid).length = 0 := by omega
  show ByteArray.mk ((strBytes busid).take 32 ++ List.replicate (32 - _) 0 : List UInt8).toArray = _
  rw [pad, List.replicate_zero, List.append_nil]
  rfl

/-- A longer busid is seen as its first 32 bytes, when these are text. -/
theorem asksFor_of_long {busid shown : String} (devid : UInt32) (plain : PlainBusid busid)
    (long : 32 < (strBytes busid).length)
    (text : String.fromUTF8? (firstBytes busid) = some shown) :
    AsksFor (importRequest busid devid) shown := by
  have field := makeImportRequest_long devid long
  have image : firstBytes busid = shown.toByteArray := fromUTF8?_eq_some.mp text
  have noNul : '\x00' ∉ shown.toList := by
    intro nul
    have zero := zero_mem_bytes.mpr nul
    rw [← image] at zero
    exact plain.noZero (List.mem_of_mem_take zero)
  apply asksFor_of_text plain
  · rw [field, image]
    exact String.isValidUTF8 _
  · rw [OpReqImport.busidText, field, text, Option.map_some, trimEnd_of_absent noNul]

theorem garbled_of_long {busid : String} (devid : UInt32) (plain : PlainBusid busid)
    (long : 32 < (strBytes busid).length) (cut : String.fromUTF8? (firstBytes busid) = none) :
    Garbled (importRequest busid devid) := by
  intro s rest stream
  have invalid : ¬(ByteArray.mk (makeImportRequest busid devid).busid.toArray).IsValidUTF8 := by
    rw [makeImportRequest_long devid long]
    exact fromUTF8?_eq_none.mp cut
  rw [acceptDevice_run stream, if_neg (plain.named devid), if_pos invalid]

/-- A request asks for one busid only. -/
theorem AsksFor.unique {bytes : List UInt8} {busid other : String} (first : AsksFor bytes busid)
    (second : AsksFor bytes other) : busid = other := by
  have stream : bytes = bytes ++ [] := (List.append_nil _).symm
  obtain ⟨req, ran, seen⟩ := first ⟨bytes, [], false, none⟩ [] stream
  obtain ⟨req', ran', seen'⟩ := second ⟨bytes, [], false, none⟩ [] stream
  cases ran.symm.trans ran'
  exact Option.some_inj.mp (seen.symm.trans seen')

theorem requests_of {busid : String} {devid : UInt32} {P : List UInt8 → Prop}
    (holds : P (importRequest busid devid)) : Requests busid devid P :=
  fun _ writable => ⟨_, holds, doHandshake_outgoing _ writable⟩

theorem perform_busid {o o' : Owned} {call : Call} {answer : Answer}
    (performed : o.perform call = some (answer, o')) : o'.session.busid = o.session.busid := by
  by_cases reads : call = .recvHeaderOrClose
  · subst reads
    rw [perform_recvHeaderOrClose] at performed
    rcases received : TcpSession.recvHeaderInner.run o.socket with ⟨frame | e | _, socket⟩ <;>
      rw [received] at performed <;> cases performed
    · rfl
    · rfl
  cases closed : o.session.closed with
  | true =>
    rw [perform_of_closed closed reads] at performed
    cases performed
    rfl
  | false =>
    cases call with
    | sendHeader header payload =>
      have counted := afterSend_session closed (header, payload)
      have sent : o.send (header, payload) = some (answer, o') := by
        rw [Owned.send, performed]
      rw [afterSend_of_send sent] at counted
      rw [counted, TcpSession.counted]
    | recvHeader =>
      rw [perform_recvHeader closed] at performed
      rcases received : TcpSession.recvHeaderInner.run o.socket with ⟨frame | e | _, socket⟩ <;>
        rw [received] at performed <;> cases performed
      · rfl
      · rfl
    | recvHeaderOrClose => exact absurd rfl reads

theorem performs_busid {calls : List Call} {o o' : Owned} (performed : o.performs calls = some o') :
    o'.session.busid = o.session.busid := by
  induction calls generalizing o with
  | nil =>
    cases performed
    rfl
  | cons call calls ih =>
    obtain ⟨⟨answer, mid⟩, first, later⟩ := Option.bind_eq_some_iff.mp performed
    rw [ih later, perform_busid first]

theorem connect_ok {busid : String} {devid : UInt32} {attempts : Vector Attempt maxRetries}
    {keepalive : Except String Unit} {session : TcpSession} {stream : Socket}
    (connected : TcpSession.connect busid devid attempts keepalive = .ok (session, stream)) :
    ∃ reply, importDevice busid devid attempts = .ok (reply, stream) ∧
      session = .new busid devid reply := by
  rw [TcpSession.connect] at connected
  rcases imported : importDevice busid devid attempts with ⟨reply, stream'⟩ | e | _ <;>
    rw [imported] at connected
  · cases keepalive with
    | error e => cases connected
    | ok =>
      cases connected
      exact ⟨reply, rfl, rfl⟩
  · cases connected
  · cases connected

theorem sessionNames_of {busid : String} {devid : UInt32}
    (asks : AsksFor (importRequest busid devid) busid) : SessionNames busid devid := by
  intro attempts keepalive session stream connected
  obtain ⟨reply, imported, rfl⟩ := connect_ok connected
  rw [importDevice] at imported
  by_cases empty : busid = ""
  · rw [if_pos empty] at imported
    cases imported
  rw [if_neg empty] at imported
  obtain ⟨connected, before, mem, sent⟩ := outgoing_of_tryImport imported
  refine ⟨connected, before, _, mem, sent, fun calls o performed => ?_⟩
  rw [performs_busid performed]
  exact asks

/-- A busid that fits its field reaches the server as it is. A longer one is cut
at 32 bytes, wherever that is within a character. -/
theorem serverSees_busid {busid : String} (plain : PlainBusid busid) (devid : UInt32) :
    ((strBytes busid).length ≤ 32 →
      Requests busid devid (AsksFor · busid) ∧ SessionNames busid devid ∧
      ∀ other devid', PlainBusid other → (strBytes other).length ≤ 32 →
        encodeOpReqImport (makeImportRequest busid devid) =
          encodeOpReqImport (makeImportRequest other devid') →
        busid = other) ∧
    (32 < (strBytes busid).length →
      match String.fromUTF8? (firstBytes busid) with
      | some shown => Requests busid devid (AsksFor · shown)
      | none => Requests busid devid Garbled) := by
  constructor
  · intro fits
    have asks := asksFor_of_fits devid plain fits
    refine ⟨requests_of asks, sessionNames_of asks, fun other devid' plain' fits' same => ?_⟩
    have bytes : importRequest busid devid = importRequest other devid' := Outcome.ok.inj same
    rw [bytes] at asks
    exact asks.unique (asksFor_of_fits devid' plain' fits')
  · intro long
    cases text : String.fromUTF8? (firstBytes busid) with
    | some shown => exact requests_of (asksFor_of_long devid plain long text)
    | none => exact requests_of (garbled_of_long devid plain long text)

theorem serverSees_busid_hub : Requests "1-1.2.3" 3 (AsksFor · "1-1.2.3") ∧
    SessionNames "1-1.2.3" 3 := by
  have plain : PlainBusid "1-1.2.3" := ⟨by decide, by decide⟩
  have seen := (serverSees_busid plain 3).1 (by decide)
  exact ⟨seen.1, seen.2.1⟩

/-- Two busids that differ only behind their first 32 bytes give one request. -/
theorem cut_busid :
    let long := String.ofList (List.replicate 33 'a')
    let short := String.ofList (List.replicate 32 'a')
    PlainBusid long ∧ PlainBusid short ∧ long ≠ short ∧
      makeImportRequest long 0 = makeImportRequest short 0 ∧
      Requests long 0 (AsksFor · short) ∧ ¬Requests long 0 (AsksFor · long) := by
  intro long short
  have plainLong : PlainBusid long := ⟨by decide, by decide⟩
  have plainShort : PlainBusid short := ⟨by decide, by decide⟩
  have other : long ≠ short := by decide
  have field : zeroPadded 32 (strBytes long) = zeroPadded 32 (strBytes short) := by decide
  have request : makeImportRequest long 0 = makeImportRequest short 0 := by
    rw [makeImportRequest, field]
    rfl
  have asks : AsksFor (importRequest long 0) short := by
    rw [importRequest, request]
    exact asksFor_of_fits 0 plainShort (by decide)
  refine ⟨plainLong, plainShort, other, request, requests_of asks, fun requests => ?_⟩
  obtain ⟨bytes, asked, written⟩ := requests ⟨[], [], false, none⟩ ⟨rfl, rfl⟩
  have sent := doHandshake_outgoing (makeImportRequest long 0)
    (⟨rfl, rfl⟩ : Socket.Writable ⟨[], [], false, none⟩)
  have image : bytes = importRequest long 0 := (written.symm.trans sent)
  rw [image] at asked
  exact other (asked.unique asks)

end EasyUsb
