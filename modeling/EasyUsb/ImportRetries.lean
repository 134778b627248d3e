import EasyUsb.Handshake
import EasyUsb.ImportBijection

namespace EasyUsb

open Foundation

/-- The attempt is worth another one: its time ran out, there was no connection,
the request did not go out, or no whole reply came. -/
inductive Attempt.Transient (req : OpReqImport) : Attempt → Prop where
  | timedOut : Transient req .timedOut
  | refused (e : String) (stream : Socket) : Transient req (.made (.error e) stream)
  | unwritten {bytes : List UInt8} {stream stream' : Socket} {e : String}
    (encoded : encodeOpReqImport req = .ok bytes)
    (failed : stream.write bytes = (.error e, stream')) :
    Transient req (.made (.ok ()) stream)
  | unanswered {bytes : List UInt8} {stream asked : Socket}
    (encoded : encodeOpReqImport req = .ok bytes)
    (written : stream.write bytes = (.ok (), asked))
    (short : asked.incoming.length < opRepImportSize) :
    Transient req (.made (.ok ()) stream)

/-- The attempt got this reply, and this is what its stream is left as. -/
inductive Attempt.Answered (req : OpReqImport) (rep : OpRepImport) (left : Socket) :
    Attempt → Prop where
  | read {bytes : List UInt8} {stream asked : Socket}
    (encoded : encodeOpReqImport req = .ok bytes)
    (written : stream.write bytes = (.ok (), asked))
    (enough : opRepImportSize ≤ asked.incoming.length)
    (decoded : decodeOpRepImport (asked.incoming.take opRepImportSize) = .ok rep)
    (rest : left = { asked with incoming := asked.incoming.drop opRepImportSize }) :
    Answered req rep left (.made (.ok ()) stream)

/-- Why a reply is no device: its status, or numbers that are missing. -/
def OpRepImport.refusal (rep : OpRepImport) : Option HandshakeError :=
  if rep.status ≠ 0 then some (.serverRejected rep.status)
  else if rep.busnum = 0 ∨ rep.devnum = 0 then
    some (.invalidReply ("busnum=" ++ toString rep.busnum ++ " devnum=" ++ toString rep.devnum))
  else none

/-- What a reply comes to: an error, or the device and the stream to use it over. -/
def OpRepImport.verdict (rep : OpRepImport) (left : Socket) :
    Outcome ImportError (OpRepImport × Socket) :=
  match rep.refusal with
  | some e => .err (.handshake e)
  | none => .ok (rep, left)

/-- What one attempt decides; none when there is to be another. -/
def settle (req : OpReqImport) : Attempt → Option (Outcome ImportError (OpRepImport × Socket))
  | .timedOut => none
  | .made connected stream =>
    match (doHandshake connected req).run stream with
    | (.ok reply, stream) => some (.ok (reply, stream))
    | (.err (.connectionFailed _), _) => none
    | (.err e, _) => some (.err (.handshake e))
    | (.panic, _) => some .panic

theorem tryImport_eq (req : OpReqImport) (attempts : List Attempt) :
    tryImport req attempts =
      (attempts.findSome? (settle req)).getD (.err (.maxRetriesExceeded maxRetries)) := by
  induction attempts with
  | nil => rfl
  | cons attempt attempts ih =>
    cases attempt with
    | timedOut => exact ih
    | made connected stream =>
      rcases ran : (doHandshake connected req).run stream with ⟨result, left⟩
      rw [tryImport, List.findSome?_cons, settle, ran]
      cases result with
      | ok reply => rfl
      | err e =>
        cases e with
        | connectionFailed text => exact ih
        | serverRejected status => rfl
        | invalidReply text => rfl
      | panic => rfl

theorem run_doHandshake_unwritten {req : OpReqImport} {s s' : Socket} {e : String}
    (failed : s.write (reqItems req).flatten = (.error e, s')) :
    (doHandshake (.ok ()) req).run s = (.err (.connectionFailed e), s') := by
  show ((Program.write (reqItems req).flatten).mapErr _ >>= fun _ => awaitReply).run s = _
  apply Program.run_bind_err
  rw [Program.run_mapErr, Program.run_write_error failed]
  rfl

theorem awaitReply_short {s : Socket} (short : s.incoming.length < opRepImportSize) :
    awaitReply.run s = (.err (.connectionFailed "early eof"), { s with incoming := [] }) := by
  apply Program.run_bind_err
  rw [Program.run_mapErr, Program.run_read_of_lt short]
  rfl

/-- A whole reply is taken off the stream, and nothing after it. -/
theorem awaitReply_reply {s : Socket} {rep : OpRepImport}
    (enough : opRepImportSize ≤ s.incoming.length)
    (decoded : decodeOpRepImport (s.incoming.take opRepImportSize) = .ok rep) :
    awaitReply.run s =
      (match rep.refusal with
        | some e => .err e
        | none => .ok rep, { s with incoming := s.incoming.drop opRepImportSize }) := by
  have got : ((Program.read opRepImportSize).mapErr HandshakeError.connectionFailed).run s =
      (.ok (s.incoming.take opRepImportSize),
        { s with incoming := s.incoming.drop opRepImportSize }) := by
    rw [Program.run_mapErr, Program.run_read_of_le enough]
    rfl
  rw [awaitReply, Program.run_bind_ok got, decoded, OpRepImport.refusal]
  show Program.run (if _ then _ else if _ then _ else _) _ = _
  split_ifs
  · rfl
  · rfl
  · rfl

theorem settle_of_transient {req : OpReqImport} {attempt : Attempt}
    (transient : attempt.Transient req) : settle req attempt = none := by
  cases transient with
  | timedOut => rfl
  | refused e stream => rfl
  | unwritten encoded failed =>
    cases encoded
    rw [settle, run_doHandshake_unwritten failed]
  | unanswered encoded written short =>
    cases encoded
    rw [settle, run_doHandshake_of_write written, awaitReply_short short]

theorem settle_of_answered {req : OpReqImport} {attempt : Attempt} {rep : OpRepImport}
    {left : Socket} (answered : attempt.Answered req rep left) :
    settle req attempt = some (rep.verdict left) := by
  cases answered with
  | read encoded written enough decoded rest =>
    cases encoded
    subst rest
    rw [settle, run_doHandshake_of_write written, awaitReply_reply enough decoded,
      OpRepImport.verdict, OpRepImport.refusal]
    split_ifs
    · rfl
    · rfl
    · rfl

/-- An attempt is transient or has got some reply. -/
theorem transient_or_answered (req : OpReqImport) (attempt : Attempt) :
    attempt.Transient req ∨ ∃ rep left, attempt.Answered req rep left := by
  cases attempt with
  | timedOut => exact Or.inl .timedOut
  | made connected stream =>
    cases connected with
    | error e => exact Or.inl (.refused e stream)
    | ok =>
      rcases written : stream.write (reqItems req).flatten with ⟨result, asked⟩
      cases result with
      | error e => exact Or.inl (.unwritten rfl written)
      | ok =>
        by_cases short : asked.incoming.length < opRepImportSize
        · exact Or.inl (.unanswered rfl written short)
        · have enough : opRepImportSize ≤ asked.incoming.length := Nat.not_lt.mp short
          have size : (asked.incoming.take opRepImportSize).length = opRepImportSize := by
            rw [List.length_take]
            omega
          obtain ⟨rep, decoded, _⟩ := repImport_fixedSizeCodec.long _ (Nat.le_of_eq size.symm)
          exact Or.inr ⟨rep, _, .read rfl written enough decoded rfl⟩

theorem settle_eq_none {req : OpReqImport} {attempt : Attempt} :
    settle req attempt = none ↔ attempt.Transient req := by
  constructor
  · intro again
    rcases transient_or_answered req attempt with transient | ⟨rep, left, answered⟩
    · exact transient
    · cases (settle_of_answered answered).symm.trans again
  · exact settle_of_transient

theorem settle_eq_some {req : OpReqImport} {attempt : Attempt}
    {r : Outcome ImportError (OpRepImport × Socket)} :
    settle req attempt = some r ↔
      ∃ rep left, attempt.Answered req rep left ∧ r = rep.verdict left := by
  constructor
  · intro settled
    rcases transient_or_answered req attempt with transient | ⟨rep, left, answered⟩
    · cases (settle_of_transient transient).symm.trans settled
    · have same := settled.symm.trans (settle_of_answered answered)
      exact ⟨rep, left, answered, Option.some.inj same⟩
  · intro ⟨rep, left, answered, same⟩
    rw [same]
    exact settle_of_answered answered

/-- The first reply that comes decides: `import_device` ends with what it comes to,
after nothing but transient failures, or after as many of these as it may make. -/
theorem importDevice_settles (busid : String) (devid : UInt32)
    (attempts : Vector Attempt maxRetries) (r : Outcome ImportError (OpRepImport × Socket)) :
    importDevice busid devid attempts = r ↔
      if busid = "" then r = .err (.handshake (.invalidReply "empty busid"))
      else
        (∃ before attempt after rep left, attempts.toList = before ++ attempt :: after ∧
          (∀ earlier ∈ before, earlier.Transient (makeImportRequest busid devid)) ∧
          attempt.Answered (makeImportRequest busid devid) rep left ∧ r = rep.verdict left) ∨
        ((∀ attempt ∈ attempts.toList, attempt.Transient (makeImportRequest busid devid)) ∧
          r = .err (.maxRetriesExceeded maxRetries)) := by
  unfold importDevice
  by_cases empty : busid = ""
  · rw [if_pos empty, if_pos empty]
    exact eq_comm
  rw [if_neg empty, if_neg empty, tryImport_eq]
  constructor
  · intro ended
    cases found : attempts.toList.findSome? (settle (makeImportRequest busid devid)) with
    | none =>
      rw [found] at ended
      refine Or.inr ⟨fun attempt mem => ?_, ended.symm⟩
      exact settle_eq_none.mp (List.findSome?_eq_none_iff.mp found attempt mem)
    | some settled =>
      rw [found] at ended
      obtain ⟨before, attempt, after, split, decided, earlier⟩ :=
        List.findSome?_eq_some_iff.mp found
      obtain ⟨rep, left, answered, same⟩ := settle_eq_some.mp decided
      exact Or.inl ⟨before, attempt, after, rep, left, split,
        fun other mem => settle_eq_none.mp (earlier other mem), answered, ended.symm.trans same⟩
  · intro decided
    rcases decided with ⟨before, attempt, after, rep, left, split, earlier, answered, same⟩ |
      ⟨all, same⟩
    · have found : attempts.toList.findSome? (settle (makeImportRequest busid devid)) =
          some (rep.verdict left) :=
        List.findSome?_eq_some_iff.mpr ⟨before, attempt, after, split,
          settle_of_answered answered, fun other mem => settle_of_transient (earlier other mem)⟩
      rw [found, same]
      rfl
    · have found : attempts.toList.findSome? (settle (makeImportRequest busid devid)) = none :=
        List.findSome?_eq_none_iff.mpr fun attempt mem => settle_of_transient (all attempt mem)
      rw [found, same]
      rfl

end EasyUsb
