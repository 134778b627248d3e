import EasyUsb.ConnectionCourses
import EasyUsb.Duplex

namespace EasyUsb

open Foundation

theorem sum_take_succ (sizes : List Nat) (n : Nat) :
    (sizes.take (n + 1)).sum = sizes.headD 0 + (sizes.tail.take n).sum := by
  cases sizes with
  | nil => simp
  | cons size sizes => simp

theorem sum_take_mono (sizes : List Nat) {m n : Nat} (le : m ≤ n) :
    (sizes.take m).sum ≤ (sizes.take n).sum := by
  obtain ⟨more, rfl⟩ := Nat.exists_eq_add_of_le le
  rw [List.take_add, List.sum_append]
  exact Nat.le_add_right _ _

theorem sends_of_not_receives {call : Call} (sends : ¬call.receives = true) :
    call.sends = true := by
  cases call with
  | sendHeader header payload => rfl
  | _ => exact absurd rfl sends

theorem not_sends_of_receives {call : Call} (receives : call.receives = true) :
    ¬call.sends = true := by
  cases call with
  | sendHeader header payload => cases receives
  | _ => exact Bool.false_ne_true

theorem callMoves_append (calls more : List Call) (replies requests : List Nat) :
    callMoves (calls ++ more) replies requests = callMoves calls replies requests ++
      callMoves more (replies.drop (calls.countP Call.receives))
        (requests.drop (calls.countP Call.sends)) := by
  induction calls generalizing replies requests with
  | nil => rfl
  | cons call calls ih =>
    by_cases receives : call.receives = true
    · rw [List.cons_append, callMoves, callMoves, if_pos receives, if_pos receives, ih,
        List.countP_cons_of_pos receives, List.countP_cons_of_neg (not_sends_of_receives receives),
        List.append_assoc, List.drop_tail, Nat.add_comm]
    · rw [List.cons_append, callMoves, callMoves, if_neg receives, if_neg receives, ih,
        List.countP_cons_of_neg receives, List.countP_cons_of_pos (sends_of_not_receives receives),
        List.append_assoc, List.drop_tail, Nat.add_comm]

theorem count_callMoves (calls : List Call) (replies requests : List Nat) :
    (callMoves calls replies requests).count .read =
        (replies.take (calls.countP Call.receives)).sum ∧
      (callMoves calls replies requests).count .write =
        (requests.take (calls.countP Call.sends)).sum := by
  induction calls generalizing replies requests with
  | nil => simp [callMoves]
  | cons call calls ih =>
    by_cases receives : call.receives = true
    · obtain ⟨reads, writes⟩ := ih replies.tail requests
      rw [callMoves, if_pos receives, List.countP_cons_of_pos receives,
        List.countP_cons_of_neg (not_sends_of_receives receives), sum_take_succ,
        count_read_append_reads, count_write_append_reads, reads, writes]
      exact ⟨rfl, rfl⟩
    · obtain ⟨reads, writes⟩ := ih replies requests.tail
      rw [callMoves, if_neg receives, List.countP_cons_of_neg receives,
        List.countP_cons_of_pos (sends_of_not_receives receives), sum_take_succ,
        count_read_append_writes, count_write_append_writes, reads, writes]
      exact ⟨rfl, rfl⟩

/-- Where a client is that has its next byte to move: what it has moved so far belongs
to the calls before the one it is at, or to that one. -/
theorem callMoves_at {calls : List Call} {replies requests : List Nat} {done rest : List Move}
    {next : Move} (split : callMoves calls replies requests = done ++ next :: rest) :
    ∃ before call after, calls = before ++ call :: after ∧
      ((next = .read ∧ call.receives = true ∧
          done.count .write = (requests.take (before.countP Call.sends)).sum ∧
          done.count .read < (replies.take (before.countP Call.receives + 1)).sum) ∨
        (next = .write ∧ call.receives = false ∧
          done.count .read = (replies.take (before.countP Call.receives)).sum ∧
          done.count .write < (requests.take (before.countP Call.sends + 1)).sum)) := by
  induction calls generalizing replies requests done with
  | nil => simp [callMoves] at split
  | cons call calls ih =>
    by_cases receives : call.receives = true
    · rw [callMoves, if_pos receives] at split
      rcases replicate_split split with ⟨rfl, i, small, rfl⟩ | ⟨later, rfl, onward⟩
      · refine ⟨[], call, calls, rfl, Or.inl ⟨rfl, receives, ?_, ?_⟩⟩
        · exact count_write_reads i
        · rw [List.count_replicate_self, List.countP_nil, sum_take_succ]
          exact Nat.lt_add_right _ small
      · obtain ⟨before, at_call, after, rfl, which⟩ := ih onward
        refine ⟨call :: before, at_call, after, rfl, ?_⟩
        rw [List.countP_cons_of_pos receives,
          List.countP_cons_of_neg (not_sends_of_receives receives), sum_take_succ replies,
          sum_take_succ replies, count_read_append_reads, count_write_append_reads]
        rcases which with ⟨reading, call, writes, reads⟩ | ⟨writing, call, reads, writes⟩
        · exact Or.inl ⟨reading, call, writes, Nat.add_lt_add_left reads _⟩
        · exact Or.inr ⟨writing, call, congrArg _ reads, writes⟩
    · rw [callMoves, if_neg receives] at split
      rcases replicate_split split with ⟨rfl, i, small, rfl⟩ | ⟨later, rfl, onward⟩
      · refine ⟨[], call, calls, rfl, Or.inr ⟨rfl, Bool.not_eq_true _ ▸ receives, ?_, ?_⟩⟩
        · exact count_read_writes i
        · rw [List.count_replicate_self, List.countP_nil, sum_take_succ]
          exact Nat.lt_add_right _ small
      · obtain ⟨before, at_call, after, rfl, which⟩ := ih onward
        refine ⟨call :: before, at_call, after, rfl, ?_⟩
        rw [List.countP_cons_of_neg receives,
          List.countP_cons_of_pos (sends_of_not_receives receives), sum_take_succ requests,
          sum_take_succ requests, count_read_append_writes, count_write_append_writes]
        rcases which with ⟨reading, call, writes, reads⟩ | ⟨writing, call, reads, writes⟩
        · exact Or.inl ⟨reading, call, congrArg _ writes, reads⟩
        · exact Or.inr ⟨writing, call, reads, Nat.add_lt_add_left writes _⟩

theorem echoMoves_cons (size : Nat) (sizes : List Nat) :
    echoMoves (size :: sizes) = List.replicate size .read ++
      (List.replicate size .write ++ echoMoves sizes) := by
  rw [echoMoves, List.flatMap_cons, List.append_assoc]
  rfl

theorem count_echoMoves (sizes : List Nat) :
    (echoMoves sizes).count .read = sizes.sum ∧ (echoMoves sizes).count .write = sizes.sum := by
  induction sizes with
  | nil => exact ⟨rfl, rfl⟩
  | cons size sizes ih =>
    rw [echoMoves_cons, count_read_append_reads, count_write_append_reads,
      count_read_append_writes, count_write_append_writes, ih.1, ih.2, List.sum_cons]
    exact ⟨rfl, rfl⟩

/-- A server with a byte to write has read the requests up to the one it echoes. -/
theorem echoMoves_write {sizes : List Nat} {done rest : List Move}
    (split : echoMoves sizes = done ++ .write :: rest) :
    ∃ j, done.count .read = (sizes.take j).sum ∧ done.count .write < (sizes.take j).sum := by
  induction sizes generalizing done with
  | nil => simp [echoMoves] at split
  | cons size sizes ih =>
    rw [echoMoves_cons] at split
    rcases replicate_split split with ⟨other, _⟩ | ⟨later, rfl, onward⟩
    · cases other
    rcases replicate_split onward with ⟨_, i, small, rfl⟩ | ⟨later, rfl, echoes⟩
    · refine ⟨1, ?_, ?_⟩
      · simp
      · simpa using small
    · obtain ⟨j, reads, writes⟩ := ih echoes
      refine ⟨j + 1, ?_, ?_⟩
      · simp [reads]
      · simpa using writes

/-- A server with a byte to read that has read whole requests has echoed them. -/
theorem echoMoves_read {sizes : List Nat} {done rest : List Move} {j : Nat}
    (split : echoMoves sizes = done ++ .read :: rest)
    (reads : done.count .read = (sizes.take j).sum) :
    done.count .write = (sizes.take j).sum := by
  induction sizes generalizing done j with
  | nil => simp [echoMoves] at split
  | cons size sizes ih =>
    rw [echoMoves_cons] at split
    rcases replicate_split split with ⟨_, i, small, rfl⟩ | ⟨later, rfl, onward⟩
    · rw [List.count_replicate_self] at reads
      cases j with
      | zero => exact count_write_reads i
      | succ j =>
        rw [List.take_succ_cons, List.sum_cons] at reads
        omega
    rcases replicate_split onward with ⟨other, _⟩ | ⟨later, rfl, echoes⟩
    · cases other
    rw [count_read_append_reads, count_read_append_writes] at reads
    rw [count_write_append_reads, count_write_append_writes]
    cases j with
    | zero =>
      rw [List.take_zero, List.sum_nil] at reads ⊢
      have nothing := @ih later 0 echoes (by rw [List.take_zero, List.sum_nil]; omega)
      rw [List.take_zero, List.sum_nil] at nothing
      omega
    | succ j =>
      rw [List.take_succ_cons, List.sum_cons] at reads ⊢
      rw [ih echoes (Nat.add_left_cancel reads)]

/-- The bytes of the first requests, and of their echoes. -/
def requestBytes (calls : List Call) (n : Nat) : Nat := ((requestSizes calls).take n).sum

theorem requestBytes_mono (calls : List Call) {m n : Nat} (le : m ≤ n) :
    requestBytes calls m ≤ requestBytes calls n :=
  sum_take_mono _ le

theorem requestBytes_le (calls : List Call) (n : Nat) :
    requestBytes calls n ≤ (requestSizes calls).sum := by
  have parts := congrArg List.sum (List.take_append_drop n (requestSizes calls))
  rw [List.sum_append] at parts
  rw [requestBytes]
  omega

theorem fed_before {before after : List Call} {call : Call} {pending : Nat}
    (receives : call.receives = true) (fed : Fed pending (before ++ call :: after)) :
    before.countP Call.receives + 1 ≤ pending + before.countP Call.sends := by
  induction before generalizing pending with
  | nil =>
    obtain ⟨left, rfl, _⟩ := fed_of_receives receives fed
    simp
  | cons first before ih =>
    by_cases takes : first.receives = true
    · obtain ⟨left, rfl, later⟩ := fed_of_receives takes fed
      have rest := ih later
      rw [List.countP_cons_of_pos takes, List.countP_cons_of_neg (not_sends_of_receives takes)]
      omega
    · cases first with
      | sendHeader header payload =>
        have rest : _ ≤ pending + 1 + _ := ih fed
        rw [List.countP_cons_of_neg takes, List.countP_cons_of_pos (sends_of_not_receives takes)]
        omega
      | recvHeader => exact absurd rfl takes
      | recvHeaderOrClose => exact absurd rfl takes

theorem clientMoves_write {calls : List Call} {done rest : List Move}
    (split : clientMoves calls = done ++ .write :: rest) :
    done.count .write < opReqImportSize ∨
      ∃ before header payload after, calls = before ++ .sendHeader header payload :: after ∧
        done.count .read = opRepImportSize + requestBytes calls (before.countP Call.receives) ∧
        done.count .write <
          opReqImportSize + requestBytes calls (before.countP Call.sends + 1) := by
  rcases replicate_split split with ⟨_, i, small, rfl⟩ | ⟨later, rfl, replied⟩
  · left
    rwa [List.count_replicate_self]
  rcases replicate_split replied with ⟨other, _⟩ | ⟨later, rfl, calling⟩
  · cases other
  obtain ⟨before, call, after, parts, which⟩ := callMoves_at calling
  obtain ⟨_, sends, reads, writes⟩ := which.resolve_left fun reading => by cases reading.1
  cases call with
  | sendHeader header payload =>
    refine Or.inr ⟨before, header, payload, after, parts, ?_, ?_⟩
    · rw [count_read_append_writes, count_read_append_reads, reads]
      rfl
    · rw [count_write_append_writes, count_write_append_reads]
      exact Nat.add_lt_add_left writes _
  | recvHeader => cases sends
  | recvHeaderOrClose => cases sends

theorem clientMoves_read {calls : List Call} {done rest : List Move} (fed : Fed 0 calls)
    (split : clientMoves calls = done ++ .read :: rest) :
    ∃ n, done.count .write = opReqImportSize + requestBytes calls n ∧
      done.count .read < opRepImportSize + requestBytes calls n := by
  rcases replicate_split split with ⟨other, _⟩ | ⟨later, rfl, replied⟩
  · cases other
  rw [count_read_append_writes, count_write_append_writes]
  rcases replicate_split replied with ⟨_, i, small, rfl⟩ | ⟨later, rfl, calling⟩
  · refine ⟨0, ?_, ?_⟩
    · rw [count_write_reads]
      rfl
    · rw [List.count_replicate_self]
      exact Nat.lt_add_right _ small
  obtain ⟨before, call, after, rfl, which⟩ := callMoves_at calling
  obtain ⟨_, receives, writes, reads⟩ := which.resolve_right fun writing => by cases writing.1
  have enough := fed_before receives fed
  rw [count_read_append_reads, count_write_append_reads, writes]
  refine ⟨before.countP Call.sends, rfl, Nat.add_lt_add_left (Nat.lt_of_lt_of_le reads ?_) _⟩
  exact sum_take_mono _ (by omega)

theorem count_serverMoves (calls : List Call) :
    (serverMoves calls).count .read = opReqImportSize + (requestSizes calls).sum ∧
      (serverMoves calls).count .write = opRepImportSize + (requestSizes calls).sum := by
  obtain ⟨reads, writes⟩ := count_echoMoves (requestSizes calls)
  rw [serverMoves, count_read_append_reads, count_write_append_reads, count_read_append_writes,
    count_write_append_writes, reads, writes]
  exact ⟨rfl, rfl⟩

theorem serverMoves_write {calls : List Call} {done rest : List Move}
    (split : serverMoves calls = done ++ .write :: rest) :
    ∃ j, done.count .read = opReqImportSize + requestBytes calls j ∧
      done.count .write < opRepImportSize + requestBytes calls j := by
  rcases replicate_split split with ⟨other, _⟩ | ⟨later, rfl, replying⟩
  · cases other
  rw [count_read_append_reads, count_write_append_reads]
  rcases replicate_split replying with ⟨_, i, small, rfl⟩ | ⟨later, rfl, echoes⟩
  · refine ⟨0, ?_, ?_⟩
    · rw [count_read_writes]
      rfl
    · rw [List.count_replicate_self]
      exact Nat.lt_add_right _ small
  obtain ⟨j, reads, writes⟩ := echoMoves_write echoes
  rw [count_read_append_writes, count_write_append_writes, reads]
  exact ⟨j, rfl, Nat.add_lt_add_left writes _⟩

theorem serverMoves_read {calls : List Call} {done rest : List Move} {j : Nat}
    (split : serverMoves calls = done ++ .read :: rest)
    (reads : done.count .read = opReqImportSize + requestBytes calls j) :
    done.count .write = opRepImportSize + requestBytes calls j := by
  rcases replicate_split split with ⟨_, i, small, rfl⟩ | ⟨later, rfl, replying⟩
  · rw [List.count_replicate_self] at reads
    omega
  rcases replicate_split replying with ⟨other, _⟩ | ⟨later, rfl, echoes⟩
  · cases other
  rw [count_read_append_reads, count_read_append_writes] at reads
  rw [count_write_append_reads, count_write_append_writes,
    echoMoves_read echoes (Nat.add_left_cancel reads)]
  rfl

/-- The point at which a client has made a send. -/
theorem clientMoves_upTo {calls before after : List Call} {header : UsbipHeader}
    {payload : Option (List UInt8)}
    (parts : calls = before ++ .sendHeader header payload :: after) :
    ∃ point, point <+: clientMoves calls ∧
      point.count .read = opRepImportSize + requestBytes calls (before.countP Call.receives) ∧
      point.count .write =
        opReqImportSize + requestBytes calls (before.countP Call.sends + 1) := by
  let sizes := requestSizes calls
  obtain ⟨reads, writes⟩ :=
    count_callMoves (before ++ [.sendHeader header payload]) sizes sizes
  refine ⟨List.replicate opReqImportSize .write ++ (List.replicate opRepImportSize .read ++
    callMoves (before ++ [.sendHeader header payload]) sizes sizes), ?_, ?_, ?_⟩
  · have whole : callMoves calls sizes sizes =
        callMoves (before ++ [.sendHeader header payload] ++ after) sizes sizes := by
      rw [parts, List.append_assoc]
      rfl
    rw [clientMoves, List.prefix_append_right_inj, List.prefix_append_right_inj, whole,
      callMoves_append _ after]
    exact List.prefix_append _ _
  · rw [count_read_append_writes, count_read_append_reads, reads, List.countP_append]
    rfl
  · rw [count_write_append_writes, count_write_append_reads, writes, List.countP_append]
    rfl

/-- The point at which a server has echoed so many requests. -/
theorem serverMoves_upTo (calls : List Call) (echoed : Nat) :
    ∃ point, point <+: serverMoves calls ∧
      point.count .read = opReqImportSize + requestBytes calls echoed ∧
      point.count .write = opRepImportSize + requestBytes calls echoed := by
  let sizes := requestSizes calls
  obtain ⟨reads, writes⟩ := count_echoMoves (sizes.take echoed)
  refine ⟨List.replicate opReqImportSize .read ++ (List.replicate opRepImportSize .write ++
    echoMoves (sizes.take echoed)), ?_, ?_, ?_⟩
  · have whole : echoMoves sizes =
        echoMoves (sizes.take echoed) ++ echoMoves (sizes.drop echoed) := by
      rw [echoMoves, echoMoves, echoMoves, ← List.flatMap_append, List.take_append_drop]
    rw [serverMoves, List.prefix_append_right_inj, List.prefix_append_right_inj, whole]
    exact List.prefix_append _ _
  · rw [count_read_append_reads, count_read_append_writes, reads]
    rfl
  · rw [count_write_append_reads, count_write_append_writes, writes]
    rfl

/-- The client outruns the connection: at some send, the server has yet to echo a
request of which the echo does not fit behind what the client has taken, and the
requests after that one do not fit on their way either. -/
def Overruns (toClient toServer : Nat) (calls : List Call) : Prop :=
  ∃ before header payload after echoed, calls = before ++ .sendHeader header payload :: after ∧
    toClient + requestBytes calls (before.countP Call.receives) < requestBytes calls echoed ∧
    toServer + requestBytes calls echoed < requestBytes calls (before.countP Call.sends + 1)

/-- A client keeps from outrunning the connection that only sends when it has the replies
to all earlier requests, or when the bytes that it has no reply for fit on their way. -/
theorem not_overruns {toClient toServer : Nat} {calls : List Call}
    (covered : ∀ before header payload after,
      calls = before ++ .sendHeader header payload :: after →
      before.countP Call.sends ≤ before.countP Call.receives ∨
        requestBytes calls (before.countP Call.sends + 1) ≤
          requestBytes calls (before.countP Call.receives) + toClient + toServer + 1) :
    ¬Overruns toClient toServer calls := by
  rintro ⟨before, header, payload, after, echoed, parts, untaken, unsent⟩
  rcases covered before header payload after parts with answered | fits
  · have later : before.countP Call.receives < echoed := by
      by_contra early
      have order := requestBytes_mono calls (Nat.le_of_not_lt early)
      omega
    have order : requestBytes calls (before.countP Call.sends + 1) ≤ requestBytes calls echoed :=
      requestBytes_mono calls (by omega)
    omega
  · omega

section Stuck

variable {toClient toServer : Nat} {calls : List Call} {nearDone farDone : List Move}
variable {t : Traffic}

/-- The only way to get stuck before all calls are made is to outrun the connection. -/
theorem over_of_stuck (someClient : 0 < toClient) (someServer : 0 < toServer) (fed : Fed 0 calls)
    (keeps : ¬Overruns toClient toServer calls)
    (accounts : Traffic.Accounts (clientMoves calls) (serverMoves calls) toClient toServer
      nearDone farDone t)
    (near : t.near = [] ∨ (∃ rest, t.near = .read :: rest ∧ t.toNear = 0) ∨
      ∃ rest, t.near = .write :: rest ∧ toServer ≤ t.toFar)
    (far : t.far = [] ∨ (∃ rest, t.far = .read :: rest ∧ t.toFar = 0) ∨
      ∃ rest, t.far = .write :: rest ∧ toClient ≤ t.toNear) : t.near = [] := by
  obtain ⟨nearAll, farAll, toNear, toFar, fitsNear, fitsFar⟩ := accounts
  have whole := count_serverMoves calls
  have total := requestBytes_le calls
  rcases near with ended | ⟨rest, next, empty⟩ | ⟨rest, next, full⟩
  · exact ended
  · rw [next] at nearAll
    obtain ⟨n, writes, reads⟩ := clientMoves_read fed nearAll.symm
    have most := total n
    rcases far with done | ⟨rest', next', empty'⟩ | ⟨rest', next', full'⟩
    · rw [done, List.append_nil] at farAll
      rw [← farAll] at whole
      omega
    · rw [next'] at farAll
      have echoed := @serverMoves_read calls farDone rest' n farAll.symm (by omega)
      omega
    · omega
  · rw [next] at nearAll
    rcases far with done | ⟨rest', next', empty'⟩ | ⟨rest', next', full'⟩
    · rw [done, List.append_nil] at farAll
      rw [← farAll] at whole
      rcases clientMoves_write nearAll.symm with asking | ⟨before, _, _, _, _, _, writes⟩
      · omega
      · have most := total (before.countP Call.sends + 1)
        omega
    · omega
    · rw [next'] at farAll
      obtain ⟨j, reads', writes'⟩ := serverMoves_write farAll.symm
      rcases clientMoves_write nearAll.symm with
        asking | ⟨before, header, payload, after, parts, reads, writes⟩
      · omega
      · exact absurd ⟨before, header, payload, after, j, parts, by omega, by omega⟩ keeps

/-- A client that outruns the connection never makes all its calls. -/
theorem near_ne_nil_of_overruns (overruns : Overruns toClient toServer calls)
    (reaches : Relation.ReflTransGen (Traffic.Step toClient toServer)
      ⟨clientMoves calls, serverMoves calls, 0, 0⟩ t) : t.near ≠ [] := by
  obtain ⟨before, header, payload, after, echoed, parts, untaken, unsent⟩ := overruns
  obtain ⟨nearPoint, ofNear, nearReads, nearWrites⟩ := clientMoves_upTo parts
  obtain ⟨farPoint, ofFar, farReads, farWrites⟩ := serverMoves_upTo calls echoed
  have holds : Traffic.HoldUp toClient toServer nearPoint farPoint :=
    ⟨by omega, by omega⟩
  obtain ⟨nearDone, farDone, accounts, before, _⟩ := holds.forever ofNear ofFar reaches
  intro ended
  have all := accounts.near
  rw [ended, List.append_nil] at all
  rw [all] at before
  exact before ofNear

end Stuck

/-- The client has made all its calls and has a reply for each that asked for one. -/
structure Completed (calls : List Call) (s : Connection) : Prop where
  idle : s.near.running = none
  made : s.near.memory.calls = []
  replied : (receivedFrames s.near.memory.log).length = calls.countP Call.receives

theorem flushed_memory {τ ε α : Type} (party : Party τ ε α) :
    party.flushed.memory = party.memory := by
  obtain ⟨memory, running⟩ := party
  rcases running with _ | (_ | _ | _ | _ | _ | _) <;> rfl

theorem agrees_of_leads {busid : String} {devid : UInt32} {reply : OpRepImport}
    {calls : List Call} (importable : ImportableBusid busid) (accepted : reply.Accepted)
    (valid : ∀ call ∈ calls, call.Valid) {s : Connection}
    (leads : Network.Leads clientTask serverTask (Connection.start busid devid reply calls) s) :
    Agrees calls s := by
  have starts := leads_milestone busid devid reply importable accepted valid
  obtain ⟨last, final, onward, quiet, near, far, _⟩ :=
    (Milestone.first valid).finish busid devid reply
  obtain ⟨total, all_ways⟩ := (starts.trans onward).all quiet
  obtain ⟨w, path⟩ := leads
  obtain ⟨rest, finish, _⟩ := all_ways w s path
  exact (last.agrees near far).earlier finish

section Narrow

variable {busid : String} {devid : UInt32} {reply : OpRepImport} {calls : List Call}
variable {toClient toServer : Nat}

theorem agrees_of_narrow (importable : ImportableBusid busid) (accepted : reply.Accepted)
    (valid : ∀ call ∈ calls, call.Valid) {w : Nat} {s : Connection}
    (path : Path (Network.NarrowStep clientTask serverTask toClient toServer) w
      (Connection.start busid devid reply calls) s) : Agrees calls s := by
  have agrees := agrees_of_leads importable accepted valid (Network.leads_flush path)
  have near : s.flush.near.memory = s.near.memory := flushed_memory s.near
  have far : s.flush.far.memory = s.far.memory := flushed_memory s.far
  exact {
    client := fun result mem => agrees.client result (by rwa [near])
    server := fun result mem => agrees.server result (by rwa [far])
    replies := by rw [← near]; exact agrees.replies }

/-- Where nothing moves any more, all calls are made if and only if the client does not
outrun the connection. -/
theorem completed_iff (someClient : 0 < toClient) (someServer : 0 < toServer) (fed : Fed 0 calls)
    {s : Connection} {t : Traffic} {sent work : Nat}
    {log : List (Outcome HandshakeError ClientResult)}
    {farFinal : Party Server (AcceptError ⊕ ProtocolError) ServerResult}
    (taken : (receivedFrames log).length = calls.countP Call.receives)
    (reaches : Relation.ReflTransGen (Traffic.Step toClient toServer)
      ⟨clientMoves calls, serverMoves calls, 0, 0⟩ t)
    (carries : Network.Carries clientTask serverTask
      ⟨clientAt busid devid reply sent [] log, none⟩ farFinal work s t)
    (stuck : ∀ v s', ¬Network.NarrowStep clientTask serverTask toClient toServer v s s') :
    Completed calls s ↔ ¬Overruns toClient toServer calls := by
  have nearStuck : ∀ v s', ¬Network.NearNarrowStep clientTask toServer v s s' :=
    fun v s' step => stuck v s' (.near step)
  have farStuck : ∀ v s', ¬Network.NearNarrowStep serverTask toClient v s.swap s' :=
    fun v s' step => stuck v s'.swap (.far step)
  constructor
  · intro completed overruns
    exact near_ne_nil_of_overruns overruns reaches (carries.over_near nearStuck completed.idle)
  · intro keeps
    obtain ⟨nearDone, farDone, accounts⟩ := Traffic.exists_accounts reaches
    have near := carries.stuck_near nearStuck
    have far := carries.swap.stuck_near farStuck
    have ended := over_of_stuck someClient someServer fed keeps accounts
      (near.imp_left And.right) (far.imp_left And.right)
    rcases near with ⟨final, _⟩ | ⟨rest, next, _⟩ | ⟨rest, next, _⟩
    · exact ⟨by rw [final], by rw [final]; rfl, by rw [final]; exact taken⟩
    · rw [ended] at next
      cases next
    · rw [ended] at next
      cases next

end Narrow

/-- Where each direction holds only so many bytes, nothing goes wrong that does not go
wrong where they hold everything, and every run ends. It ends with all calls made if and
only if the client does not outrun the connection. -/
theorem narrow_connection {busid : String} {devid : UInt32} {reply : OpRepImport}
    {calls : List Call} {toClient toServer : Nat} (someClient : 0 < toClient)
    (someServer : 0 < toServer) (importable : ImportableBusid busid)
    (accepted : reply.Accepted) (valid : ∀ call ∈ calls, call.Valid) (fed : Fed 0 calls) :
    ∃ total, ∀ w s,
      Path (Network.NarrowStep clientTask serverTask toClient toServer) w
        (Connection.start busid devid reply calls) s →
      w ≤ total ∧ Agrees calls s ∧
        ((∀ v t, ¬Network.NarrowStep clientTask serverTask toClient toServer v s t) →
          (Completed calls s ↔ ¬Overruns toClient toServer calls)) := by
  obtain ⟨total, sent, log, serverLog, taken, carries⟩ :=
    exists_carries busid devid reply importable accepted valid fed
  refine ⟨total, fun w s path => ?_⟩
  obtain ⟨left, traffic, sum, reaches, carries⟩ := carries.run path
  exact ⟨by omega, agrees_of_narrow importable accepted valid path,
    completed_iff someClient someServer fed taken reaches carries⟩

/-- Two unlink requests, both sent before either reply is taken. -/
def unlinkTwice : List Call :=
  [.sendHeader unlinkRequest none, .sendHeader unlinkRequest none, .recvHeader, .recvHeader]

/-- Where either direction holds one byte the two parties end up waiting for each
other, and where it holds 64 all calls are made. -/
theorem narrow_connection_unlinkTwice :
    (∃ total, ∀ w s, Path (Network.NarrowStep clientTask serverTask 1 1) w
        (Connection.start "1-1.2.3" 65539 makeOpRepImportOk unlinkTwice) s →
      w ≤ total ∧ Agrees unlinkTwice s ∧
        ((∀ v t, ¬Network.NarrowStep clientTask serverTask 1 1 v s t) →
          ¬Completed unlinkTwice s)) ∧
      ∃ total, ∀ w s, Path (Network.NarrowStep clientTask serverTask 64 64) w
        (Connection.start "1-1.2.3" 65539 makeOpRepImportOk unlinkTwice) s →
      w ≤ total ∧ Agrees unlinkTwice s ∧
        ((∀ v t, ¬Network.NarrowStep clientTask serverTask 64 64 v s t) →
          Completed unlinkTwice s) := by
  have importable : ImportableBusid "1-1.2.3" := ⟨by decide, by decide⟩
  have accepted : makeOpRepImportOk.Accepted := ⟨by decide, by decide, by decide⟩
  have other : ¬Constants.cmdUnlink = Constants.cmdSubmit := by decide
  have request : ValidRequest unlinkRequest none :=
    ⟨Or.inr rfl, Or.inl rfl, fun hc => absurd hc other, fun hc => absurd hc other⟩
  have valid : ∀ call ∈ unlinkTwice, call.Valid :=
    List.forall_mem_cons.mpr ⟨request, List.forall_mem_cons.mpr ⟨request,
      List.forall_mem_cons.mpr ⟨trivial, List.forall_mem_singleton.mpr trivial⟩⟩⟩
  have outruns : Overruns 1 1 unlinkTwice :=
    ⟨[.sendHeader unlinkRequest none], unlinkRequest, none, [.recvHeader, .recvHeader], 1, rfl,
      by decide, by decide⟩
  have keeps : ¬Overruns 64 64 unlinkTwice := by
    refine not_overruns fun before _ _ _ _ => Or.inr ?_
    have most := requestBytes_le unlinkTwice (before.countP Call.sends + 1)
    have whole : (requestSizes unlinkTwice).sum = 96 := rfl
    omega
  obtain ⟨total, runs⟩ := @narrow_connection "1-1.2.3" 65539 makeOpRepImportOk unlinkTwice 1 1
    (by decide) (by decide) importable accepted valid trivial
  obtain ⟨total', runs'⟩ := @narrow_connection "1-1.2.3" 65539 makeOpRepImportOk unlinkTwice 64 64
    (by decide) (by decide) importable accepted valid trivial
  refine ⟨⟨total, fun w s path => ?_⟩, ⟨total', fun w s path => ?_⟩⟩
  · obtain ⟨short, agrees, rest⟩ := runs w s path
    exact ⟨short, agrees, fun stuck completed => (rest stuck).mp completed outruns⟩
  · obtain ⟨short, agrees, rest⟩ := runs' w s path
    exact ⟨short, agrees, fun stuck => (rest stuck).mpr keeps⟩

end EasyUsb
