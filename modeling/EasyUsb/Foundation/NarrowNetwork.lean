import EasyUsb.Foundation.Network
import EasyUsb.Foundation.Traffic

namespace Foundation

namespace Network

variable {τ ε α τ' ε' α' : Type}

/-- A step at the near end of a connection of which the direction to the far end holds
only so many bytes. What has been written waits there until the other party asks for it,
so a write goes on piece by piece as there is room, and a read collects its bytes piece
by piece. -/
inductive NearNarrowStep (task : Task τ ε α) (room : Nat) :
    Nat → Network τ ε α τ' ε' α' → Network τ ε α τ' ε' α' → Prop where
  | act {s : Network τ ε α τ' ε' α'} {party : Party τ ε α} {count : Nat}
    (moved : s.near.advance task s.toNear.received = some (party, count, [])) :
    NearNarrowStep task room 1 s { s with near := party, toNear := s.toNear.pull count }
  | write {s : Network τ ε α τ' ε' α'} {memory : τ} {bytes : List UInt8}
    {next : Except String Unit → Program ε α} {k : Nat}
    (writing : s.near = ⟨memory, some (.writeAll bytes next)⟩) (some_bytes : 0 < k)
    (left : k ≤ bytes.length) (fits : s.toFar.inFlight.length + k ≤ room) :
    NearNarrowStep task room k s { s with
      near := ⟨memory, some (.writeAll (bytes.drop k) next)⟩
      toFar := s.toFar.push (bytes.take k) }
  | deliver {s : Network τ ε α τ' ε' α'} {memory : τ} {count : Nat}
    {next : Except String (List UInt8) → Program ε α} {k : Nat}
    (reading : s.near = ⟨memory, some (.readExact count next)⟩) (some_bytes : 0 < k)
    (wanted : s.toNear.received.length + k ≤ count) (sent : k ≤ s.toNear.inFlight.length) :
    NearNarrowStep task room k s { s with toNear := s.toNear.deliver k }

inductive NarrowStep (near : Task τ ε α) (far : Task τ' ε' α') (roomNear roomFar : Nat) :
    Nat → Network τ ε α τ' ε' α' → Network τ ε α τ' ε' α' → Prop where
  | near {w : Nat} {s t : Network τ ε α τ' ε' α'} (step : NearNarrowStep near roomFar w s t) :
    NarrowStep near far roomNear roomFar w s t
  | far {w : Nat} {s t : Network τ ε α τ' ε' α'}
    (step : NearNarrowStep far roomNear w s.swap t.swap) :
    NarrowStep near far roomNear roomFar w s t

end Network

namespace Party

variable {τ ε α : Type}

/-- What is left of the write that a party is at. -/
def unsent (party : Party τ ε α) : List UInt8 :=
  match party.running with
  | some (.writeAll bytes _) => bytes
  | _ => []

/-- A party past the write that it is at. -/
def flushed (party : Party τ ε α) : Party τ ε α :=
  match party.running with
  | some (.writeAll _ next) => { party with running := some (next (.ok ())) }
  | _ => party

end Party

namespace Network

variable {τ ε α τ' ε' α' : Type} {near : Task τ ε α} {far : Task τ' ε' α'}
variable {roomNear roomFar : Nat}

/-- The same connection with both writes already made. -/
def flush (s : Network τ ε α τ' ε' α') : Network τ ε α τ' ε' α' :=
  ⟨s.near.flushed, s.far.flushed, s.toNear.push s.far.unsent, s.toFar.push s.near.unsent⟩

theorem push_nil (pipe : Pipe) : pipe.push [] = pipe := by rw [Pipe.push, List.append_nil]

theorem leads_flushed (party : Party τ ε α) (other : Party τ' ε' α') (toNear toFar : Pipe) :
    Leads near far ⟨party, other, toNear, toFar⟩
      ⟨party.flushed, other, toNear, toFar.push party.unsent⟩ := by
  obtain ⟨memory, running⟩ := party
  cases running with
  | none =>
    rw [Party.unsent, push_nil]
    exact .refl _
  | some p =>
    cases p with
    | writeAll bytes next =>
      exact @leads_act _ _ _ _ _ _ near far ⟨⟨memory, some (.writeAll bytes next)⟩, other, toNear,
        toFar⟩ _ _ _ rfl
    | _ =>
      rw [Party.unsent, push_nil]
      exact .refl _

/-- What a party does without writing, it also does when the write before it and the
one after it are made in one piece. -/
theorem leads_flushed_act {party party' : Party τ ε α} {toNear : Pipe} {count : Nat}
    (moved : party.advance near toNear.received = some (party', count, []))
    (other : Party τ' ε' α') (toFar : Pipe) :
    Leads near far ⟨party.flushed, other, toNear, toFar.push party.unsent⟩
      ⟨party'.flushed, other, toNear.pull count, toFar.push party'.unsent⟩ := by
  have onward := @leads_flushed _ _ _ _ _ _ near far party' other (toNear.pull count) toFar
  have acts : party.flushed = party → party.unsent = [] →
      Leads near far ⟨party.flushed, other, toNear, toFar.push party.unsent⟩
        ⟨party'.flushed, other, toNear.pull count, toFar.push party'.unsent⟩ := by
    intro same nothing
    have step := @leads_act _ _ _ _ _ _ near far ⟨party, other, toNear, toFar⟩ _ _ _ moved
    rw [push_nil] at step
    rw [same, nothing, push_nil]
    exact step.trans onward
  obtain ⟨memory, running⟩ := party
  cases running with
  | none => exact acts rfl rfl
  | some p =>
    cases p with
    | writeAll bytes next =>
      cases moved
      rw [Party.unsent, push_nil]
      exact onward
    | _ => exact acts rfl rfl

theorem NearNarrowStep.flush {room w : Nat} {s t : Network τ ε α τ' ε' α'}
    (step : NearNarrowStep near room w s t) : Leads near far s.flush t.flush := by
  obtain ⟨party, other, toNear, toFar⟩ := s
  cases step with
  | act moved =>
    exact @leads_flushed_act _ _ _ _ _ _ near far _ _ (toNear.push other.unsent) _ moved _ _
  | @write _ memory bytes next _ writing some_bytes left fits =>
    cases writing
    have whole : (toFar.push (bytes.take w)).push (bytes.drop w) = toFar.push bytes := by
      rw [Pipe.push, Pipe.push, Pipe.push, List.append_assoc, List.take_append_drop]
    show Leads near far ⟨⟨memory, some (next (.ok ()))⟩, other.flushed, toNear.push other.unsent,
      toFar.push bytes⟩ ⟨_, _, _, (toFar.push (bytes.take w)).push (bytes.drop w)⟩
    rw [whole]
    exact .refl _
  | deliver reading some_bytes wanted sent =>
    have longer : w ≤ (toNear.push other.unsent).inFlight.length := by
      show w ≤ (toNear.inFlight ++ _).length
      rw [List.length_append]
      exact Nat.le_add_right_of_le sent
    have arrives : NearStep near w (Network.flush ⟨party, other, toNear, toFar⟩)
        ⟨party.flushed, other.flushed, (toNear.push other.unsent).deliver w,
          toFar.push party.unsent⟩ := .deliver some_bytes longer
    rw [Pipe.push_deliver sent] at arrives
    exact ⟨w, .single (.near arrives)⟩

/-- Whatever happens where the directions hold little also happens, to the same
memories, where they hold everything. -/
theorem leads_flush {w : Nat} {s t : Network τ ε α τ' ε' α'}
    (path : Path (NarrowStep near far roomNear roomFar) w s t) :
    Leads near far s.flush t.flush := by
  induction path with
  | refl s => exact .refl _
  | cons step rest ih =>
    refine Leads.trans ?_ ih
    cases step with
    | near step => exact step.flush
    | far step => exact (NearNarrowStep.flush step).swap

end Network

/-- The course of a party that comes to rest as `final`: how many steps it takes besides
moving bytes, what it still reads after the bytes it has of the read it is at, what it
writes, and its moves. A party that rests without reading leaves what comes unread. -/
inductive Follows {τ ε α : Type} (task : Task τ ε α) (final : Party τ ε α) :
    Nat → Party τ ε α → List UInt8 → List UInt8 → List UInt8 → List Move → Prop where
  | rest {ins : List UInt8} (rests : final.advance task [] = none)
    (deaf : ins = [] ∨ final.running = none) : Follows task final 0 final [] ins [] []
  | act {n : Nat} {party party' : Party τ ε α} {ins outs : List UInt8} {moves : List Move}
    (moved : party.advance task [] = some (party', 0, []))
    (onward : Follows task final n party' [] ins outs moves) :
    Follows task final (n + 1) party [] ins outs moves
  | read {n count : Nat} {memory : τ} {next : Except String (List UInt8) → Program ε α}
    {got more ins outs : List UInt8} {moves : List Move} (size : (got ++ more).length = count)
    (onward : Follows task final n ⟨memory, some (next (.ok (got ++ more)))⟩ [] ins outs moves) :
    Follows task final (n + 1) ⟨memory, some (.readExact count next)⟩ got (more ++ ins) outs
      (List.replicate more.length .read ++ moves)
  | write {n : Nat} {memory : τ} {bytes ins outs : List UInt8}
    {next : Except String Unit → Program ε α} {moves : List Move}
    (onward : Follows task final n ⟨memory, some (next (.ok ()))⟩ [] ins outs moves) :
    Follows task final (n + 1) ⟨memory, some (.writeAll bytes next)⟩ [] ins (bytes ++ outs)
      (List.replicate bytes.length .write ++ moves)

namespace Network

variable {τ ε α τ' ε' α' : Type} {near : Task τ ε α} {far : Task τ' ε' α'}
variable {nearFinal : Party τ ε α} {farFinal : Party τ' ε' α'}

/-- A connection on which both parties have their courses, each reading what the other
writes: the work that is left on it, and the traffic it comes to. -/
inductive Carries (near : Task τ ε α) (far : Task τ' ε' α') (nearFinal : Party τ ε α)
    (farFinal : Party τ' ε' α') : Nat → Network τ ε α τ' ε' α' → Traffic → Prop where
  | mk {s : Network τ ε α τ' ε' α'} {m n : Nat} {outs outs' : List UInt8} {moves moves' : List Move}
    (nearCourse : Follows near nearFinal m s.near s.toNear.received (s.toNear.inFlight ++ outs')
      outs moves)
    (farCourse : Follows far farFinal n s.far s.toFar.received (s.toFar.inFlight ++ outs)
      outs' moves') :
    Carries near far nearFinal farFinal (m + moves.length + (n + moves'.length)) s
      ⟨moves, moves', s.toNear.inFlight.length, s.toFar.inFlight.length⟩

theorem Carries.swap {work : Nat} {s : Network τ ε α τ' ε' α'} {t : Traffic}
    (carries : Carries near far nearFinal farFinal work s t) :
    Carries far near farFinal nearFinal work s.swap t.swap := by
  cases carries with
  | mk nearCourse farCourse =>
    rw [Nat.add_comm]
    exact @Carries.mk _ _ _ _ _ _ far near farFinal nearFinal s.swap _ _ _ _ _ _ farCourse
      nearCourse

/-- A step that moves no byte takes a party on along its course. -/
theorem follows_act {party party' : Party τ ε α} {n count : Nat} {got ins outs : List UInt8}
    {moves : List Move} (course : Follows near nearFinal n party got ins outs moves)
    (moved : party.advance near got = some (party', count, [])) :
    ∃ m, n = m + 1 ∧ got.drop count = [] ∧
      Follows near nearFinal m party' [] ins outs moves := by
  cases course with
  | rest rests => cases rests.symm.trans moved
  | act first onward =>
    cases first.symm.trans moved
    exact ⟨_, rfl, rfl, onward⟩
  | @read m wanted memory next _ more _ _ _ size onward =>
    by_cases enough : wanted ≤ got.length
    · rw [advance_readExact enough] at moved
      cases moved
      have none_left : more = [] := by
        rw [List.length_append] at size
        exact List.length_eq_zero_iff.mp (by omega)
      subst none_left
      rw [List.append_nil] at size onward
      rw [← size, List.take_length]
      exact ⟨_, rfl, List.drop_length, onward⟩
    · have waits : (none : Option (Party τ ε α × Nat × List UInt8)) =
          some (party', count, []) := (if_neg enough).symm.trans moved
      cases waits
  | write onward =>
    cases moved
    exact ⟨_, rfl, rfl, onward⟩

theorem follows_write {memory : τ} {bytes got ins outs : List UInt8}
    {next : Except String Unit → Program ε α} {n k : Nat} {moves : List Move}
    (course : Follows near nearFinal n ⟨memory, some (.writeAll bytes next)⟩ got ins outs moves)
    (some_bytes : 0 < k) (left : k ≤ bytes.length) :
    ∃ outs' moves', outs = bytes.take k ++ outs' ∧ moves = List.replicate k .write ++ moves' ∧
      Follows near nearFinal n ⟨memory, some (.writeAll (bytes.drop k) next)⟩ got ins outs'
        moves' := by
  cases course with
  | rest rests => cases rests
  | act moved =>
    cases moved
    exact absurd some_bytes (Nat.not_lt.mpr left)
  | @write _ _ _ _ outs _ moves onward =>
    refine ⟨bytes.drop k ++ outs, List.replicate (bytes.drop k).length .write ++ moves, ?_, ?_,
      .write onward⟩
    · rw [← List.append_assoc, List.take_append_drop]
    · rw [← List.append_assoc, List.replicate_append_replicate, List.length_drop,
        Nat.add_sub_cancel' left]

theorem follows_read {memory : τ} {coming got ins outs : List UInt8} {count n k : Nat}
    {next : Except String (List UInt8) → Program ε α} {moves : List Move}
    (course : Follows near nearFinal n ⟨memory, some (.readExact count next)⟩ got
      (coming ++ ins) outs moves) (some_bytes : 0 < k) (wanted : got.length + k ≤ count)
    (sent : k ≤ coming.length) :
    ∃ moves', moves = List.replicate k .read ++ moves' ∧
      Follows near nearFinal n ⟨memory, some (.readExact count next)⟩ (got ++ coming.take k)
        (coming.drop k ++ ins) outs moves' := by
  generalize stream : coming ++ ins = all at course
  cases course with
  | rest rests deaf =>
    rcases deaf with nothing | silent
    · subst nothing
      rw [List.append_eq_nil_iff] at stream
      rw [stream.1] at sent
      exact absurd some_bytes (Nat.not_lt.mpr sent)
    · cases silent
  | act moved =>
    rcases Nat.eq_zero_or_pos count with zero | pos
    · omega
    · have waits : (none : Option (Party τ ε α × Nat × List UInt8)) = some (_, 0, []) :=
        (if_neg (Nat.not_le.mpr pos)).symm.trans moved
      cases waits
  | @read m _ _ _ _ more ins' _ moves size onward =>
    rw [List.length_append] at size
    have enough : k ≤ more.length := by omega
    have front : coming.take k = more.take k := by
      have both := congrArg (List.take k) stream
      rwa [List.take_append_of_le_length sent, List.take_append_of_le_length enough] at both
    have rest : coming.drop k ++ ins = more.drop k ++ ins' := by
      have both := congrArg (List.drop k) stream
      rwa [List.drop_append_of_le_length sent, List.drop_append_of_le_length enough] at both
    have whole : got ++ coming.take k ++ more.drop k = got ++ more := by
      rw [front, List.append_assoc, List.take_append_drop]
    refine ⟨List.replicate (more.drop k).length .read ++ moves, ?_, ?_⟩
    · rw [← List.append_assoc, List.replicate_append_replicate, List.length_drop,
        Nat.add_sub_cancel' enough]
    · rw [rest]
      refine .read ?_ ?_
      · rw [whole, List.length_append]
        exact size
      · rw [whole]
        exact onward

theorem Carries.step_near {room w work : Nat} {s s' : Network τ ε α τ' ε' α'} {t : Traffic}
    (carries : Carries near far nearFinal farFinal work s t)
    (step : NearNarrowStep near room w s s') :
    ∃ work' t', work = w + work' ∧ Traffic.NearStep room t t' ∧
      Carries near far nearFinal farFinal work' s' t' := by
  obtain ⟨party, other, ⟨coming, got⟩, toFar⟩ := s
  cases carries with
  | @mk _ m n outs outs' moves moves' nearCourse farCourse =>
    cases step with
    | @act _ party' count moved =>
      obtain ⟨m, rfl, emptied, onward⟩ := follows_act nearCourse moved
      refine ⟨m + moves.length + (n + moves'.length), _, by omega,
        .read (List.nil_append _).symm (Nat.zero_le _), .mk ?_ farCourse⟩
      show Follows near nearFinal m party' (got.drop count) _ _ _
      rw [emptied]
      exact onward
    | @write _ memory bytes next _ writing some_bytes left fits =>
      cases writing
      obtain ⟨outs, moves, rfl, rfl, onward⟩ := follows_write nearCourse some_bytes left
      have longer : (toFar.push (bytes.take w)).inFlight.length = toFar.inFlight.length + w := by
        show (toFar.inFlight ++ bytes.take w).length = _
        rw [List.length_append, List.length_take_of_le left]
      rw [← List.append_assoc] at farCourse
      have after := @Carries.mk _ _ _ _ _ _ near far nearFinal farFinal
        ⟨_, other, ⟨coming, got⟩, toFar.push (bytes.take w)⟩ _ _ _ _ _ _ onward farCourse
      rw [longer] at after
      refine ⟨_, _, ?_, .write rfl fits, after⟩
      rw [List.length_append, List.length_replicate]
      omega
    | @deliver _ memory count next _ reading some_bytes wanted sent =>
      cases reading
      obtain ⟨moves, rfl, onward⟩ := follows_read nearCourse some_bytes wanted sent
      have after := @Carries.mk _ _ _ _ _ _ near far nearFinal farFinal
        ⟨_, other, ⟨coming.drop w, got ++ coming.take w⟩, toFar⟩ _ _ _ _ _ _ onward farCourse
      rw [List.length_drop] at after
      refine ⟨_, _, ?_, .read rfl sent, after⟩
      rw [List.length_append, List.length_replicate]
      omega

theorem Carries.step {roomNear roomFar w work : Nat} {s s' : Network τ ε α τ' ε' α'}
    {t : Traffic} (carries : Carries near far nearFinal farFinal work s t)
    (step : NarrowStep near far roomNear roomFar w s s') :
    ∃ work' t', work = w + work' ∧ Traffic.Step roomNear roomFar t t' ∧
      Carries near far nearFinal farFinal work' s' t' := by
  cases step with
  | near step =>
    obtain ⟨work', t', sum, moves, after⟩ := carries.step_near step
    exact ⟨work', t', sum, .near moves, after⟩
  | far step =>
    obtain ⟨work', t', sum, moves, after⟩ := carries.swap.step_near step
    exact ⟨work', t'.swap, sum, .far moves, after.swap⟩

/-- In every run the two parties keep to their courses, and the work that is done and
the work that is left have the same sum. -/
theorem Carries.run {roomNear roomFar w work : Nat} {s s' : Network τ ε α τ' ε' α'}
    {t : Traffic} (carries : Carries near far nearFinal farFinal work s t)
    (path : Path (NarrowStep near far roomNear roomFar) w s s') :
    ∃ work' t', work = w + work' ∧
      Relation.ReflTransGen (Traffic.Step roomNear roomFar) t t' ∧
      Carries near far nearFinal farFinal work' s' t' := by
  induction path generalizing work t with
  | refl s => exact ⟨work, t, (Nat.zero_add _).symm, .refl, carries⟩
  | cons step rest ih =>
    obtain ⟨mid, t', sum, moves, after⟩ := carries.step step
    obtain ⟨work', t'', sum', onward, final⟩ := ih after
    exact ⟨work', t'', by omega, .head moves onward, final⟩

/-- A near party that cannot move is at the end of its course, or the traffic does not
let it move. -/
theorem Carries.stuck_near {room work : Nat} {s : Network τ ε α τ' ε' α'} {t : Traffic}
    (carries : Carries near far nearFinal farFinal work s t)
    (stuck : ∀ w s', ¬NearNarrowStep near room w s s') :
    (s.near = nearFinal ∧ t.near = []) ∨ (∃ rest, t.near = .read :: rest ∧ t.toNear = 0) ∨
      ∃ rest, t.near = .write :: rest ∧ room ≤ t.toFar := by
  obtain ⟨party, other, ⟨coming, got⟩, toFar⟩ := s
  cases carries with
  | @mk _ m n outs outs' moves moves' nearCourse farCourse =>
    generalize coming ++ outs' = ins at nearCourse
    cases nearCourse with
    | rest => exact Or.inl ⟨rfl, rfl⟩
    | act moved => exact absurd (.act moved) (stuck _ _)
    | @read _ count memory next _ more _ _ moves size onward =>
      right; left
      rcases more with _ | ⟨b, more⟩
      · rw [List.append_nil] at size
        exact absurd (.act (advance_readExact (Nat.le_of_eq size.symm))) (stuck _ _)
      · refine ⟨List.replicate more.length .read ++ moves, rfl, ?_⟩
        rw [List.length_append, List.length_cons] at size
        have wanted : got.length + 1 ≤ count := by
          have size : got.length + (more.length + 1) = count := size
          omega
        by_contra some_bytes
        exact stuck _ _ (.deliver rfl Nat.one_pos wanted (Nat.pos_of_ne_zero some_bytes))
    | @write _ memory bytes _ _ next moves onward =>
      right; right
      rcases bytes with _ | ⟨b, bytes⟩
      · exact absurd (.act rfl) (stuck _ _)
      · refine ⟨List.replicate bytes.length .write ++ moves, rfl, ?_⟩
        by_contra space
        exact stuck _ _ (.write rfl Nat.one_pos (Nat.succ_pos _) (Nat.lt_of_not_le space))

/-- A near party without a program that cannot move is at the end of its course. -/
theorem Carries.over_near {room work : Nat} {s : Network τ ε α τ' ε' α'} {t : Traffic}
    (carries : Carries near far nearFinal farFinal work s t)
    (stuck : ∀ w s', ¬NearNarrowStep near room w s s') (idle : s.near.running = none) :
    t.near = [] := by
  obtain ⟨party, other, ⟨coming, got⟩, toFar⟩ := s
  cases carries with
  | @mk _ m n outs outs' moves moves' nearCourse farCourse =>
    generalize coming ++ outs' = ins at nearCourse
    cases nearCourse with
    | rest => rfl
    | act moved => exact absurd (.act moved) (stuck _ _)
    | read => cases idle
    | write => cases idle

end Network

section

variable {τ ε α : Type} {task : Task τ ε α} {final : Party τ ε α} {memory : τ} {n : Nat}
variable {p q : Program ε α} {ins outs : List UInt8} {moves : List Move}

theorem Follows.begin (job : task.job memory = some p)
    (onward : Follows task final n ⟨memory, some p⟩ [] ins outs moves) :
    Follows task final (n + 1) ⟨memory, none⟩ [] ins outs moves := by
  refine .act ?_ onward
  rw [Party.advance, job]
  rfl

theorem Follows.done {a : α}
    (onward : Follows task final n ⟨task.record memory (.ok a), none⟩ [] ins outs moves) :
    Follows task final (n + 1) ⟨memory, some (.done a)⟩ [] ins outs moves :=
  .act rfl onward

/-- A party first reads what its program exchanges without writing. -/
theorem exists_follows_reads {bytes wrote : List UInt8} (exchange : p.Exchanges bytes wrote q)
    (silent : wrote = [])
    (onward : Follows task final n ⟨memory, some q⟩ [] ins outs moves) :
    ∃ m, Follows task final m ⟨memory, some p⟩ [] (bytes ++ ins) outs
      (List.replicate bytes.length .read ++ moves) := by
  induction exchange with
  | refl p => exact ⟨n, onward⟩
  | @readExact count next bytes more _ q size rest ih =>
    obtain ⟨m, course⟩ := ih silent onward
    refine ⟨m + 1, ?_⟩
    rw [List.append_assoc, List.length_append, ← List.replicate_append_replicate,
      List.append_assoc]
    exact @Follows.read _ _ _ _ _ _ _ _ _ [] _ _ _ _ size course
  | writeAll rest ih =>
    obtain ⟨rfl, none_left⟩ := List.append_eq_nil_iff.mp silent
    obtain ⟨m, course⟩ := ih none_left onward
    exact ⟨m + 1, .write course⟩

/-- A party first writes what its program exchanges without reading. -/
theorem exists_follows_writes {bytes taken : List UInt8} (exchange : p.Exchanges taken bytes q)
    (unread : taken = [])
    (onward : Follows task final n ⟨memory, some q⟩ [] ins outs moves) :
    ∃ m, Follows task final m ⟨memory, some p⟩ [] ins (bytes ++ outs)
      (List.replicate bytes.length .write ++ moves) := by
  induction exchange with
  | refl p => exact ⟨n, onward⟩
  | readExact size rest ih =>
    obtain ⟨rfl, none_left⟩ := List.append_eq_nil_iff.mp unread
    obtain ⟨m, course⟩ := ih none_left onward
    exact ⟨m + 1, @Follows.read _ _ _ _ _ _ _ _ _ [] [] _ _ _ size course⟩
  | writeAll rest ih =>
    obtain ⟨m, course⟩ := ih unread onward
    refine ⟨m + 1, ?_⟩
    rw [List.append_assoc, List.length_append, ← List.replicate_append_replicate,
      List.append_assoc]
    exact .write course

/-- What is left of an exchange after its first reads. -/
theorem Program.Exchanges.afterReads {a : α} {bytes wrote : List UInt8}
    (first : p.Exchanges bytes wrote q) (silent : wrote = [])
    (whole : p.Exchanges (bytes ++ ins) outs (.done a)) :
    q.Exchanges ins outs (.done a) := by
  induction first with
  | refl p => exact whole
  | @readExact count next bytes more _ q size rest ih =>
    generalize stream : bytes ++ more ++ ins = all at whole
    cases whole with
    | readExact size' rest' =>
      rw [List.append_assoc] at stream
      obtain ⟨rfl, rfl⟩ := List.append_inj stream (size.trans size'.symm)
      exact ih silent rest'
  | writeAll rest ih =>
    obtain ⟨rfl, none_left⟩ := List.append_eq_nil_iff.mp silent
    generalize stream : _ ++ ins = all at whole
    cases whole with
    | writeAll rest' =>
      subst stream
      exact ih none_left rest'

end

end Foundation
