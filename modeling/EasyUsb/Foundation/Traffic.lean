import Mathlib.Data.List.Infix
import Mathlib.Logic.Relation

namespace Foundation

/-- What a party does with a connection, byte by byte. -/
inductive Move where
  | read
  | write
  deriving DecidableEq

section

variable (k : Nat) (moves : List Move)

@[simp] theorem count_read_writes : (List.replicate k Move.write).count .read = 0 := by
  simp [List.count_replicate]

@[simp] theorem count_write_reads : (List.replicate k Move.read).count .write = 0 := by
  simp [List.count_replicate]

theorem count_read_append_reads :
    (List.replicate k Move.read ++ moves).count .read = k + moves.count .read := by
  simp

theorem count_write_append_reads :
    (List.replicate k Move.read ++ moves).count .write = moves.count .write := by
  simp

theorem count_read_append_writes :
    (List.replicate k Move.write ++ moves).count .read = moves.count .read := by
  simp

theorem count_write_append_writes :
    (List.replicate k Move.write ++ moves).count .write = k + moves.count .write := by
  simp

end

/-- A point in some moves is in the block at their head or after it. -/
theorem replicate_split {k : Nat} {move next : Move} {moves done rest : List Move}
    (split : List.replicate k move ++ moves = done ++ next :: rest) :
    (next = move ∧ ∃ i < k, done = List.replicate i move) ∨
      ∃ later, done = List.replicate k move ++ later ∧ moves = later ++ next :: rest := by
  rcases List.append_eq_append_iff.mp split with ⟨later, all, after⟩ | ⟨left, block, after⟩
  · exact Or.inr ⟨later, all, after⟩
  · rcases left with _ | ⟨first, left⟩
    · rw [List.append_nil] at block
      exact Or.inr ⟨[], by rw [block, List.append_nil], after.symm⟩
    · obtain ⟨rfl, _⟩ := List.cons.inj after
      obtain ⟨size, same, others⟩ := List.replicate_eq_append_iff.mp block
      rw [List.length_cons] at size
      refine Or.inl ⟨?_, done.length, by omega, same⟩
      exact List.eq_of_mem_replicate (others ▸ List.mem_cons_self)

/-- Two parties with the moves they have left, and how many bytes are on their way
to each of them. -/
structure Traffic where
  near : List Move
  far : List Move
  toNear : Nat
  toFar : Nat

namespace Traffic

def swap (s : Traffic) : Traffic := ⟨s.far, s.near, s.toFar, s.toNear⟩

/-- The near party reads bytes that are there, or writes bytes that there is room for. -/
inductive NearStep (room : Nat) : Traffic → Traffic → Prop where
  | read {s : Traffic} {k : Nat} {rest : List Move}
    (next : s.near = List.replicate k .read ++ rest) (there : k ≤ s.toNear) :
    NearStep room s { s with near := rest, toNear := s.toNear - k }
  | write {s : Traffic} {k : Nat} {rest : List Move}
    (next : s.near = List.replicate k .write ++ rest) (fits : s.toFar + k ≤ room) :
    NearStep room s { s with near := rest, toFar := s.toFar + k }

/-- A step of either party, where so many bytes fit on the way to each. -/
inductive Step (roomNear roomFar : Nat) : Traffic → Traffic → Prop where
  | near {s t : Traffic} (step : NearStep roomFar s t) : Step roomNear roomFar s t
  | far {s t : Traffic} (step : NearStep roomNear s.swap t.swap) : Step roomNear roomFar s t

/-- What has been done of the moves that the parties set out with. What is on its way
has been written and not yet read. -/
structure Accounts (near far : List Move) (roomNear roomFar : Nat) (nearDone farDone : List Move)
    (s : Traffic) : Prop where
  near : nearDone ++ s.near = near
  far : farDone ++ s.far = far
  toNear : s.toNear + nearDone.count .read = farDone.count .write
  toFar : s.toFar + farDone.count .read = nearDone.count .write
  fitsNear : s.toNear ≤ roomNear
  fitsFar : s.toFar ≤ roomFar

variable {near far nearDone farDone : List Move} {roomNear roomFar : Nat} {s t : Traffic}

theorem Accounts.start (near far : List Move) (roomNear roomFar : Nat) :
    Accounts near far roomNear roomFar [] [] ⟨near, far, 0, 0⟩ :=
  ⟨rfl, rfl, rfl, rfl, Nat.zero_le _, Nat.zero_le _⟩

theorem Accounts.swap (accounts : Accounts near far roomNear roomFar nearDone farDone s) :
    Accounts far near roomFar roomNear farDone nearDone s.swap :=
  ⟨accounts.far, accounts.near, accounts.toFar, accounts.toNear, accounts.fitsFar,
    accounts.fitsNear⟩

theorem Accounts.step_near (accounts : Accounts near far roomNear roomFar nearDone farDone s)
    (step : NearStep roomFar s t) :
    ∃ more, Accounts near far roomNear roomFar (nearDone ++ more) farDone t := by
  obtain ⟨nearAll, farAll, toNear, toFar, fitsNear, fitsFar⟩ := accounts
  cases step with
  | @read k rest next there =>
    refine ⟨List.replicate k .read, ?_, farAll, ?_, ?_, ?_, fitsFar⟩
    · rw [List.append_assoc, ← next, nearAll]
    · rw [List.count_append, List.count_replicate_self]
      show s.toNear - k + _ = _
      omega
    · rw [List.count_append, List.count_replicate]
      exact toFar
    · exact Nat.le_trans (Nat.sub_le _ _) fitsNear
  | @write k rest next fits =>
    refine ⟨List.replicate k .write, ?_, farAll, ?_, ?_, fitsNear, fits⟩
    · rw [List.append_assoc, ← next, nearAll]
    · rw [List.count_append, List.count_replicate]
      exact toNear
    · rw [List.count_append, List.count_replicate_self]
      show s.toFar + k + _ = _
      omega

theorem Accounts.step (accounts : Accounts near far roomNear roomFar nearDone farDone s)
    (step : Step roomNear roomFar s t) :
    (∃ more, Accounts near far roomNear roomFar (nearDone ++ more) farDone t) ∨
      ∃ more, Accounts near far roomNear roomFar nearDone (farDone ++ more) t := by
  cases step with
  | near step => exact Or.inl (accounts.step_near step)
  | far step =>
    obtain ⟨more, after⟩ := accounts.swap.step_near step
    exact Or.inr ⟨more, after.swap⟩

/-- Two points, one in the moves of each party, that hold each other up: before either
party can be past its own, the other one has to be. -/
structure HoldUp (roomNear roomFar : Nat) (nearPoint farPoint : List Move) : Prop where
  near : roomFar + farPoint.count .read < nearPoint.count .write
  far : roomNear + nearPoint.count .read < farPoint.count .write

theorem HoldUp.swap {nearPoint farPoint : List Move}
    (holds : HoldUp roomNear roomFar nearPoint farPoint) :
    HoldUp roomFar roomNear farPoint nearPoint :=
  ⟨holds.far, holds.near⟩

theorem HoldUp.not_past {nearPoint farPoint : List Move}
    (holds : HoldUp roomNear roomFar nearPoint farPoint) (ofFar : farPoint <+: far)
    (accounts : Accounts near far roomNear roomFar nearDone farDone s)
    (before : ¬farPoint <+: farDone) : ¬nearPoint <+: nearDone := by
  intro past
  have early : farDone <+: farPoint :=
    (List.prefix_or_prefix_of_prefix ofFar ⟨_, accounts.far⟩).resolve_left before
  have reads : farDone.count .read ≤ farPoint.count .read := early.sublist.count_le _
  have writes : nearPoint.count .write ≤ nearDone.count .write := past.sublist.count_le _
  have toFar := accounts.toFar
  have fits := accounts.fitsFar
  have short := holds.near
  omega

/-- Where two points hold each other up, neither party ever gets past its own. -/
theorem HoldUp.forever {nearPoint farPoint : List Move}
    (holds : HoldUp roomNear roomFar nearPoint farPoint) (ofNear : nearPoint <+: near)
    (ofFar : farPoint <+: far)
    (reaches : Relation.ReflTransGen (Step roomNear roomFar) ⟨near, far, 0, 0⟩ s) :
    ∃ nearDone farDone, Accounts near far roomNear roomFar nearDone farDone s ∧
      ¬nearPoint <+: nearDone ∧ ¬farPoint <+: farDone := by
  induction reaches with
  | refl =>
    refine ⟨[], [], .start .., fun past => ?_, fun past => ?_⟩
    · have short := holds.near
      rw [List.prefix_nil.mp past] at short
      exact absurd short (Nat.not_lt_zero _)
    · have short := holds.far
      rw [List.prefix_nil.mp past] at short
      exact absurd short (Nat.not_lt_zero _)
  | tail _ step ih =>
    obtain ⟨nearDone, farDone, accounts, nearBefore, farBefore⟩ := ih
    rcases accounts.step step with ⟨more, after⟩ | ⟨more, after⟩
    · exact ⟨_, _, after, holds.not_past ofFar after farBefore, farBefore⟩
    · exact ⟨_, _, after, nearBefore, holds.swap.not_past ofNear after.swap nearBefore⟩

theorem exists_accounts
    (reaches : Relation.ReflTransGen (Step roomNear roomFar) ⟨near, far, 0, 0⟩ s) :
    ∃ nearDone farDone, Accounts near far roomNear roomFar nearDone farDone s := by
  induction reaches with
  | refl => exact ⟨[], [], .start ..⟩
  | tail _ step ih =>
    obtain ⟨nearDone, farDone, accounts⟩ := ih
    rcases accounts.step step with ⟨more, after⟩ | ⟨more, after⟩
    · exact ⟨_, _, after⟩
    · exact ⟨_, _, after⟩

end Traffic

end Foundation
