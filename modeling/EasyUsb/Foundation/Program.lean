import EasyUsb.Foundation.Outcome

namespace Foundation

/-- A computation over one connection. Its only contact with the outside is
`read_exact`, `write_all` and the shutdown of the write half; an i/o error
reaches it as the text of the error. -/
inductive Program (ε α : Type) where
  | done (value : α)
  | fail (error : ε)
  | panic
  | readExact (count : Nat) (next : Except String (List UInt8) → Program ε α)
  | writeAll (bytes : List UInt8) (next : Except String Unit → Program ε α)
  | shutdown (next : Program ε α)

namespace Program

variable {ε ε' α β : Type}

protected def bind : Program ε α → (α → Program ε β) → Program ε β
  | done value, f => f value
  | fail error, _ => fail error
  | panic, _ => panic
  | readExact count next, f => readExact count fun r => (next r).bind f
  | writeAll bytes next, f => writeAll bytes fun r => (next r).bind f
  | shutdown next, f => shutdown (next.bind f)

instance : Monad (Program ε) where
  pure := done
  bind := Program.bind

def ofOutcome : Outcome ε α → Program ε α
  | .ok value => done value
  | .err error => fail error
  | .panic => panic

def mapErr (g : ε → ε') : Program ε α → Program ε' α
  | done value => done value
  | fail error => fail (g error)
  | panic => panic
  | readExact count next => readExact count fun r => (next r).mapErr g
  | writeAll bytes next => writeAll bytes fun r => (next r).mapErr g
  | shutdown next => shutdown (next.mapErr g)

/-- The call as its caller sees it before any `?`: an error is a value. -/
def attempt : Program ε α → Program ε' (Except ε α)
  | done value => done (.ok value)
  | fail error => done (.error error)
  | panic => panic
  | readExact count next => readExact count fun r => (next r).attempt
  | writeAll bytes next => writeAll bytes fun r => (next r).attempt
  | shutdown next => shutdown next.attempt

/-- `stream.read_exact`, failing with the text of the i/o error. -/
def read (count : Nat) : Program String (List UInt8) :=
  readExact count fun
    | .ok bytes => done bytes
    | .error e => fail e

/-- `stream.write_all`. -/
def write (bytes : List UInt8) : Program String Unit :=
  writeAll bytes fun
    | .ok () => done ()
    | .error e => fail e

@[simp] theorem done_bind (a : α) (f : α → Program ε β) : (done a >>= f) = f a := rfl

@[simp] theorem pure_eq_done (a : α) : (pure a : Program ε α) = done a := rfl

end Program

/-- One end of a connection: the bytes its peer sends before closing, in order,
the bytes written so far, whether the write half is shut, and, when writing will
break, how many more bytes go out and the error reported then. -/
structure Socket where
  incoming : List UInt8
  outgoing : List UInt8
  writeShut : Bool
  fault : Option (Nat × String)
  deriving DecidableEq, Repr

namespace Socket

/-- `read_exact` takes exactly the bytes asked for, or drains the stream and
reports its end. -/
def read (s : Socket) (count : Nat) : Except String (List UInt8) × Socket :=
  if count ≤ s.incoming.length then
    (.ok (s.incoming.take count), { s with incoming := s.incoming.drop count })
  else (.error "early eof", { s with incoming := [] })

/-- `write_all` writes everything, or what still goes out before the error. -/
def write (s : Socket) (bytes : List UInt8) : Except String Unit × Socket :=
  if s.writeShut then (.error "Broken pipe (os error 32)", s)
  else match s.fault with
    | none => (.ok (), { s with outgoing := s.outgoing ++ bytes })
    | some (room, text) =>
      if bytes.length ≤ room then
        (.ok (), { s with
          outgoing := s.outgoing ++ bytes, fault := some (room - bytes.length, text) })
      else (.error text, { s with
        outgoing := s.outgoing ++ bytes.take room, fault := some (0, text) })

/-- Everything that is written goes out. -/
def Writable (s : Socket) : Prop := s.writeShut = false ∧ s.fault = none

theorem Writable.write {s : Socket} (writable : s.Writable) (bytes : List UInt8) :
    s.write bytes = (.ok (), { s with outgoing := s.outgoing ++ bytes }) := by
  obtain ⟨opened, sound⟩ := writable
  simp [Socket.write, opened, sound]

/-- Nothing more can be written. -/
def Broken (s : Socket) : Prop := s.writeShut = true ∨ ∃ text, s.fault = some (0, text)

theorem write_cases (s : Socket) (bytes : List UInt8) :
    (∃ fault, s.write bytes =
      (.ok (), { s with outgoing := s.outgoing ++ bytes, fault := fault })) ∨
    ∃ e s', s.write bytes = (.error e, s') ∧ s'.Broken := by
  unfold write
  by_cases shut : s.writeShut
  · exact Or.inr ⟨_, s, if_pos shut, Or.inl shut⟩
  rw [if_neg shut]
  cases fault : s.fault with
  | none => exact Or.inl ⟨none, rfl⟩
  | some limit =>
    obtain ⟨room, text⟩ := limit
    by_cases fits : bytes.length ≤ room
    · exact Or.inl ⟨_, if_pos fits⟩
    · exact Or.inr ⟨text, _, if_neg fits, Or.inr ⟨text, rfl⟩⟩

theorem outgoing_of_write {s s' : Socket} {bytes : List UInt8}
    (written : s.write bytes = (.ok (), s')) : s'.outgoing = s.outgoing ++ bytes := by
  rcases write_cases s bytes with ⟨fault, eq⟩ | ⟨e, s'', eq, _⟩
  · cases eq.symm.trans written
    rfl
  · cases eq.symm.trans written

theorem broken_of_write {s s' : Socket} {bytes : List UInt8} {e : String}
    (failed : s.write bytes = (.error e, s')) : s'.Broken := by
  rcases write_cases s bytes with ⟨fault, eq⟩ | ⟨e', s'', eq, broken⟩
  · cases eq.symm.trans failed
  · cases eq.symm.trans failed
    exact broken

theorem Broken.write {s s' : Socket} (broken : s.Broken) {bytes : List UInt8}
    (some_bytes : 0 < bytes.length) : s.write bytes ≠ (.ok (), s') := by
  intro written
  unfold Socket.write at written
  rcases broken with shut | ⟨text, fault⟩
  · rw [if_pos shut] at written
    cases written
  by_cases shut : s.writeShut
  · rw [if_pos shut] at written
    cases written
  · have long : ¬bytes.length ≤ 0 := by omega
    simp [shut, fault, long] at written

theorem read_of_le {s : Socket} {count : Nat} (h : count ≤ s.incoming.length) :
    s.read count = (.ok (s.incoming.take count), { s with incoming := s.incoming.drop count }) :=
  if_pos h

theorem read_of_lt {s : Socket} {count : Nat} (h : s.incoming.length < count) :
    s.read count = (.error "early eof", { s with incoming := [] }) :=
  if_neg (Nat.not_le.mpr h)

end Socket

namespace Program

variable {ε ε' α β : Type}

def run : Program ε α → Socket → Outcome ε α × Socket
  | done value, s => (.ok value, s)
  | fail error, s => (.err error, s)
  | panic, s => (.panic, s)
  | readExact count next, s => (next (s.read count).1).run (s.read count).2
  | writeAll bytes next, s => (next (s.write bytes).1).run (s.write bytes).2
  | shutdown next, s => next.run { s with writeShut := true }

@[simp] theorem run_done (a : α) (s : Socket) : (done a : Program ε α).run s = (.ok a, s) := rfl

@[simp] theorem run_ofOutcome (x : Outcome ε α) (s : Socket) : (ofOutcome x).run s = (x, s) := by
  cases x <;> rfl

theorem run_bind (p : Program ε α) (f : α → Program ε β) (s : Socket) :
    (p >>= f).run s = match p.run s with
      | (.ok a, s') => (f a).run s'
      | (.err e, s') => (.err e, s')
      | (.panic, s') => (.panic, s') := by
  induction p generalizing s with
  | done => rfl
  | fail => rfl
  | panic => rfl
  | readExact count next ih => exact ih _ _
  | writeAll bytes next ih => exact ih _ _
  | shutdown next ih => exact ih _

theorem run_bind_ok {p : Program ε α} {f : α → Program ε β} {s s' : Socket} {a : α}
    (h : p.run s = (.ok a, s')) : (p >>= f).run s = (f a).run s' := by
  rw [run_bind, h]

theorem run_bind_err {p : Program ε α} {f : α → Program ε β} {s s' : Socket} {e : ε}
    (h : p.run s = (.err e, s')) : (p >>= f).run s = (.err e, s') := by
  rw [run_bind, h]

theorem run_mapErr (g : ε → ε') (p : Program ε α) (s : Socket) :
    (p.mapErr g).run s = ((p.run s).1.mapErr g, (p.run s).2) := by
  induction p generalizing s with
  | done => rfl
  | fail => rfl
  | panic => rfl
  | readExact count next ih => exact ih _ _
  | writeAll bytes next ih => exact ih _ _
  | shutdown next ih => exact ih _

theorem run_attempt (p : Program ε α) (s : Socket) :
    (p.attempt : Program ε' (Except ε α)).run s = match p.run s with
      | (.ok a, s') => (.ok (.ok a), s')
      | (.err e, s') => (.ok (.error e), s')
      | (.panic, s') => (.panic, s') := by
  induction p generalizing s with
  | done => rfl
  | fail => rfl
  | panic => rfl
  | readExact count next ih => exact ih _ _
  | writeAll bytes next ih => exact ih _ _
  | shutdown next ih => exact ih _

theorem run_read_of_le {count : Nat} {s : Socket} (h : count ≤ s.incoming.length) :
    (read count).run s =
      (.ok (s.incoming.take count), { s with incoming := s.incoming.drop count }) := by
  simp [read, run, Socket.read_of_le h]

theorem run_read_of_lt {count : Nat} {s : Socket} (h : s.incoming.length < count) :
    (read count).run s = (.err "early eof", { s with incoming := [] }) := by
  simp [read, run, Socket.read_of_lt h]

theorem run_write_ok {bytes : List UInt8} {s s' : Socket} (written : s.write bytes = (.ok (), s')) :
    (write bytes).run s = (.ok (), s') := by
  simp [write, run, written]

theorem run_write_error {bytes : List UInt8} {s s' : Socket} {e : String}
    (failed : s.write bytes = (.error e, s')) : (write bytes).run s = (.err e, s') := by
  simp [write, run, failed]

theorem run_read_outgoing (count : Nat) (s : Socket) :
    ((read count).run s).2.outgoing = s.outgoing := by
  by_cases enough : count ≤ s.incoming.length
  · rw [run_read_of_le enough]
  · rw [run_read_of_lt (Nat.not_le.mp enough)]

end Program

end Foundation
