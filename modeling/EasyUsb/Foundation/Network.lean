import EasyUsb.Foundation.Descent
import EasyUsb.Foundation.Exchange

namespace Foundation

/-- One direction of a connection: bytes on their way and bytes that have arrived. -/
structure Pipe where
  inFlight : List UInt8
  received : List UInt8
  deriving DecidableEq

namespace Pipe

def push (pipe : Pipe) (bytes : List UInt8) : Pipe :=
  { pipe with inFlight := pipe.inFlight ++ bytes }

def pull (pipe : Pipe) (count : Nat) : Pipe :=
  { pipe with received := pipe.received.drop count }

/-- The next `count` bytes arrive. -/
def deliver (pipe : Pipe) (count : Nat) : Pipe :=
  ⟨pipe.inFlight.drop count, pipe.received ++ pipe.inFlight.take count⟩

theorem push_deliver {pipe : Pipe} {count : Nat} (h : count ≤ pipe.inFlight.length)
    (bytes : List UInt8) : (pipe.push bytes).deliver count = (pipe.deliver count).push bytes := by
  simp [push, deliver, List.drop_append_of_le_length h, List.take_append_of_le_length h]

theorem pull_deliver {pipe : Pipe} {count : Nat} (h : count ≤ pipe.received.length)
    (more : Nat) : (pipe.pull count).deliver more = (pipe.deliver more).pull count := by
  simp [pull, deliver, List.drop_append_of_le_length h]

theorem deliver_deliver (pipe : Pipe) (count more : Nat) :
    (pipe.deliver count).deliver more = pipe.deliver (count + more) := by
  simp [deliver, List.take_add]

end Pipe

/-- What a party does: a job for each state of its memory, and the note it takes
of how the job ended. -/
structure Task (τ ε α : Type) where
  job : τ → Option (Program ε α)
  record : τ → Outcome ε α → τ

/-- A party: its memory, and the job it is at. -/
structure Party (τ ε α : Type) where
  memory : τ
  running : Option (Program ε α)

/-- One step of a party that has received these bytes: what it is then at, how
many of the bytes it took, and what it wrote. A job that shuts its half of the
connection does not belong here and stops. -/
def Party.advance {τ ε α : Type} (task : Task τ ε α) (party : Party τ ε α)
    (received : List UInt8) : Option (Party τ ε α × Nat × List UInt8) :=
  match party.running with
  | none => (task.job party.memory).map fun p => ({ party with running := some p }, 0, [])
  | some (.done a) => some (⟨task.record party.memory (.ok a), none⟩, 0, [])
  | some (.fail e) => some (⟨task.record party.memory (.err e), none⟩, 0, [])
  | some .panic => some (⟨task.record party.memory .panic, none⟩, 0, [])
  | some (.readExact count next) =>
    if count ≤ received.length then
      some ({ party with running := some (next (.ok (received.take count))) }, count, [])
    else none
  | some (.writeAll bytes next) => some ({ party with running := some (next (.ok ())) }, 0, bytes)
  | some (.shutdown _) => none

/-- Two parties and the two directions between them. -/
structure Network (τ ε α τ' ε' α' : Type) where
  near : Party τ ε α
  far : Party τ' ε' α'
  toNear : Pipe
  toFar : Pipe

namespace Network

variable {τ ε α τ' ε' α' : Type}

/-- The same connection seen from the other end. -/
def swap (s : Network τ ε α τ' ε' α') : Network τ' ε' α' τ ε α :=
  ⟨s.far, s.near, s.toFar, s.toNear⟩

/-- A step at the near end: its party moves, or some bytes arrive there. The weight
of a step counts them. -/
inductive NearStep (task : Task τ ε α) :
    Nat → Network τ ε α τ' ε' α' → Network τ ε α τ' ε' α' → Prop where
  | act {s : Network τ ε α τ' ε' α'} {party : Party τ ε α} {count : Nat} {bytes : List UInt8}
    (moved : s.near.advance task s.toNear.received = some (party, count, bytes)) :
    NearStep task 1 s
      { s with near := party, toNear := s.toNear.pull count, toFar := s.toFar.push bytes }
  | deliver {s : Network τ ε α τ' ε' α'} {count : Nat} (some_bytes : 0 < count)
    (sent : count ≤ s.toNear.inFlight.length) :
    NearStep task count s { s with toNear := s.toNear.deliver count }

inductive Step (near : Task τ ε α) (far : Task τ' ε' α') :
    Nat → Network τ ε α τ' ε' α' → Network τ ε α τ' ε' α' → Prop where
  | near {w : Nat} {s t : Network τ ε α τ' ε' α'} (step : NearStep near w s t) : Step near far w s t
  | far {w : Nat} {s t : Network τ ε α τ' ε' α'} (step : NearStep far w s.swap t.swap) :
    Step near far w s t

variable {near : Task τ ε α} {far : Task τ' ε' α'}

theorem Step.swap {w : Nat} {s t : Network τ ε α τ' ε' α'} (step : Step near far w s t) :
    Step far near w s.swap t.swap := by
  cases step with
  | near step => exact .far step
  | far step => exact .near step

theorem path_swap {w : Nat} {s t : Network τ ε α τ' ε' α'} (path : Path (Step near far) w s t) :
    Path (Step far near) w s.swap t.swap :=
  path.map swap fun _ _ _ step => step.swap

theorem advance_readExact {task : Task τ ε α} {memory : τ} {count : Nat}
    {next : Except String (List UInt8) → Program ε α} {received : List UInt8}
    (enough : count ≤ received.length) :
    (⟨memory, some (.readExact count next)⟩ : Party τ ε α).advance task received =
      some (⟨memory, some (next (.ok (received.take count)))⟩, count, []) :=
  if_pos enough

/-- More bytes having arrived changes nothing about a step a party can take. -/
theorem advance_append {task : Task τ ε α} {party party' : Party τ ε α}
    {received bytes : List UInt8} {count : Nat}
    (moved : party.advance task received = some (party', count, bytes)) (more : List UInt8) :
    count ≤ received.length ∧
      party.advance task (received ++ more) = some (party', count, bytes) := by
  obtain ⟨memory, running⟩ := party
  cases running with
  | none =>
    refine ⟨?_, moved⟩
    obtain ⟨p, _, result⟩ := Option.map_eq_some_iff.mp moved
    cases result
    exact Nat.zero_le _
  | some p =>
    cases p with
    | readExact n next =>
      by_cases enough : n ≤ received.length
      · have still : n ≤ (received ++ more).length := by
          rw [List.length_append]
          omega
        rw [advance_readExact enough] at moved
        cases moved
        rw [advance_readExact still, List.take_append_of_le_length enough]
        exact ⟨enough, rfl⟩
      · have waits : (none : Option (Party τ ε α × Nat × List UInt8)) =
            some (party', count, bytes) := (if_neg enough).symm.trans moved
        cases waits
    | shutdown next => cases moved
    | _ =>
      cases moved
      exact ⟨Nat.zero_le _, rfl⟩

theorem act_deliver {s t u : Network τ ε α τ' ε' α'} {party : Party τ ε α} {count more : Nat}
    {bytes : List UInt8}
    (moved : s.near.advance near s.toNear.received = some (party, count, bytes))
    (some_bytes : 0 < more) (sent : more ≤ s.toNear.inFlight.length)
    (ht : t = { s with
      near := party, toNear := s.toNear.pull count, toFar := s.toFar.push bytes })
    (hu : u = { s with toNear := s.toNear.deliver more }) :
    ∃ v, NearStep near more t v ∧ NearStep near 1 u v := by
  subst ht hu
  obtain ⟨enough, later⟩ := advance_append moved (s.toNear.inFlight.take more)
  refine ⟨⟨party, s.far, (s.toNear.pull count).deliver more, s.toFar.push bytes⟩,
    .deliver some_bytes sent, ?_⟩
  rw [Pipe.pull_deliver enough]
  exact .act later

theorem peak_near {a b : Nat} {s t u : Network τ ε α τ' ε' α'} (left : NearStep near a s t)
    (right : NearStep near b s u) :
    ∃ p q v, Path (Step near far) p t v ∧ Path (Step near far) q u v ∧ a + p = b + q := by
  cases left with
  | act moved =>
    cases right with
    | act moved' =>
      cases moved.symm.trans moved'
      exact ⟨0, 0, _, .refl _, .refl _, rfl⟩
    | deliver some_bytes sent =>
      obtain ⟨v, arrives, acts⟩ := act_deliver moved some_bytes sent rfl rfl
      exact ⟨b, 1, v, .single (.near arrives), .single (.near acts), Nat.add_comm _ _⟩
  | deliver some_bytes sent =>
    cases right with
    | act moved =>
      obtain ⟨v, arrives, acts⟩ := act_deliver moved some_bytes sent rfl rfl
      exact ⟨1, a, v, .single (.near acts), .single (.near arrives), Nat.add_comm _ _⟩
    | deliver some_bytes' sent' =>
      -- The longer arrival is the shorter one and the rest of it.
      have split : ∀ c d : Nat, c < d → d ≤ s.toNear.inFlight.length →
          NearStep near (d - c) { s with toNear := s.toNear.deliver c }
            { s with toNear := s.toNear.deliver d } := by
        intro c d less sent
        have whole : s.toNear.deliver d = (s.toNear.deliver c).deliver (d - c) := by
          rw [Pipe.deliver_deliver, Nat.add_sub_cancel' (Nat.le_of_lt less)]
        rw [whole]
        refine .deliver (by omega) ?_
        show d - c ≤ (s.toNear.inFlight.drop c).length
        rw [List.length_drop]
        omega
      rcases Nat.lt_trichotomy a b with less | same | more
      · exact ⟨b - a, 0, _, .single (.near (split a b less sent')), .refl _, by omega⟩
      · subst same
        exact ⟨0, 0, _, .refl _, .refl _, rfl⟩
      · exact ⟨0, a - b, _, .refl _, .single (.near (split b a more sent)), by omega⟩

theorem commute {a b : Nat} {s t : Network τ ε α τ' ε' α'} {u : Network τ' ε' α' τ ε α}
    (left : NearStep near a s t) (right : NearStep far b s.swap u) :
    ∃ v, NearStep far b t.swap v ∧ NearStep near a u.swap v.swap := by
  cases left with
  | @act _ party count bytes moved =>
    cases right with
    | @act _ party' count' bytes' moved' =>
      exact ⟨⟨party', party, (s.toFar.push bytes).pull count', (s.toNear.pull count).push bytes'⟩,
        .act moved', .act moved⟩
    | deliver some_bytes sent =>
      have sent : b ≤ s.toFar.inFlight.length := sent
      have longer : b ≤ (s.toFar.push bytes).inFlight.length := by
        show b ≤ (s.toFar.inFlight ++ bytes).length
        rw [List.length_append]
        exact Nat.le_add_right_of_le sent
      refine ⟨⟨s.far, party, (s.toFar.push bytes).deliver b, s.toNear.pull count⟩,
        .deliver some_bytes longer, ?_⟩
      rw [Pipe.push_deliver sent]
      exact .act moved
  | deliver some_bytes sent =>
    cases right with
    | @act _ party' count' bytes' moved' =>
      have longer : a ≤ (s.toNear.push bytes').inFlight.length := by
        show a ≤ (s.toNear.inFlight ++ bytes').length
        rw [List.length_append]
        exact Nat.le_add_right_of_le sent
      refine ⟨⟨party', s.near, s.toFar.pull count', (s.toNear.deliver a).push bytes'⟩,
        .act moved', ?_⟩
      rw [← Pipe.push_deliver sent]
      exact .deliver some_bytes longer
    | deliver some_bytes' sent' =>
      exact ⟨⟨s.far, s.near, s.toFar.deliver b, s.toNear.deliver a⟩,
        .deliver some_bytes' sent', .deliver some_bytes sent⟩

theorem peak_both {a b : Nat} {s t u : Network τ ε α τ' ε' α'} (left : NearStep near a s t)
    (right : NearStep far b s.swap u.swap) :
    ∃ p q v, Path (Step near far) p t v ∧ Path (Step near far) q u v ∧ a + p = b + q := by
  obtain ⟨v, right', left'⟩ := commute left right
  exact ⟨b, a, v.swap, .single (.far right'), .single (.near left'), Nat.add_comm _ _⟩

theorem balanced : Balanced (Step near far) where
  positive a s t step := by
    have nearly : ∀ {τ ε α τ' ε' α' : Type} {task : Task τ ε α} {s t : Network τ ε α τ' ε' α'},
        NearStep task a s t → 0 < a := by
      intro _ _ _ _ _ _ _ _ _ step
      cases step with
      | act => exact Nat.one_pos
      | deliver some_bytes => exact some_bytes
    cases step with
    | near step => exact nearly step
    | far step => exact nearly step
  peak a b s t u left right := by
    cases left with
    | near left =>
      cases right with
      | near right => exact peak_near left right
      | far right => exact peak_both left right
    | far left =>
      cases right with
      | near right =>
        obtain ⟨p, q, v, fromU, fromT, sum⟩ := peak_both right left
        exact ⟨q, p, v, fromT, fromU, sum.symm⟩
      | far right =>
        obtain ⟨p, q, v, fromT, fromU, sum⟩ := @peak_near _ _ _ _ _ _ far near _ _ _ _ _ left right
        exact ⟨p, q, v.swap, path_swap fromT, path_swap fromU, sum⟩

def Leads (near : Task τ ε α) (far : Task τ' ε' α') (s t : Network τ ε α τ' ε' α') : Prop :=
  ∃ w, Path (Step near far) w s t

theorem Leads.refl (s : Network τ ε α τ' ε' α') : Leads near far s s := ⟨0, .refl s⟩

theorem Leads.trans {s t u : Network τ ε α τ' ε' α'} (first : Leads near far s t)
    (second : Leads near far t u) : Leads near far s u := by
  obtain ⟨w, first⟩ := first
  obtain ⟨w', second⟩ := second
  exact ⟨w + w', first.trans second⟩

theorem Leads.swap {s t : Network τ ε α τ' ε' α'} (leads : Leads near far s t) :
    Leads far near s.swap t.swap := by
  obtain ⟨w, path⟩ := leads
  exact ⟨w, path_swap path⟩

theorem leads_act {s : Network τ ε α τ' ε' α'} {party : Party τ ε α} {count : Nat}
    {bytes : List UInt8}
    (moved : s.near.advance near s.toNear.received = some (party, count, bytes)) :
    Leads near far s
      { s with near := party, toNear := s.toNear.pull count, toFar := s.toFar.push bytes } :=
  ⟨1, .single (.near (.act moved))⟩

theorem leads_arrive (party : Party τ ε α) (other : Party τ' ε' α') (bytes received : List UInt8)
    (toFar : Pipe) :
    Leads near far ⟨party, other, ⟨bytes, received⟩, toFar⟩
      ⟨party, other, ⟨[], received ++ bytes⟩, toFar⟩ := by
  cases bytes with
  | nil =>
    rw [List.append_nil]
    exact .refl _
  | cons b bytes =>
    have all : (⟨b :: bytes, received⟩ : Pipe).deliver (b :: bytes).length =
        ⟨[], received ++ b :: bytes⟩ := by
      simp [Pipe.deliver]
    rw [← all]
    exact ⟨_, .single (.near (.deliver (Nat.succ_pos _) (Nat.le_refl _)))⟩

theorem leads_begin {memory : τ} {p : Program ε α} (job : near.job memory = some p)
    (other : Party τ' ε' α') (toNear toFar : Pipe) :
    Leads near far ⟨⟨memory, none⟩, other, toNear, toFar⟩
      ⟨⟨memory, some p⟩, other, toNear, toFar⟩ := by
  have moved : (⟨memory, none⟩ : Party τ ε α).advance near toNear.received =
      some (⟨memory, some p⟩, 0, []) := by
    simp [Party.advance, job]
  have step := @leads_act _ _ _ _ _ _ near far ⟨⟨memory, none⟩, other, toNear, toFar⟩ _ _ _ moved
  simpa [Pipe.pull, Pipe.push] using step

/-- A party carries out an exchange whose bytes have arrived. -/
theorem leads_exchange {memory : τ} {p q : Program ε α} {ins outs : List UInt8}
    (exchange : p.Exchanges ins outs q) (other : Party τ' ε' α')
    (coming rest sent arrived : List UInt8) :
    Leads near far ⟨⟨memory, some p⟩, other, ⟨coming, ins ++ rest⟩, ⟨sent, arrived⟩⟩
      ⟨⟨memory, some q⟩, other, ⟨coming, rest⟩, ⟨sent ++ outs, arrived⟩⟩ := by
  induction exchange generalizing sent with
  | refl p =>
    rw [List.append_nil]
    exact .refl _
  | @readExact count next bytes ins outs q size tail ih =>
    have enough : count ≤ ((bytes ++ ins) ++ rest).length := by
      rw [List.length_append, List.length_append]
      omega
    have moved := @advance_readExact _ _ _ near memory count next _ enough
    have step := @leads_act _ _ _ _ _ _ near far
      ⟨⟨memory, some (.readExact count next)⟩, other, ⟨coming, (bytes ++ ins) ++ rest⟩,
        ⟨sent, arrived⟩⟩ _ _ _ moved
    have took : ((bytes ++ ins) ++ rest).take count = bytes := by
      rw [List.append_assoc, List.take_left' size]
    have left : ((bytes ++ ins) ++ rest).drop count = ins ++ rest := by
      rw [List.append_assoc, List.drop_left' size]
    rw [took] at step
    refine step.trans ?_
    simp only [Pipe.pull, Pipe.push, left, List.append_nil]
    exact ih sent
  | @writeAll bytes ins outs next q tail ih =>
    have step := @leads_act _ _ _ _ _ _ near far
      ⟨⟨memory, some (.writeAll bytes next)⟩, other, ⟨coming, ins ++ rest⟩,
        ⟨sent, arrived⟩⟩ _ _ _ rfl
    refine step.trans ?_
    rw [← List.append_assoc]
    exact ih (sent ++ bytes)

theorem leads_done (memory : τ) (a : α) (other : Party τ' ε' α') (toNear toFar : Pipe) :
    Leads near far ⟨⟨memory, some (.done a)⟩, other, toNear, toFar⟩
      ⟨⟨near.record memory (.ok a), none⟩, other, toNear, toFar⟩ := by
  have step := @leads_act _ _ _ _ _ _ near far
    ⟨⟨memory, some (.done a)⟩, other, toNear, toFar⟩ _ _ _ rfl
  simpa [Pipe.pull, Pipe.push] using step

theorem leads_fail (memory : τ) (e : ε) (other : Party τ' ε' α') (toNear toFar : Pipe) :
    Leads near far ⟨⟨memory, some (.fail e)⟩, other, toNear, toFar⟩
      ⟨⟨near.record memory (.err e), none⟩, other, toNear, toFar⟩ := by
  have step := @leads_act _ _ _ _ _ _ near far
    ⟨⟨memory, some (.fail e)⟩, other, toNear, toFar⟩ _ _ _ rfl
  simpa [Pipe.pull, Pipe.push] using step

theorem leads_job {memory : τ} {p : Program ε α} {ins outs : List UInt8} {a : α}
    (job : near.job memory = some p) (exchange : p.Exchanges ins outs (.done a))
    (other : Party τ' ε' α') (coming rest sent arrived : List UInt8) :
    Leads near far ⟨⟨memory, none⟩, other, ⟨coming, ins ++ rest⟩, ⟨sent, arrived⟩⟩
      ⟨⟨near.record memory (.ok a), none⟩, other, ⟨coming, rest⟩, ⟨sent ++ outs, arrived⟩⟩ :=
  (leads_begin job other _ _).trans
    ((leads_exchange exchange other coming rest sent arrived).trans
      (leads_done memory a other _ _))

/-- Nothing moves where both parties wait and nothing is on its way. -/
def Quiet (near : Task τ ε α) (far : Task τ' ε' α') (s : Network τ ε α τ' ε' α') : Prop :=
  s.near.advance near s.toNear.received = none ∧ s.far.advance far s.toFar.received = none ∧
    s.toNear.inFlight = [] ∧ s.toFar.inFlight = []

theorem Quiet.no_step {s : Network τ ε α τ' ε' α'} (quiet : Quiet near far s) (w : Nat)
    (t : Network τ ε α τ' ε' α') : ¬Step near far w s t := by
  obtain ⟨nearWaits, farWaits, nothingNear, nothingFar⟩ := quiet
  rintro (step | step)
  · cases step with
    | act moved => cases nearWaits.symm.trans moved
    | deliver some_bytes sent =>
      rw [nothingNear] at sent
      exact absurd some_bytes (Nat.not_lt.mpr sent)
  · generalize t.swap = u at step
    cases step with
    | act moved => cases farWaits.symm.trans moved
    | deliver some_bytes sent =>
      have sent : w ≤ s.toFar.inFlight.length := sent
      rw [nothingFar] at sent
      exact absurd some_bytes (Nat.not_lt.mpr sent)

/-- Once one way leads to a quiet state, every way can be continued to it, and the
weights of a way and of its continuation always have the same sum. -/
theorem Leads.all {s goal : Network τ ε α τ' ε' α'} (leads : Leads near far s goal)
    (quiet : Quiet near far goal) :
    ∃ total, ∀ w t, Path (Step near far) w s t →
      ∃ rest, Path (Step near far) rest t goal ∧ w + rest = total := by
  obtain ⟨total, way⟩ := leads
  exact ⟨total, fun w t other => balanced.descent quiet.no_step way other⟩

theorem advance_memory {P : τ → τ → Prop} (refl : ∀ m, P m m)
    (note : ∀ m r, P m (near.record m r)) {party party' : Party τ ε α} {received bytes : List UInt8}
    {count : Nat} (moved : party.advance near received = some (party', count, bytes)) :
    P party.memory party'.memory := by
  obtain ⟨memory, running⟩ := party
  cases running with
  | none =>
    obtain ⟨p, _, result⟩ := Option.map_eq_some_iff.mp moved
    cases result
    exact refl memory
  | some p =>
    cases p with
    | readExact n next =>
      rw [Party.advance] at moved
      obtain ⟨_, result⟩ := Option.ite_none_right_eq_some.mp moved
      cases result
      exact refl memory
    | writeAll bytes next =>
      cases moved
      exact refl memory
    | shutdown next => cases moved
    | _ =>
      cases moved
      exact note memory _

/-- What happens at the other end is nothing to a party. -/
theorem near_of_far {w : Nat} {s t : Network τ ε α τ' ε' α'} (step : NearStep far w s.swap t.swap) :
    t.near = s.near := by
  have still : t.swap.far = s.swap.far := by
    generalize t.swap = u at step
    cases step <;> rfl
  exact still

theorem step_memory {P : τ → τ → Prop} (refl : ∀ m, P m m) (note : ∀ m r, P m (near.record m r))
    {w : Nat} {s t : Network τ ε α τ' ε' α'} (step : Step near far w s t) :
    P s.near.memory t.near.memory := by
  cases step with
  | near step =>
    cases step with
    | act moved => exact advance_memory refl note moved
    | deliver => exact refl _
  | far step =>
    rw [near_of_far step]
    exact refl _

theorem path_memory {P : τ → τ → Prop} (refl : ∀ m, P m m)
    (trans : ∀ m m' m'', P m m' → P m' m'' → P m m'') (note : ∀ m r, P m (near.record m r))
    {w : Nat} {s t : Network τ ε α τ' ε' α'} (path : Path (Step near far) w s t) :
    P s.near.memory t.near.memory :=
  path.keeps (P := fun s t : Network τ ε α τ' ε' α' => P s.near.memory t.near.memory)
    (fun _ => refl _) (fun _ _ _ => trans _ _ _) fun _ _ _ step => step_memory refl note step

end Network

end Foundation
