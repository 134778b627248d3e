import EasyUsb.Foundation.Network

namespace Foundation

/-- A task that says when its party has left the connection, and has nothing to do
after that. -/
structure Guest (τ ε α : Type) extends Task τ ε α where
  left : τ → Prop
  idle : ∀ memory, left memory → job memory = none

/-- The party has dropped its end of the connection. -/
def Party.Gone {τ ε α : Type} (guest : Guest τ ε α) (party : Party τ ε α) : Prop :=
  party.running = none ∧ guest.left party.memory

theorem Party.Gone.advance {τ ε α : Type} {guest : Guest τ ε α} {party : Party τ ε α}
    (gone : party.Gone guest) (received : List UInt8) :
    party.advance guest.toTask received = none := by
  obtain ⟨memory, running⟩ := party
  obtain ⟨rests, left⟩ := gone
  cases rests
  rw [Party.advance, guest.idle memory left]
  rfl

namespace Network

variable {τ ε α τ' ε' α' : Type}

/-- A read comes to the end of the stream: the other party has left, all its bytes have
arrived, and they are fewer than are asked for. A party that leaves before it has taken
all that is sent to it may break the connection instead, which does not belong here. -/
inductive Ends (far : Guest τ' ε' α') :
    Network τ ε α τ' ε' α' → Network τ ε α τ' ε' α' → Prop where
  | eof {memory : τ} {count : Nat} {next : Except String (List UInt8) → Program ε α}
    {received : List UInt8} {other : Party τ' ε' α'} (gone : other.Gone far)
    (short : received.length < count) :
    Ends far ⟨⟨memory, some (.readExact count next)⟩, other, ⟨[], received⟩, ⟨[], []⟩⟩
      ⟨⟨memory, some (next (.error "early eof"))⟩, other, ⟨[], []⟩, ⟨[], []⟩⟩

/-- The steps of a connection whose ends are dropped when their parties leave. -/
inductive HangupStep (near : Guest τ ε α) (far : Guest τ' ε' α') :
    Nat → Network τ ε α τ' ε' α' → Network τ ε α τ' ε' α' → Prop where
  | step {w : Nat} {s t : Network τ ε α τ' ε' α'} (moved : Step near.toTask far.toTask w s t) :
    HangupStep near far w s t
  | near {s t : Network τ ε α τ' ε' α'} (ended : Ends far s t) : HangupStep near far 1 s t
  | far {s t : Network τ ε α τ' ε' α'} (ended : Ends near s.swap t.swap) :
    HangupStep near far 1 s t

variable {near : Guest τ ε α} {far : Guest τ' ε' α'}

theorem HangupStep.swap {w : Nat} {s t : Network τ ε α τ' ε' α'}
    (step : HangupStep near far w s t) : HangupStep far near w s.swap t.swap := by
  cases step with
  | step moved => exact .step moved.swap
  | near ended => exact .far ended
  | far ended => exact .near ended

/-- The party that left is left alone, and the other one is not at rest. -/
theorem Ends.apart {s t : Network τ ε α τ' ε' α'} (ended : Ends far s t) :
    t.far = s.far ∧ s.near.running ≠ none := by
  cases ended with
  | eof => exact ⟨rfl, Option.some_ne_none _⟩

/-- Where a read comes to the end of the stream, nothing else can happen. -/
theorem Ends.only {w : Nat} {s t u : Network τ ε α τ' ε' α'} (ended : Ends far s t)
    (step : HangupStep near far w s u) : w = 1 ∧ u = t := by
  cases ended with
  | @eof memory count next received other gone short =>
    cases step with
    | step moved =>
      cases moved with
      | near step =>
        cases step with
        | act moved =>
          have waits : ¬count ≤ received.length := Nat.not_le.mpr short
          cases moved.symm.trans (if_neg waits)
        | deliver some_bytes sent => exact absurd some_bytes (Nat.not_lt.mpr sent)
      | far step =>
        generalize u.swap = v at step
        cases step with
        | act moved => cases moved.symm.trans (gone.advance _)
        | deliver some_bytes sent => exact absurd some_bytes (Nat.not_lt.mpr sent)
    | near ended =>
      cases ended with
      | eof => exact ⟨rfl, rfl⟩
    | far ended => exact absurd gone.1 ended.apart.2

theorem Ends.only_far {w : Nat} {s t u : Network τ ε α τ' ε' α'} (ended : Ends near s.swap t.swap)
    (step : HangupStep near far w s u) : w = 1 ∧ u = t := by
  obtain ⟨weight, same⟩ := ended.only step.swap
  exact ⟨weight, congrArg Network.swap same⟩

theorem hangup_balanced : Balanced (HangupStep near far) where
  positive a s t step := by
    cases step with
    | step moved => exact balanced.positive _ _ _ moved
    | near => exact Nat.one_pos
    | far => exact Nat.one_pos
  peak a b s t u left right := by
    cases left with
    | step left =>
      cases right with
      | step right =>
        obtain ⟨p, q, v, fromT, fromU, sum⟩ := balanced.peak _ _ _ _ _ left right
        exact ⟨p, q, v, fromT.map id fun _ _ _ => .step, fromU.map id fun _ _ _ => .step, sum⟩
      | near ended =>
        obtain ⟨rfl, rfl⟩ := ended.only (.step left)
        exact ⟨0, 0, _, .refl _, .refl _, rfl⟩
      | far ended =>
        obtain ⟨rfl, rfl⟩ := ended.only_far (.step left)
        exact ⟨0, 0, _, .refl _, .refl _, rfl⟩
    | near ended =>
      obtain ⟨rfl, rfl⟩ := ended.only right
      exact ⟨0, 0, _, .refl _, .refl _, rfl⟩
    | far ended =>
      obtain ⟨rfl, rfl⟩ := ended.only_far right
      exact ⟨0, 0, _, .refl _, .refl _, rfl⟩

/-- Whoever has left stays as it is. -/
theorem gone_stays {w : Nat} {s t : Network τ ε α τ' ε' α'} (step : HangupStep near far w s t)
    (gone : s.near.Gone near) : t.near = s.near := by
  cases step with
  | step moved =>
    cases moved with
    | near step =>
      cases step with
      | act moved => cases moved.symm.trans (gone.advance _)
      | deliver => rfl
    | far step => exact near_of_far step
  | near ended => exact absurd gone.1 ended.apart.2
  | far ended => exact ended.apart.1

theorem hangup_memory {P : τ → τ → Prop} (refl : ∀ m, P m m) (note : ∀ m r, P m (near.record m r))
    {w : Nat} {s t : Network τ ε α τ' ε' α'} (step : HangupStep near far w s t) :
    P s.near.memory t.near.memory := by
  cases step with
  | step moved => exact step_memory refl note moved
  | near ended =>
    cases ended with
    | eof => exact refl _
  | far ended =>
    have same : t.near = s.near := ended.apart.1
    rw [same]
    exact refl _

/-- Nothing happens where both parties have left and nothing is on its way. -/
theorem no_step_of_gone {s : Network τ ε α τ' ε' α'} (nearGone : s.near.Gone near)
    (farGone : s.far.Gone far) (nothingNear : s.toNear.inFlight = [])
    (nothingFar : s.toFar.inFlight = []) (w : Nat) (t : Network τ ε α τ' ε' α') :
    ¬HangupStep near far w s t := by
  intro step
  cases step with
  | step moved =>
    have quiet : Quiet near.toTask far.toTask s :=
      ⟨nearGone.advance _, farGone.advance _, nothingNear, nothingFar⟩
    exact quiet.no_step w t moved
  | near ended => exact ended.apart.2 nearGone.1
  | far ended => exact ended.apart.2 farGone.1

def Drops (near : Guest τ ε α) (far : Guest τ' ε' α') (s t : Network τ ε α τ' ε' α') : Prop :=
  ∃ w, Path (HangupStep near far) w s t

theorem Leads.drops {s t : Network τ ε α τ' ε' α'} (leads : Leads near.toTask far.toTask s t) :
    Drops near far s t := by
  obtain ⟨w, path⟩ := leads
  exact ⟨w, path.map id fun _ _ _ => .step⟩

theorem Drops.trans {s t u : Network τ ε α τ' ε' α'} (first : Drops near far s t)
    (second : Drops near far t u) : Drops near far s u := by
  obtain ⟨w, first⟩ := first
  obtain ⟨w', second⟩ := second
  exact ⟨w + w', first.trans second⟩

theorem Drops.swap {s t : Network τ ε α τ' ε' α'} (drops : Drops near far s t) :
    Drops far near s.swap t.swap := by
  obtain ⟨w, path⟩ := drops
  exact ⟨w, path.map Network.swap fun _ _ _ step => step.swap⟩

/-- A party that waits for more than is left, and fails when it is told so. -/
theorem drops_fail {memory : τ} {count : Nat}
    {next : Except String (List UInt8) → Program ε α} {e : ε} {other : Party τ' ε' α'}
    (gone : other.Gone far) {received : List UInt8} (short : received.length < count)
    (fails : next (.error "early eof") = .fail e) :
    Drops near far
      ⟨⟨memory, some (.readExact count next)⟩, other, ⟨[], received⟩, ⟨[], []⟩⟩
      ⟨⟨near.record memory (.err e), none⟩, other, ⟨[], []⟩, ⟨[], []⟩⟩ := by
  have ends : Drops near far
      ⟨⟨memory, some (.readExact count next)⟩, other, ⟨[], received⟩, ⟨[], []⟩⟩
      ⟨⟨memory, some (next (.error "early eof"))⟩, other, ⟨[], []⟩, ⟨[], []⟩⟩ :=
    ⟨1, .single (.near (.eof gone short))⟩
  rw [fails] at ends
  exact ends.trans (leads_fail memory e other _ _).drops

end Network

end Foundation
