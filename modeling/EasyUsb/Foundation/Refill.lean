import EasyUsb.Foundation.Outcome

namespace Foundation

variable {β ε α : Type}

/-- How much input a decoder asks for, by the errors that ask for more. -/
def asks (decode : List β → Outcome ε α) (needed : ε → Option Nat) (buf : List β) : Option Nat :=
  match decode buf with
  | .err e => needed e
  | _ => none

/-- A decoder whose verdicts are final unless it asks for more input than it has,
and which keeps asking for the same until it has that much. -/
structure Incremental (decode : List β → Outcome ε α) (needed : ε → Option Nat) : Prop where
  final : ∀ buf more, asks decode needed buf = none → decode (buf ++ more) = decode buf
  short : ∀ buf n, asks decode needed buf = some n → buf.length < n
  steady : ∀ buf more n, asks decode needed buf = some n → (buf ++ more).length < n →
    asks decode needed (buf ++ more) = some n

inductive Refilled (ε α : Type) where
  | done (result : Outcome ε α)
  | ended
  | tired
  deriving DecidableEq

/-- Decode what is there of a stream, at most so many times extending it to what
the decoder asks for. -/
def refill (decode : List β → Outcome ε α) (needed : ε → Option Nat) (stream : List β) :
    Nat → Nat → Refilled ε α
  | refills, held =>
    match asks decode needed (stream.take held) with
    | none => .done (decode (stream.take held))
    | some n =>
      if stream.length < n then .ended
      else match refills with
        | 0 => .tired
        | refills + 1 => refill decode needed stream refills n

section Refills

variable {decode : List β → Outcome ε α} {needed : ε → Option Nat} {stream : List β}
  {refills held n : Nat}

theorem asks_congr {buf buf' : List β} (same : decode buf = decode buf') :
    asks decode needed buf = asks decode needed buf' := by
  unfold asks
  rw [same]

theorem asks_of_err {buf : List β} {e : ε} (refused : decode buf = .err e) :
    asks decode needed buf = needed e := by
  unfold asks
  rw [refused]

theorem asks_of_ok {buf : List β} {result : α} (decoded : decode buf = .ok result) :
    asks decode needed buf = none := by
  unfold asks
  rw [decoded]

theorem refill_final (done : asks decode needed (stream.take held) = none) :
    refill decode needed stream refills held = .done (decode (stream.take held)) := by
  unfold refill
  rw [done]

theorem refill_ended (more : asks decode needed (stream.take held) = some n)
    (late : stream.length < n) : refill decode needed stream refills held = .ended := by
  unfold refill
  rw [more]
  exact if_pos late

theorem refill_again (more : asks decode needed (stream.take held) = some n)
    (there : n ≤ stream.length) :
    refill decode needed stream (refills + 1) held = refill decode needed stream refills n := by
  rw [refill, more]
  exact if_neg (Nat.not_lt.mpr there)

end Refills

namespace Incremental

variable {decode : List β → Outcome ε α} {needed : ε → Option Nat}

theorem rising (h : Incremental decode needed) {buf more : List β} {n m : Nat}
    (there : n ≤ (buf ++ more).length) (later : asks decode needed (buf ++ more) = some m) :
    n < m :=
  Nat.lt_of_le_of_lt there (h.short _ m later)

theorem refill_done (h : Incremental decode needed) {stream : List β} {held : Nat}
    (asked : asks decode needed (stream.take held) = none) (refills : Nat) :
    refill decode needed stream refills held = .done (decode stream) ∧
      asks decode needed stream = none := by
  have whole := h.final (stream.take held) (stream.drop held) asked
  rw [List.take_append_drop] at whole
  exact ⟨by rw [refill_final asked, whole], (asks_congr whole).trans asked⟩

/-- A loop allowed one refill for each rank of what its decoder can ask for gives
the verdict on the whole stream, unless the stream ends before that. -/
theorem refill_verdict (h : Incremental decode needed) (rank : Nat → Nat)
    (falls : ∀ buf more n m, asks decode needed buf = some n → n ≤ (buf ++ more).length →
      asks decode needed (buf ++ more) = some m → rank m < rank n)
    (stream : List β) {refills held : Nat}
    (enough : ∀ n, asks decode needed (stream.take held) = some n → rank n < refills) :
    (refill decode needed stream refills held = .done (decode stream) ∧
      asks decode needed stream = none) ∨
    (refill decode needed stream refills held = .ended ∧ asks decode needed stream ≠ none) := by
  induction refills generalizing held with
  | zero =>
    cases asked : asks decode needed (stream.take held) with
    | some n => exact absurd (enough n asked) (Nat.not_lt_zero _)
    | none => exact Or.inl (h.refill_done asked _)
  | succ refills ih =>
    cases asked : asks decode needed (stream.take held) with
    | none => exact Or.inl (h.refill_done asked _)
    | some n =>
      by_cases late : stream.length < n
      · have still := h.steady (stream.take held) (stream.drop held) n asked
        rw [List.take_append_drop] at still
        refine Or.inr ⟨refill_ended asked late, ?_⟩
        rw [still late]
        exact Option.some_ne_none n
      · have there : n ≤ stream.length := Nat.not_lt.mp late
        have longer := h.short _ n asked
        rw [List.length_take] at longer
        have grown : stream.take n = stream.take held ++ (stream.take n).drop held := by
          have parts := List.take_append_drop held (stream.take n)
          rw [List.take_take, Nat.min_eq_left (by omega)] at parts
          exact parts.symm
        rw [refill_again asked there]
        refine ih (fun m next => ?_)
        have size : n ≤ (stream.take held ++ (stream.take n).drop held).length := by
          rw [← grown, List.length_take]
          omega
        rw [grown] at next
        have lower := falls _ _ n m asked size next
        have first := enough n asked
        omega

end Incremental

end Foundation
