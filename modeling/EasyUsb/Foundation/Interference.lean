import Mathlib.Data.List.Basic

namespace Foundation

section

variable {σ α β : Type} (step : σ → α → Option (β × σ))

/-- Calls made one after the other: each with its answer, and the state they leave. -/
def transcript : σ → List α → Option (List (α × β) × σ)
  | s, [] => some ([], s)
  | s, a :: calls => do
    let (answer, s') ← step s a
    let (log, last) ← transcript s' calls
    return ((a, answer) :: log, last)

/-- While a guard holds, calls of one kind are answered without regard to the others:
a relation of states that the others keep settles the answers and is kept. -/
structure Unaffected (kind : α → Bool) (guard : σ → Prop) (Same : σ → σ → Prop) : Prop where
  before : ∀ s a b s', step s a = some (b, s') → guard s' → guard s
  others : ∀ s t a b s', kind a = false → step s a = some (b, s') → guard s' → Same s t → Same s' t
  answers : ∀ s t a b s', kind a = true → step s a = some (b, s') → guard s' → Same s t →
    ∃ t', step t a = some (b, t') ∧ Same s' t'

variable {step}

theorem transcript_cons {s s' last : σ} {a : α} {b : β} {calls : List α} {log : List (α × β)}
    (first : step s a = some (b, s')) (later : transcript step s' calls = some (log, last)) :
    transcript step s (a :: calls) = some ((a, b) :: log, last) := by
  rw [transcript, first]
  show (transcript step s' calls >>= _ : Option _) = _
  rw [later]
  rfl

theorem transcript_cons_some {s last : σ} {a : α} {calls : List α} {log : List (α × β)}
    (made : transcript step s (a :: calls) = some (log, last)) :
    ∃ b s' others, step s a = some (b, s') ∧ transcript step s' calls = some (others, last) ∧
      log = (a, b) :: others := by
  rw [transcript] at made
  obtain ⟨⟨b, s'⟩, first, made⟩ := Option.bind_eq_some_iff.mp made
  obtain ⟨⟨others, t⟩, later, made⟩ := Option.bind_eq_some_iff.mp made
  cases made
  exact ⟨b, s', others, first, later, rfl⟩

theorem exists_transcript (answered : ∀ s a, ∃ r, step s a = some r) (calls : List α) (s : σ) :
    ∃ log last, transcript step s calls = some (log, last) := by
  induction calls generalizing s with
  | nil => exact ⟨[], s, rfl⟩
  | cons a calls ih =>
    obtain ⟨⟨b, s'⟩, first⟩ := answered s a
    obtain ⟨log, last, later⟩ := ih s'
    exact ⟨_, last, transcript_cons first later⟩

theorem Unaffected.guarded {kind : α → Bool} {guard : σ → Prop} {Same : σ → σ → Prop}
    (free : Unaffected step kind guard Same) {calls : List α} {s last : σ} {log : List (α × β)}
    (made : transcript step s calls = some (log, last)) (held : guard last) : guard s := by
  induction calls generalizing s log with
  | nil =>
    cases made
    exact held
  | cons a calls ih =>
    obtain ⟨b, s', others, first, later, rfl⟩ := transcript_cons_some made
    exact free.before s a b s' first (ih later)

end

end Foundation
